namespace RestorePlugins.Files

/-!
# Paths

* `pieces` — the texts between the slashes of a path, as they are followed one by one.
* `Location` — a path by component.  Repeated and trailing slashes say nothing, nor does a dot
  inside of a path; a dot in front of a relative path does.
* `samePath` — equality of paths by component.
-/

/-! ### Pieces -/

/-- The pieces of a path, of which the first is empty if the path begins at the root. -/
def pieces (path : String) : List String := (path.toList.splitOn '/').map String.ofList

/-- Whether a path begins at the root. -/
def isAbsolute (path : String) : Bool := path.toList.head? == some '/'

/-! ### Components -/

/-- A path by component. -/
structure Location where
  /-- Whether the path begins at the root. -/
  absolute : Bool
  parts : List String
  deriving DecidableEq, Repr

namespace Location

/-- The pieces that name something. -/
def meaningful (pieces : List String) : List String :=
  pieces.filter fun piece => decide (piece ≠ "" ∧ piece ≠ ".")

/-- The components of a path. -/
def ofPath (path : String) : Location :=
  if isAbsolute path then ⟨true, meaningful (pieces path)⟩
  else match pieces path with
    | "." :: rest => ⟨false, "." :: meaningful rest⟩
    | all => ⟨false, meaningful all⟩

/-- The path without its last component. -/
def parent? (l : Location) : Option Location :=
  if l.parts.isEmpty then none else some { l with parts := l.parts.dropLast }

/-- All shorter beginnings of a list, the longest first. -/
def beginnings : List String → List (List String)
  | [] => []
  | part :: rest => (beginnings rest).map (part :: ·) ++ [[]]

/-- The parent, its parent, and so on. -/
def parents (l : Location) : List Location :=
  (beginnings l.parts).map fun parts => { l with parts := parts }

/-- The path as a text. -/
def text (l : Location) : String :=
  (if l.absolute then "/" else "") ++ "/".intercalate l.parts

end Location

/-- Whether two paths have the same components. -/
def samePath (a b : String) : Bool := decide (Location.ofPath a = Location.ofPath b)

/-- The path of a file in a directory. -/
def join (directory name : String) : String :=
  if directory = "" || directory.toList.getLast? == some '/' then directory ++ name
  else directory ++ "/" ++ name

end RestorePlugins.Files
