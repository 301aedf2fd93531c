import RestorePlugins.Entries
import RestorePlugins.Files.Location
import RestorePlugins.Text.Utf8

namespace RestorePlugins.Files

/-!
# File systems

A file system holds a node at each location; a location is the list of names on the way from
the root to the node, without links.

* `FileSystem.place` — follows a path, piece by piece and through no more than forty links, to a
  node or to a vacant name.
* `read`, `create`, `unlink`, `makeDirectory`, `makeDirectories`, `setMode`, `bind` — the
  operations, each with the error of the first rule that it breaks.
* `FileSystem.node?_set`, `node?_remove` — an operation changes one location only.
-/

/-! ### Errors -/

/-- Why a file operation is refused. -/
inductive FileError where
  | notFound
  | noDevice
  | alreadyExists
  | notDirectory
  | isDirectory
  | nameTooLong
  | tooManyLinks
  | addressInUse
  | connectionRefused
  | nulByte
  | nulInAddress
  | pathTooLong
  | abstractNameTooLong
  deriving DecidableEq, Repr

/-- The wording of a refusal, with the number that the system gives it. -/
def FileError.message : FileError → String
  | notFound => "No such file or directory (os error 2)"
  | noDevice => "No such device or address (os error 6)"
  | alreadyExists => "File exists (os error 17)"
  | notDirectory => "Not a directory (os error 20)"
  | isDirectory => "Is a directory (os error 21)"
  | nameTooLong => "File name too long (os error 36)"
  | tooManyLinks => "Too many levels of symbolic links (os error 40)"
  | addressInUse => "Address already in use (os error 98)"
  | connectionRefused => "Connection refused (os error 111)"
  | nulByte => "file name contained an unexpected NUL byte"
  | nulInAddress => "paths must not contain interior null bytes"
  | pathTooLong => "path must be shorter than SUN_LEN"
  | abstractNameTooLong => "abstract socket name must be shorter than SUN_LEN"

/-! ### Nodes -/

/-- What may be found at a location. -/
inductive Node where
  | directory (mode : Nat)
  | file (content : Bytes) (mode : Nat)
  | socket (mode : Nat)
  | link (target : String)
  deriving DecidableEq, Repr

namespace Node

/-- The permission bits of a node; links have all. -/
def mode : Node → Nat
  | directory mode => mode
  | file _ mode => mode
  | socket mode => mode
  | link _ => 0o777

/-- The node with other permission bits. -/
def withMode (mode : Nat) : Node → Node
  | directory _ => directory mode
  | file content _ => file content mode
  | socket _ => socket mode
  | link target => link target

end Node

/-- The names on the way from the root to a node. -/
abbrev Names := List String

/-- The nodes by location, the directory where relative paths begin, and the names of sockets that
have no file.  The root is a directory whether it is listed or not. -/
structure FileSystem where
  nodes : List (Names × Node) := []
  workingDirectory : Names := []
  abstractNames : List String := []
  deriving DecidableEq, Repr

namespace FileSystem

/-- The first node that is listed for a location. -/
def lookup (names : Names) : List (Names × Node) → Option Node
  | [] => none
  | entry :: rest => if entry.1 = names then some entry.2 else lookup names rest

/-- The node at a location. -/
def node? (fs : FileSystem) (names : Names) : Option Node :=
  match names with
  | [] => some ((lookup [] fs.nodes).getD (.directory 0o755))
  | _ => lookup names fs.nodes

/-- Puts a node at a location. -/
def set (fs : FileSystem) (names : Names) (node : Node) : FileSystem :=
  { fs with nodes := (names, node) :: fs.nodes.filter (fun entry => decide (entry.1 ≠ names)) }

/-- Takes the node at a location away. -/
def remove (fs : FileSystem) (names : Names) : FileSystem :=
  { fs with nodes := fs.nodes.filter fun entry => decide (entry.1 ≠ names) }

theorem lookup_filter_of_ne {names other : Names} (h : names ≠ other)
    (nodes : List (Names × Node)) :
    lookup other (nodes.filter fun entry => decide (entry.1 ≠ names)) = lookup other nodes := by
  induction nodes with
  | nil => rfl
  | cons entry rest ih =>
    by_cases hn : entry.1 = names
    · have : entry.1 ≠ other := hn ▸ h
      simp_all [lookup]
    · by_cases ho : entry.1 = other <;> simp_all [lookup]

/-- Putting a node at a location changes no other location. -/
theorem node?_set_of_ne {names other : Names} (h : names ≠ other) (fs : FileSystem)
    (node : Node) : (fs.set names node).node? other = fs.node? other := by
  have := lookup_filter_of_ne h fs.nodes
  cases other <;> simp_all [node?, set, lookup]

/-- Taking a node away changes no other location. -/
theorem node?_remove_of_ne {names other : Names} (h : names ≠ other) (fs : FileSystem) :
    (fs.remove names).node? other = fs.node? other := by
  have := lookup_filter_of_ne h fs.nodes
  cases other <;> simp_all [node?, remove]

/-- A node that was put at a location is there. -/
theorem node?_set_self (fs : FileSystem) (names : Names) (node : Node) :
    (fs.set names node).node? names = some node := by
  cases names <;> simp [node?, set, lookup]

/-! ### Following paths -/

/-- Where a path leads. -/
inductive Place where
  | existing (names : Names) (node : Node)
  /-- A free name in a directory; `slash` says whether slashes follow the name. -/
  | vacant (names : Names) (slash : Bool)
  deriving DecidableEq, Repr

/-- The most bytes that a name has. -/
def maxNameBytes : Nat := 255

/-- Follows pieces from a location on, up to the first link that has to be followed.  From there
`onLink` goes on, with the location where the target of the link begins and the pieces of the target
before those that are left.  A link at the end is followed only if `follow` says so. -/
def walkPieces (fs : FileSystem) (follow : Bool)
    (onLink : Names → List String → Except FileError Place) :
    Names → List String → Except FileError Place
  | names, [] =>
    match fs.node? names with
    | some node => .ok (.existing names node)
    | none => .error .notFound
  | names, piece :: rest =>
    match fs.node? names with
    | none => .error .notFound
    | some (.directory _) =>
      if piece = "" || piece = "." then walkPieces fs follow onLink names rest
      else if piece = ".." then walkPieces fs follow onLink names.dropLast rest
      else if maxNameBytes < piece.utf8ByteSize then .error .nameTooLong
      else
        let next := names ++ [piece]
        match fs.node? next with
        | none =>
          if rest.all (· = "") then .ok (.vacant next !rest.isEmpty) else .error .notFound
        | some (.link target) =>
          if rest.isEmpty && !follow then .ok (.existing next (.link target))
          else onLink (if isAbsolute target then [] else names) (pieces target ++ rest)
        | some node =>
          if rest.isEmpty then .ok (.existing next node)
          else walkPieces fs follow onLink next rest
    | some _ => .error .notDirectory

/-- Follows pieces from a location on, through so many links. -/
def walk (fs : FileSystem) (follow : Bool) : Nat → Names → List String → Except FileError Place
  | 0 => walkPieces fs follow fun _ _ => .error .tooManyLinks
  | links + 1 => walkPieces fs follow (walk fs follow links)

/-- The most links that are followed along a path. -/
def maxLinks : Nat := 40

/-- The most bytes that a path has. -/
def maxPathBytes : Nat := 4095

/-- Where a path leads. -/
def place (fs : FileSystem) (follow : Bool) (path : String) : Except FileError Place :=
  if '\x00' ∈ path.toList then .error .nulByte
  else if path = "" then .error .notFound
  else if maxPathBytes < path.utf8ByteSize then .error .nameTooLong
  else walk fs follow maxLinks (if isAbsolute path then [] else fs.workingDirectory) (pieces path)

/-- Whether a path leads to a node. -/
def pathExists (fs : FileSystem) (path : String) : Bool :=
  match fs.place true path with
  | .ok (.existing _ _) => true
  | _ => false

/-- Whether a path leads to a directory. -/
def isDirectory (fs : FileSystem) (path : String) : Bool :=
  match fs.place true path with
  | .ok (.existing _ (.directory _)) => true
  | _ => false

/-! ### Operations -/

/-- The content of a file. -/
def read (fs : FileSystem) (path : String) : Except FileError Bytes := do
  match ← fs.place true path with
  | .existing _ (.file content _) => .ok content
  | .existing _ (.directory _) => .error .isDirectory
  | .existing _ _ => .error .noDevice
  | .vacant _ _ => .error .notFound

/-- Writes a file, in place of the content that it had. -/
def create (fs : FileSystem) (path : String) (content : Bytes) : Except FileError FileSystem := do
  match ← fs.place true path with
  | .existing names (.file _ mode) => .ok (fs.set names (.file content mode))
  | .existing _ (.directory _) => .error .isDirectory
  | .existing _ _ => .error .noDevice
  | .vacant names slash =>
    if slash then .error .isDirectory else .ok (fs.set names (.file content 0o644))

/-- Removes what is at a path, a link itself, but no directory. -/
def unlink (fs : FileSystem) (path : String) : Except FileError FileSystem := do
  match ← fs.place false path with
  | .existing _ (.directory _) => .error .isDirectory
  | .existing names _ => .ok (fs.remove names)
  | .vacant _ _ => .error .notFound

/-- Makes one directory. -/
def makeDirectory (fs : FileSystem) (path : String) : Except FileError FileSystem := do
  match ← fs.place false path with
  | .existing _ _ => .error .alreadyExists
  | .vacant names _ => .ok (fs.set names (.directory 0o755))

/-- Makes a directory unless it is there, after the directories above it.  The list holds the
directory and those above it, the nearest first. -/
def makeChain (fs : FileSystem) : List String → Except FileError Unit × FileSystem
  | [] => (.error .notFound, fs)
  | path :: above =>
    if path = "" then (.ok (), fs)
    else match fs.makeDirectory path with
      | .ok fs => (.ok (), fs)
      | .error .notFound =>
        match fs.makeChain above with
        | (.error e, fs) => (.error e, fs)
        | (.ok (), fs) =>
          match fs.makeDirectory path with
          | .ok fs => (.ok (), fs)
          | .error e => if fs.isDirectory path then (.ok (), fs) else (.error e, fs)
      | .error e => if fs.isDirectory path then (.ok (), fs) else (.error e, fs)

/-- Makes a directory and all directories on the way to it, unless they are there. -/
def makeDirectories (fs : FileSystem) (path : String) : Except FileError Unit × FileSystem :=
  fs.makeChain (path :: (Location.ofPath path).parents.map Location.text)

/-- Sets the permission bits of what a path leads to, if it leads anywhere. -/
def setMode (fs : FileSystem) (path : String) (mode : Nat) : FileSystem :=
  match fs.place true path with
  | .ok (.existing names node) => fs.set names (node.withMode (mode % 0o10000))
  | _ => fs

/-- The permission bits of what a path leads to. -/
def mode? (fs : FileSystem) (path : String) : Option Nat :=
  match fs.place true path with
  | .ok (.existing _ node) => some node.mode
  | _ => none

/-- The names in a directory, in order; none if there is no directory. -/
def list (fs : FileSystem) (path : String) : List String :=
  match fs.place true path with
  | .ok (.existing names (.directory _)) =>
    (Dict.ofPairs (fs.nodes.filterMap fun entry =>
      if entry.1 ≠ [] && entry.1.dropLast = names then entry.1.getLast?.map (·, ()) else none)).keys
  | _ => []

/-! ### Sockets -/

/-- The most bytes of the path of a socket. -/
def maxSocketPathBytes : Nat := 107

/-- Whether a socket under this path has no file: it is nameless, or its name begins with a NUL
byte. -/
def isFileless (path : String) : Bool := path = "" || path.toList.head? == some '\x00'

/-- Refuses paths that are no socket addresses. -/
def checkSocketPath (path : String) : Except FileError Unit :=
  if '\x00' ∈ path.toList then .error .nulInAddress
  else if maxSocketPathBytes < path.utf8ByteSize then .error .pathTooLong
  else .ok ()

/-- Makes a socket without a file under a name that is free; without a name the system finds one. -/
def bindName (fs : FileSystem) (name : String) : Except FileError FileSystem :=
  if name = "" then .ok fs
  else if maxSocketPathBytes + 1 < name.utf8ByteSize then .error .abstractNameTooLong
  else if name ∈ fs.abstractNames then .error .addressInUse
  else .ok { fs with abstractNames := name :: fs.abstractNames }

/-- Makes a socket at a path where nothing is, or one without a file. -/
def bind (fs : FileSystem) (path : String) : Except FileError FileSystem :=
  if isFileless path then fs.bindName path
  else do
    checkSocketPath path
    match ← fs.place false path with
    | .existing _ _ => .error .addressInUse
    | .vacant names slash =>
      if slash then .error .notFound else .ok (fs.set names (.socket 0o755))

/-- Whether a socket at a path can be connected to; every socket is listened on. -/
def connect (fs : FileSystem) (path : String) : Except FileError Unit := do
  checkSocketPath path
  match ← fs.place true path with
  | .existing _ (.socket _) => .ok ()
  | .existing _ _ => .error .connectionRefused
  | .vacant _ _ => .error .notFound

end FileSystem

end RestorePlugins.Files
