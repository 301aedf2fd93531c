import RestorePlugins.Json.Basic

namespace RestorePlugins.Json

/-!
# Paths through documents

A path is a list of keys, each of which leads from an object to one of its fields.

* `nested`, `nestedString` — the value, or the text, that a path leads to.
* `reach` — walks a path for an edit of the object at its end.  Missing fields and null fields
  on the way become empty objects, also those before the place where a walk breaks off.
* `editObject` — the edited document, or the fault of a walk that broke off.
-/

/-- The value that a path leads to. -/
def nested (doc : Json) : List String → Option Json
  | [] => some doc
  | key :: rest => (get? key doc).bind fun value => nested value rest

/-- The text that a path leads to. -/
def nestedString (doc : Json) (path : List String) : Option String :=
  (nested doc path).bind asString?

@[simp] theorem nested_nil (doc : Json) : nested doc [] = some doc := rfl

theorem nested_cons (doc : Json) (key : String) (rest : List String) :
    nested doc (key :: rest) = (get? key doc).bind fun value => nested value rest := rfl

/-- A path in two parts leads where the second part leads from the end of the first. -/
theorem nested_append (doc : Json) (front back : List String) :
    nested doc (front ++ back) = (nested doc front).bind fun value => nested value back := by
  induction front generalizing doc with
  | nil => rfl
  | cons key rest ih =>
    simp only [List.cons_append, nested_cons]
    cases get? key doc with
    | none => rfl
    | some value => exact ih value

/-- Why a walk breaks off. -/
inductive PathFault where
  /-- The value that should have the field is no object. -/
  | noObjectAbove (key : String)
  /-- The value at the end of the path is no object. -/
  | notObject (path : List String)
  deriving DecidableEq, Repr

/-- The wording of a path fault. -/
def PathFault.message : PathFault → String
  | .noObjectAbove key => "expected an object above field " ++ key
  | .notObject path => "field " ++ ".".intercalate path ++ " is not an object"

/-- The fields of an object. -/
abbrev Fields := List (String × Json)

/-- What a walk finds in a field: a missing field and null count as the empty object. -/
def present (key : String) (fields : Fields) : Json :=
  match Entries.find? key fields with
  | none => emptyObject
  | some .null => emptyObject
  | some value => value

/-- Walks the rest of `path` and edits the object at its end.  Gives that object as it was
before the edit, or a fault, and the document afterwards. -/
def reach (edit : Fields → Fields) (path : List String) :
    List String → Json → Except PathFault Fields × Json
  | [], .obj fields => (.ok fields, .obj (edit fields))
  | [], doc => (.error (.notObject path), doc)
  | key :: rest, .obj fields =>
    let (answer, value) := reach edit path rest (present key fields)
    (answer, .obj (Entries.insert key value fields))
  | key :: _, doc => (.error (.noObjectAbove key), doc)

/-- The document with the object at the end of a path edited. -/
def editObject (doc : Json) (path : List String) (edit : Fields → Fields) :
    Except PathFault Json :=
  match reach edit path path doc with
  | (.ok _, edited) => .ok edited
  | (.error fault, _) => .error fault

end RestorePlugins.Json
