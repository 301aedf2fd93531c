import RestorePlugins.Entries

namespace RestorePlugins.Toml

/-!
# TOML documents

* `Value` — a value; each table remembers how it came about.
* `Table.at` — changes the table at the end of a path, where tables on the way come about as they
  are named.
* `Table.assign`, `Table.header`, `Table.arrayHeader` — the three ways to add to a document; each
  refuses to define a table or a key twice.
-/

/-- How a table came about. -/
inductive Origin where
  /-- By a header of its own, or as the whole document. -/
  | header
  /-- On the way of a header to a table inside of it. -/
  | passed
  /-- By a key with dots. -/
  | dotted
  /-- Between braces; such a table is complete. -/
  | inline
  deriving DecidableEq, Repr

/-- A value. -/
inductive Value where
  | text (value : String)
  | integer (value : Int)
  | real
  | truth (value : Bool)
  | moment
  /-- An array between brackets, which is complete. -/
  | array (items : List Value)
  /-- An array of tables, each with a header of its own. -/
  | tables (items : List Value)
  | table (origin : Origin) (fields : List (String × Value))
  deriving Inhabited

/-- The fields of a table. -/
abbrev Table := List (String × Value)

namespace Table

/-- A change of a table, given how the table came about. -/
abbrev Change := Origin → Table → Option Table

/-- Puts a changed value in place of the last item. -/
def replaceLast (items : List Value) (value : Value) : List Value := items.dropLast ++ [value]

/-- Makes a change at the end of a path.  Tables that are missing on the way come about as
`made` says.  A key with dots does not lead into a table that has a header. -/
def change (made : Origin) (f : Change) : List String → Origin → Table → Option Table
  | [], origin, fields => f origin fields
  | key :: rest, _, fields =>
    match Entries.find? key fields with
    | none => do
      let inner ← change made f rest made []
      some (Entries.insert key (.table made inner) fields)
    | some (.table origin inner) =>
      if origin = .inline then none
      else if made = .dotted && origin = .header then none
      else do
        let inner ← change made f rest origin inner
        some (Entries.insert key (.table origin inner) fields)
    | some (.tables items) =>
      match items.getLast? with
      | some (.table origin inner) => do
        let inner ← change made f rest origin inner
        some (Entries.insert key (.tables (replaceLast items (.table origin inner))) fields)
      | _ => none
    | some _ => none

/-- Gives a key its value; the parts of the key before the last name tables that only keys with
dots make. -/
def assign (path : List String) (key : String) (value : Value) : Change :=
  change .dotted (fun origin fields =>
    if (origin == .dotted) == path.isEmpty then none
    else if (Entries.find? key fields).isSome then none
    else some (Entries.insert key value fields)) path

/-- Defines a table by a header.  A table that was only passed on the way of another header can
still be defined. -/
def header (path : List String) (key : String) : Change :=
  change .passed (fun _ fields =>
    match Entries.find? key fields with
    | none => some (Entries.insert key (.table .header []) fields)
    | some (.table .passed inner) => some (Entries.insert key (.table .header inner) fields)
    | some _ => none) path

/-- Adds a table to an array of tables. -/
def arrayHeader (path : List String) (key : String) : Change :=
  change .passed (fun _ fields =>
    match Entries.find? key fields with
    | none => some (Entries.insert key (.tables [.table .header []]) fields)
    | some (.tables items) =>
      some (Entries.insert key (.tables (items ++ [.table .header []])) fields)
    | some _ => none) path

/-- Makes a change in the table that the last header opened. -/
def inside (section' : List String) (f : Change) : Change := change .passed f section'

end Table

end RestorePlugins.Toml
