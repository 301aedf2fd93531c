import RestorePlugins.Catalogue.Opening
import RestorePlugins.Toml.Parser

namespace RestorePlugins.Settings

/-!
# Settings of the built-in plugins

* `PluginSettings` — the mapping of storage classes and the budget for opening a database.
* `PluginSettings.parse` — reads them from a TOML document; what is not a setting is passed over.
-/

/-- The settings of the built-in plugins. -/
structure PluginSettings where
  storageClasses : Dict String := ∅
  budget : Catalogue.RetryBudget := {}
  deriving Inhabited

/-- A text. -/
def readText : Toml.Value → Option String
  | .text s => some s
  | _ => none

/-- A truth value. -/
def readTruth : Toml.Value → Option Bool
  | .truth b => some b
  | _ => none

/-- A whole number from zero up to a bound. -/
def readNatBelow (bound : Nat) : Toml.Value → Option Nat
  | .integer i => if 0 ≤ i ∧ i < bound then some i.toNat else none
  | _ => none

/-- The items of an array of either sort. -/
def readItems : Toml.Value → Option (List Toml.Value)
  | .array items => some items
  | .tables items => some items
  | _ => none

/-- The fields of a table. -/
def readTable : Toml.Value → Option Toml.Table
  | .table _ fields => some fields
  | _ => none

/-- A field, if it is there, read by a reader. -/
def readOptional {α : Type} (read : Toml.Value → Option α) (key : String) (fields : Toml.Table) :
    Option (Option α) :=
  match Entries.find? key fields with
  | none => some none
  | some value => (read value).map some

/-- A table of texts. -/
def readTexts (value : Toml.Value) : Option (Dict String) := do
  let fields ← readTable value
  let pairs ← fields.mapM fun field => (readText field.2).map fun text => (field.1, text)
  some (Dict.ofPairs pairs)

/-- A budget from the values of its two fields. -/
def readBudgetValues (retries delay : Toml.Value) : Option Catalogue.RetryBudget := do
  let retries ← readNatBelow UInt32.size retries
  let delay ← readNatBelow UInt64.size delay
  some ⟨UInt32.ofNat retries, UInt64.ofNat delay⟩

/-- A budget: a table with both fields, or an array that begins with both values. -/
def readBudget (value : Toml.Value) : Option Catalogue.RetryBudget :=
  match readItems value with
  | some (retries :: delay :: _) => readBudgetValues retries delay
  | some _ => none
  | none => do
    let fields ← readTable value
    let retries ← Entries.find? "max_retries" fields
    let delay ← Entries.find? "millisec_delay" fields
    readBudgetValues retries delay

/-- The settings that a document holds. -/
def PluginSettings.parse (text : String) : Option PluginSettings := do
  let fields ← Toml.parse text
  let classes ← readOptional readTexts "storage_class_mapping" fields
  let budget ← readOptional readBudget "database" fields
  some ⟨classes.getD ∅, budget.getD {}⟩

end RestorePlugins.Settings
