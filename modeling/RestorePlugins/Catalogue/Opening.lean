import RestorePlugins.Plugin.Error

namespace RestorePlugins.Catalogue

/-!
# Opening a database within a budget

While another handle holds the lock of a database, opening it is tried again after a delay, as
often as a budget allows.

* `RetryBudget` — the budget.
* `Attempt` — the outcome of one attempt, of one of three classes.  Which errors of the database
  engine are contention is decided before and not modelled: those of input and output that would
  block, or that say that the lock could not be acquired.
* `openWithin` — goes through the outcomes of the attempts; counts attempts and delays.
-/

/-- How often, and after how many milliseconds, an attempt is repeated. -/
structure RetryBudget where
  maxRetries : UInt32 := 10
  millisecDelay : UInt64 := 1000
  deriving DecidableEq, Repr, Inhabited

/-- The outcome of one attempt to open a database. -/
inductive Attempt (α : Type) where
  | opened (handle : α)
  /-- Another handle holds the lock. -/
  | contended
  | failed (text : String)
  deriving DecidableEq, Repr

/-- The outcome of opening a database, with the attempts that were made and the delays between
and after them. -/
structure Opening (α : Type) where
  result : Except PluginError α
  attempts : Nat
  delays : Nat

/-- Follows the outcomes of the attempts from one on, with a count of retries left. -/
def openFrom {α : Type} (outcome : Nat → Attempt α) : Nat → Nat → Opening α
  | done, retries =>
    match outcome done with
    | .opened handle => ⟨.ok handle, done + 1, done⟩
    | .failed text => ⟨.error (.database "unable to open database" text), done + 1, done⟩
    | .contended =>
      match retries with
      | 0 => ⟨.error .databaseLocked, done + 1, done + 1⟩
      | retries + 1 => openFrom outcome (done + 1) retries

/-- Follows the outcomes of the attempts within a budget. -/
def openWithin {α : Type} (budget : RetryBudget) (outcome : Nat → Attempt α) : Opening α :=
  openFrom outcome 0 budget.maxRetries.toNat

end RestorePlugins.Catalogue
