import RestorePlugins.Plugin.Error

namespace RestorePlugins.Service

/-!
# Answers that are no replies

* `Code`, `Status` — how a host says that a call failed.
* `Status.ofError` — the status for an error of a plugin or of the registry.
-/

/-- The codes of failed calls. -/
inductive Code where
  | notFound
  | invalidArgument
  | failedPrecondition
  | unknown
  | unimplemented
  | internal
  | unavailable
  deriving DecidableEq, Repr

/-- The name of a code. -/
def Code.name : Code → String
  | notFound => "NotFound"
  | invalidArgument => "InvalidArgument"
  | failedPrecondition => "FailedPrecondition"
  | unknown => "Unknown"
  | unimplemented => "Unimplemented"
  | internal => "Internal"
  | unavailable => "Unavailable"

/-- A code with a text. -/
structure Status where
  code : Code
  message : String
  deriving DecidableEq, Repr

/-- The code for an error. -/
def Code.ofError : PluginError → Code
  | .notFound _ _ => notFound
  | .snapshotNotFound _ => notFound
  | .missingName => invalidArgument
  | .invalidName _ _ => invalidArgument
  | .invalidDocument _ => invalidArgument
  | .invalidConfigKey _ _ => invalidArgument
  | .badJson _ => invalidArgument
  | .notInitialized _ => failedPrecondition
  | .alreadyRegistered _ _ => unknown
  | .database _ _ => unknown
  | .databaseLocked => unknown
  | .internal _ => unknown

/-- The status for an error. -/
def Status.ofError (e : PluginError) : Status := ⟨.ofError e, e.message⟩

end RestorePlugins.Service
