import RestorePlugins.Json.Fault
import RestorePlugins.Json.Path
import RestorePlugins.Plugin.Kind

namespace RestorePlugins

/-!
# Errors of plugins and of the registry

* `PluginError` — the causes; `PluginError.message` is their wording.
* `PluginError.ofPathFault` — a walk through a document that broke off.
-/

/-- Why a plugin, or the registry, refuses a call. -/
inductive PluginError where
  | notFound (kind : PluginKind) (name : String)
  | alreadyRegistered (kind : PluginKind) (name : String)
  | invalidName (name reason : String)
  | missingName
  | invalidDocument (text : String)
  | badJson (error : Json.Error)
  | invalidConfigKey (plugin key : String)
  | notInitialized (plugin : String)
  | snapshotNotFound (id : String)
  | database (what text : String)
  | databaseLocked
  | internal (text : String)
  deriving DecidableEq, Repr

/-- The wording of an error. -/
def PluginError.message : PluginError → String
  | notFound kind name => "unknown " ++ kind.name ++ " plugin: " ++ name
  | alreadyRegistered kind name =>
    "plugin name " ++ name ++ " is already used by another " ++ kind.name ++ " plugin"
  | invalidName name reason => "invalid plugin name " ++ name ++ ": " ++ reason
  | missingName => "plugin name is required"
  | invalidDocument text => "invalid document: " ++ text
  | badJson error => error.message
  | invalidConfigKey plugin key =>
    "invalid configuration key " ++ key ++ " for plugin " ++ plugin
  | notInitialized plugin => plugin ++ " has not been initialized"
  | snapshotNotFound id => "snapshot " ++ id ++ " not found"
  | database what text => what ++ ": " ++ text
  | databaseLocked => "Failed to acquire database lock, please try again later"
  | internal text => "Internal error occurred. " ++ text

/-- The error that a broken-off walk is. -/
def PluginError.ofPathFault (fault : Json.PathFault) : PluginError := .invalidDocument fault.message

end RestorePlugins
