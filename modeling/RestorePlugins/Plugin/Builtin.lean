import RestorePlugins.Action.Annotations
import RestorePlugins.Action.ClaimedVolume
import RestorePlugins.Action.StorageClass
import RestorePlugins.Catalogue.Snapshotter
import RestorePlugins.Plugin.Registry
import RestorePlugins.Settings.Plugins

namespace RestorePlugins

/-!
# The built-in plugins

* `builtins` — the plugins that come with the library, in the order in which they are registered.
* `registryOf` — the registry that holds just them.
-/

open Catalogue (Site)

/-- The built-in plugins under their names. -/
def builtins (settings : Settings.PluginSettings) : List (String × Plugin Site) :=
  [(Annotations.pluginName, .action Annotations.action),
    (StorageClass.pluginName, .action (StorageClass.action settings.storageClasses)),
    (ClaimedVolume.pluginName, .action ClaimedVolume.action),
    (Catalogue.pluginName, .snapshotter (Catalogue.snapshotter settings.budget))]

/-- The registry of the built-in plugins. -/
def registryOf (settings : Settings.PluginSettings) : Registry Site :=
  (Registry.empty.registerAll (builtins settings)).2

end RestorePlugins
