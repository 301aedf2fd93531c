import RestorePlugins.Plugin.Contract
import RestorePlugins.Plugin.Name

namespace RestorePlugins

/-!
# The registry

A registry holds at most one plugin for each kind and name.

* `Registry.register` — checks the name, then that it is still free.
* `Registry.find?` — the plugin of a kind and name.
* `Registry.list` — restore item actions first, then snapshotters, each in name order.
-/

/-- A plugin of either kind. -/
inductive Plugin (W : Type) where
  | action (action : RestoreAction W)
  | snapshotter (snapshotter : Snapshotter W)

/-- The kind of a plugin. -/
def Plugin.kind {W : Type} : Plugin W → PluginKind
  | action _ => .restoreItemAction
  | snapshotter _ => .volumeSnapshotter

/-- The plugins of a host, by kind and name. -/
structure Registry (W : Type) where
  actions : Dict (RestoreAction W) := ∅
  snapshotters : Dict (Snapshotter W) := ∅

namespace Registry

variable {W : Type}

/-- The registry without plugins. -/
def empty : Registry W := {}

/-- The plugin of a kind and name, if there is one. -/
def find? (kind : PluginKind) (name : String) (r : Registry W) : Option (Plugin W) :=
  match kind with
  | .restoreItemAction => (r.actions.get? name).map .action
  | .volumeSnapshotter => (r.snapshotters.get? name).map .snapshotter

/-- The action of a name. -/
def action (name : String) (r : Registry W) : Except PluginError (RestoreAction W) :=
  match r.actions.get? name with
  | some action => .ok action
  | none => .error (.notFound .restoreItemAction name)

/-- The snapshotter of a name. -/
def snapshotter (name : String) (r : Registry W) : Except PluginError (Snapshotter W) :=
  match r.snapshotters.get? name with
  | some snapshotter => .ok snapshotter
  | none => .error (.notFound .volumeSnapshotter name)

/-- Puts a plugin under a name, in place of a plugin of its kind that was there. -/
def put (name : String) (r : Registry W) : Plugin W → Registry W
  | .action action => { r with actions := r.actions.insert name action }
  | .snapshotter snapshotter =>
    { r with snapshotters := r.snapshotters.insert name snapshotter }

/-- Registers a plugin under a valid name that no plugin of its kind has yet. -/
def register (name : String) (plugin : Plugin W) (r : Registry W) :
    Except PluginError (Registry W) := do
  checkPluginName name
  if (r.find? plugin.kind name).isSome then .error (.alreadyRegistered plugin.kind name)
  else .ok (r.put name plugin)

/-- Registers plugins one after the other up to the first that is refused; the registry keeps
those before it. -/
def registerAll : List (String × Plugin W) → Registry W → Except PluginError Unit × Registry W
  | [], r => (.ok (), r)
  | (name, plugin) :: rest, r =>
    match r.register name plugin with
    | .ok r => registerAll rest r
    | .error e => (.error e, r)

/-- All plugins as a listing shows them. -/
def list (command : String) (r : Registry W) : List PluginIdentifier :=
  r.actions.keys.map (⟨command, .restoreItemAction, ·⟩)
    ++ r.snapshotters.keys.map (⟨command, .volumeSnapshotter, ·⟩)

/-- Whether there is no plugin at all. -/
def isEmpty (r : Registry W) : Bool :=
  r.actions.entries.isEmpty && r.snapshotters.entries.isEmpty

end Registry

end RestorePlugins
