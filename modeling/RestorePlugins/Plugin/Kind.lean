namespace RestorePlugins

/-!
# Kinds of plugins

* `PluginKind` — the two kinds, in the order in which plugins are listed.
* `PluginKind.ofName?` — reads back exactly what `PluginKind.name` writes.
-/

/-- The kinds of plugins. -/
inductive PluginKind where
  | restoreItemAction
  | volumeSnapshotter
  deriving DecidableEq, Repr

namespace PluginKind

/-- The name of a kind. -/
def name : PluginKind → String
  | restoreItemAction => "RestoreItemAction"
  | volumeSnapshotter => "VolumeSnapshotter"

/-- The kind that a name stands for. -/
def ofName? (s : String) : Option PluginKind :=
  if s = "RestoreItemAction" then some restoreItemAction
  else if s = "VolumeSnapshotter" then some volumeSnapshotter
  else none

theorem ofName?_name (kind : PluginKind) : ofName? kind.name = some kind := by
  cases kind <;> decide

/-- What is said of a text that names no kind. -/
def invalidMessage (s : String) : String := s ++ " is not a valid plugin kind"

end PluginKind

end RestorePlugins
