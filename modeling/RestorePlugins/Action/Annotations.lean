import RestorePlugins.Json.Path
import RestorePlugins.Plugin.Contract

namespace RestorePlugins.Annotations

/-!
# Stamping restored items

Every restored item is annotated with the names of its restore and of the backup it comes from.
An item that carried the skip annotation when it was backed up is left out instead.

* `isSkipped` — whether a backed-up item asks to be left out.
* `stamp` — what is written into the annotations.
* `execute` — the rule as a whole.
-/

/-- The name under which the action is registered. -/
def pluginName : String := "bkplug.io/restore-annotations"

/-- The annotation that asks to leave an item out. -/
def skipKey : String := "bkplug.io/skip-restore"

/-- The annotation with the name of the restore. -/
def restoreNameKey : String := "bkplug.io/restore-name"

/-- The annotation with the name of the backup. -/
def backupNameKey : String := "bkplug.io/backup-name"

/-- The path of the annotations of an item. -/
def path : List String := ["metadata", "annotations"]

/-- Whether a backed-up item asks to be left out. -/
def isSkipped (itemFromBackup : Json) : Bool :=
  itemFromBackup.nestedString (path ++ [skipKey]) == some "true"

/-- Writes the names of a restore and of its backup, if it has one, into annotations. -/
def stamp (restore : Json) (annotations : Json.Fields) : Json.Fields :=
  let restoreName := (restore.nestedString ["metadata", "name"]).getD ""
  let named := Entries.insert restoreNameKey (.str restoreName) annotations
  match restore.nestedString ["spec", "backupName"] with
  | some backupName => Entries.insert backupNameKey (.str backupName) named
  | none => named

/-- Stamps the item, or leaves it out. -/
def execute (input : ExecuteInput) : Except PluginError ExecuteOutput :=
  if !input.item.isObject then .error (.invalidDocument "item must be a JSON object")
  else if isSkipped input.itemFromBackup then .ok .skip
  else
    match input.item.editObject path (stamp input.restore) with
    | .ok item => .ok (.updated item)
    | .error fault => .error (.ofPathFault fault)

/-- The action, which is for all resources. -/
def action {W : Type} : RestoreAction W := .ofRule {} execute

end RestorePlugins.Annotations
