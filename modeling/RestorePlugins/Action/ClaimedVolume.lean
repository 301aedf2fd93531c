import RestorePlugins.Json.Path
import RestorePlugins.Plugin.Contract

namespace RestorePlugins.ClaimedVolume

/-!
# Restoring the volume of a claim

The volume that a claim is bound to is restored along with the claim.

* `boundVolume?` — the volume that a claim names.
* `execute` — adds that volume to the items that are restored.
-/

/-- The name under which the action is registered. -/
def pluginName : String := "bkplug.io/pv-from-pvc"

/-- The volume that a claim names; no volume has the empty name. -/
def boundVolume? (claim : Json) : Option ResourceIdentifier :=
  match claim.nestedString ["spec", "volumeName"] with
  | some name =>
    if name = "" then none else some { resource := "persistentvolumes", name := name }
  | none => none

/-- Keeps the claim and adds the volume that it names. -/
def execute (input : ExecuteInput) : Except PluginError ExecuteOutput :=
  .ok { additionalItems := (boundVolume? input.item).toList }

/-- The action, which is for claims. -/
def action {W : Type} : RestoreAction W :=
  .ofRule (.forResources ["persistentvolumeclaims"]) execute

end RestorePlugins.ClaimedVolume
