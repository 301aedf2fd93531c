import RestorePlugins.Plugin.Error
import RestorePlugins.Resource

namespace RestorePlugins

/-!
# What plugins do

A plugin is a record of calls.  A call reads and changes the world `W` of the host that it runs
in; the theory leaves `W` open, so that a plugin is any state machine.

* `Call W α` — a call that answers an `α`, fails, or panics.
* `RestoreAction W` — looks at one item of a restore, and changes, keeps or skips it.
* `Snapshotter W` — copies volumes to snapshots and back.
-/

/-! ### Calls -/

/-- Why a call gives no answer. -/
inductive Failure where
  | error (error : PluginError)
  | panic (message : String)
  deriving DecidableEq, Repr

/-- A call: its answer, and the world afterwards. -/
abbrev Call (W α : Type) := W → Except Failure α × W

/-- The call that only computes. -/
def Call.pure {W α : Type} (answer : Except PluginError α) : Call W α :=
  fun world => (answer.mapError .error, world)

/-! ### Restore item actions -/

/-- What an action is given: the item as it is about to be restored, the item as it was backed
up, and the restore. -/
structure ExecuteInput where
  item : Json
  itemFromBackup : Json
  restore : Json

/-- What an action decides. -/
structure ExecuteOutput where
  /-- The changed item; none if it stays as it is. -/
  updatedItem : Option Json := none
  /-- Items that are to be restored as well. -/
  additionalItems : List ResourceIdentifier := []
  /-- Whether the item is left out. -/
  skipRestore : Bool := false
  deriving Inhabited

namespace ExecuteOutput

/-- The item stays as it is. -/
def unchanged : ExecuteOutput := {}

/-- The item is replaced. -/
def updated (item : Json) : ExecuteOutput := { updatedItem := some item }

/-- The item is left out. -/
def skip : ExecuteOutput := { skipRestore := true }

end ExecuteOutput

/-- A restore item action. -/
structure RestoreAction (W : Type) where
  /-- The resources that the action is for. -/
  appliesTo : Call W ResourceSelector
  /-- Decides about one item. -/
  execute : ExecuteInput → Call W ExecuteOutput

/-- The action without a state. -/
def RestoreAction.ofRule {W : Type} (selector : ResourceSelector)
    (rule : ExecuteInput → Except PluginError ExecuteOutput) : RestoreAction W where
  appliesTo := Call.pure (.ok selector)
  execute input := Call.pure (rule input)

/-! ### Volume snapshotters -/

/-- What a new volume is made from. -/
structure VolumeRequest where
  snapshotId : String
  volumeType : String
  volumeAz : String
  iops : Option Int64
  deriving DecidableEq, Repr

/-- What a new snapshot is made from. -/
structure SnapshotRequest where
  volumeId : String
  volumeAz : String
  tags : Dict String
  deriving DecidableEq

/-- A volume snapshotter. -/
structure Snapshotter (W : Type) where
  /-- Takes over the settings of a snapshot location, before any other call. -/
  init : Dict String → Call W Unit
  /-- Makes a volume from a snapshot; answers its id. -/
  createVolume : VolumeRequest → Call W String
  /-- Type and operations a second of the volume with an id, in a zone. -/
  volumeInfo : String → String → Call W VolumeInfo
  /-- Makes a snapshot of a volume; answers its id. -/
  createSnapshot : SnapshotRequest → Call W String
  /-- Deletes the snapshot with an id. -/
  deleteSnapshot : String → Call W Unit
  /-- The id of a persistent volume; the empty text if the volume is of another sort. -/
  volumeId : Json → Call W String
  /-- The persistent volume with another id. -/
  setVolumeId : Json → String → Call W Json

end RestorePlugins
