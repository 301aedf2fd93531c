import RestorePlugins.Json.Parser
import RestorePlugins.Plugin.Registry
import RestorePlugins.Service.Method
import RestorePlugins.Service.Status

namespace RestorePlugins.Service

/-!
# The host

A host answers requests by calling the plugins of its registry.

* `Host.perform` — a prepared call with the reply made of its answer.
* `Host.appliesTo` and the other methods — checks that a plugin is named, looks it up, reads the
  documents, calls the plugin, in this order.
* `Host.handle` — all of it on bytes: an unknown path and a request that cannot be read call no
  plugin.
-/

/-- A host: its plugins, the command that lists show, and what its tasks are called. -/
structure Host (W : Type) where
  registry : Registry W
  command : String
  task : String

namespace Host

variable {W : Type}

/-! ### Calls -/

/-- What is said of a call that panicked. -/
def panicText (task message : String) : String :=
  "task " ++ task ++ " panicked with message " ++ quoted message

/-- An answer in which a panic is an error like any other. -/
def contain {α : Type} (task : String) : Except Failure α → Except PluginError α
  | .ok a => .ok a
  | .error (.error e) => .error e
  | .error (.panic message) => .error (.internal (panicText task message))

/-- Makes a prepared call and a reply of its answer. -/
def perform {α β : Type} (host : Host W) (prepared : Except PluginError (Call W α))
    (reply : α → β) (world : W) : Except PluginError β × W :=
  match prepared with
  | .error e => (.error e, world)
  | .ok call =>
    let (answer, world) := call world
    ((contain host.task answer).map reply, world)

/-- Refuses the empty name. -/
def requirePlugin (name : String) : Except PluginError Unit :=
  if name = "" then .error .missingName else .ok ()

/-- The action that a request names. -/
def action (host : Host W) (name : String) : Except PluginError (RestoreAction W) := do
  requirePlugin name
  host.registry.action name

/-- The snapshotter that a request names. -/
def snapshotter (host : Host W) (name : String) : Except PluginError (Snapshotter W) := do
  requirePlugin name
  host.registry.snapshotter name

/-- The document in a request. -/
def document (what : String) (bytes : Bytes) : Except PluginError Json :=
  (Json.parse bytes).mapError fun e => .invalidDocument (what ++ ": " ++ e.message)

/-! ### Methods -/

/-- Lists the plugins. -/
def listPlugins (host : Host W) (_ : Empty) (world : W) :
    Except PluginError ListPluginsResponse × W :=
  (.ok ⟨(host.registry.list host.command).map .ofPlugin⟩, world)

/-- Asks an action for its resources. -/
def appliesTo (host : Host W) (r : AppliesToRequest) :
    W → Except PluginError AppliesToResponse × W :=
  host.perform ((host.action r.plugin).map (·.appliesTo)) fun selector =>
    ⟨some (.ofSelector selector)⟩

/-- The reply to an execution: the item is as it came if the action did not change it. -/
def executeReply (r : ExecuteRequest) (output : ExecuteOutput) : ExecuteResponse where
  item := match output.updatedItem with
    | some item => item.compact
    | none => r.item
  additionalItems := output.additionalItems.map .ofIdentifier
  skipRestore := output.skipRestore

/-- Lets an action decide about an item. -/
def execute (host : Host W) (r : ExecuteRequest) : W → Except PluginError ExecuteResponse × W :=
  let prepared : Except PluginError (Call W ExecuteOutput) := do
    let action ← host.action r.plugin
    let item ← document "item" r.item
    let itemFromBackup ← document "item from backup" r.itemFromBackup
    let restore ← document "restore" r.restore
    .ok (action.execute ⟨item, itemFromBackup, restore⟩)
  host.perform prepared (executeReply r)

/-- Gives a snapshotter its settings. -/
def init (host : Host W) (r : InitRequest) : W → Except PluginError Empty × W :=
  host.perform ((host.snapshotter r.plugin).map (·.init r.config)) fun () => {}

/-- Makes a volume. -/
def createVolume (host : Host W) (r : CreateVolumeRequest) :
    W → Except PluginError CreateVolumeResponse × W :=
  let request := ⟨r.snapshotId, r.volumeType, r.volumeAz, iopsFromWire r.iops⟩
  host.perform ((host.snapshotter r.plugin).map (·.createVolume request)) fun id => ⟨id⟩

/-- Tells about a volume. -/
def volumeInfo (host : Host W) (r : GetVolumeInfoRequest) :
    W → Except PluginError GetVolumeInfoResponse × W :=
  host.perform ((host.snapshotter r.plugin).map (·.volumeInfo r.volumeId r.volumeAz))
    fun info => ⟨info.volumeType, iopsToWire info.iops⟩

/-- Makes a snapshot. -/
def createSnapshot (host : Host W) (r : CreateSnapshotRequest) :
    W → Except PluginError CreateSnapshotResponse × W :=
  let request := ⟨r.volumeId, r.volumeAz, r.tags⟩
  host.perform ((host.snapshotter r.plugin).map (·.createSnapshot request)) fun id => ⟨id⟩

/-- Deletes a snapshot. -/
def deleteSnapshot (host : Host W) (r : DeleteSnapshotRequest) :
    W → Except PluginError Empty × W :=
  host.perform ((host.snapshotter r.plugin).map (·.deleteSnapshot r.snapshotId)) fun () => {}

/-- Tells the id of a persistent volume. -/
def volumeId (host : Host W) (r : GetVolumeIdRequest) :
    W → Except PluginError GetVolumeIdResponse × W :=
  let prepared : Except PluginError (Call W String) := do
    let snapshotter ← host.snapshotter r.plugin
    let pv ← document "persistent volume" r.persistentVolume
    .ok (snapshotter.volumeId pv)
  host.perform prepared fun id => ⟨id⟩

/-- Gives a persistent volume another id. -/
def setVolumeId (host : Host W) (r : SetVolumeIdRequest) :
    W → Except PluginError SetVolumeIdResponse × W :=
  let prepared : Except PluginError (Call W Json) := do
    let snapshotter ← host.snapshotter r.plugin
    let pv ← document "persistent volume" r.persistentVolume
    .ok (snapshotter.setVolumeId pv r.volumeId)
  host.perform prepared fun pv => ⟨pv.compact⟩

/-! ### Bytes -/

/-- A method on bytes: a request that cannot be read has no effect. -/
def onBytes {α β : Type} [Wire.Message α] [Wire.Message β]
    (method : α → W → Except PluginError β × W) (body : Bytes) (world : W) :
    Except Status Bytes × W :=
  match Wire.decode α body with
  | .error fault => (.error ⟨.internal, fault.message⟩, world)
  | .ok request =>
    let (answer, world) := method request world
    ((answer.mapError Status.ofError).map Wire.encode, world)

/-- A method of the host on bytes. -/
def answer (host : Host W) : Method → Bytes → W → Except Status Bytes × W
  | .listPlugins => onBytes host.listPlugins
  | .appliesTo => onBytes host.appliesTo
  | .execute => onBytes host.execute
  | .init => onBytes host.init
  | .createVolume => onBytes host.createVolume
  | .volumeInfo => onBytes host.volumeInfo
  | .createSnapshot => onBytes host.createSnapshot
  | .deleteSnapshot => onBytes host.deleteSnapshot
  | .volumeId => onBytes host.volumeId
  | .setVolumeId => onBytes host.setVolumeId

/-- Answers a request for a path. -/
def handle (host : Host W) (path : String) (body : Bytes) (world : W) :
    Except Status Bytes × W :=
  match Method.ofPath? path with
  | none => (.error ⟨.unimplemented, ""⟩, world)
  | some method => host.answer method body world

end Host

end RestorePlugins.Service
