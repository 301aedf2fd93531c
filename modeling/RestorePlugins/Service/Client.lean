import RestorePlugins.Files.FileSystem
import RestorePlugins.Service.Host
import RestorePlugins.Settings.Address
import RestorePlugins.Settings.Endpoints

namespace RestorePlugins.Service

/-!
# Clients

A client calls the plugins of a host by messages and gives typed answers.

* `ClientError` — why a call of a client fails.
* `Connection W` — the way of a request to a host and of its reply.
* `connect`, `connectFirst` — the way through the socket at a path, or at the first usable
  endpoint.  The address is checked at once, the socket with each call.
* `Client.appliesTo` and the other calls.
-/

/-! ### Errors -/

/-- Why a call of a client fails. -/
inductive ClientError where
  /-- The host answered so. -/
  | status (status : Status)
  /-- The address is no URI. -/
  | invalidAddress
  | json (error : Json.Error)
  | unknownKind (name : String)
  | noEndpoint
  deriving DecidableEq, Repr

/-- The wording of an error; that of a status is its own. -/
def ClientError.message : ClientError → String
  | status s => s.message
  | invalidAddress => "transport error: invalid URI"
  | json e => "invalid JSON document: " ++ e.message
  | unknownKind name => PluginKind.invalidMessage name
  | noEndpoint => "no enabled unix endpoint found in config"

/-! ### Connections -/

/-- The way of a request for a path, and of its reply. -/
abbrev Connection (W : Type) := String → Bytes → W → Except Status Bytes × W

namespace Connection

variable {W : Type}

/-- The way to a host that cannot be reached. -/
def unreachable (e : Files.FileError) : Connection W := fun _ _ world =>
  (.error ⟨.unavailable, "error trying to connect: " ++ e.message⟩, world)

/-- The way through the socket at a path, behind which there is a host. -/
def throughSocket (fs : Files.FileSystem) (host : Host W) (path : String) : Connection W :=
  match fs.connect path with
  | .ok () => host.handle
  | .error e => unreachable e

end Connection

variable {W : Type}

/-- The way through the socket at a path with an allowed address. -/
def connect (fs : Files.FileSystem) (host : Host W) (path : String) :
    Except ClientError (Connection W) :=
  if Settings.isSocketAddress path then .ok (.throughSocket fs host path)
  else .error .invalidAddress

/-- The way through the socket of the first usable endpoint. -/
def connectFirst (fs : Files.FileSystem) (host : Host W) (endpoints : List Settings.Endpoint) :
    Except ClientError (Connection W) :=
  match (Settings.select Settings.isSocketAddress endpoints).1 with
  | some endpoint => .ok (.throughSocket fs host endpoint.path)
  | none => .error .noEndpoint

/-! ### Calls -/

namespace Client

/-- A call through a connection: the answer and the world afterwards. -/
abbrev Answer (W α : Type) := W → Except ClientError α × W

/-- Sends a request for a method and makes an answer of the reply. -/
def call {α β γ : Type} [Wire.Message α] [Wire.Message β] (send : Connection W) (method : Method)
    (request : α) (read : β → Except ClientError γ) : Answer W γ := fun world =>
  let (reply, world) := send method.path (Wire.encode request) world
  let answer : Except ClientError γ := do
    let body ← reply.mapError .status
    let reply ← (Wire.decode β body).mapError fun fault => .status ⟨.internal, fault.message⟩
    read reply
  (answer, world)

/-- The document in a reply. -/
def document (bytes : Bytes) : Except ClientError Json := (Json.parse bytes).mapError .json

/-- The plugin of a line of a listing. -/
def plugin (line : PluginLine) : Except ClientError PluginIdentifier :=
  line.toPlugin.mapError .unknownKind

/-- Lists the plugins. -/
def listPlugins (send : Connection W) : Answer W (List PluginIdentifier) :=
  call send .listPlugins ({} : Empty) fun (reply : ListPluginsResponse) =>
    reply.plugins.mapM plugin

/-- The resources of an action; a reply without them does not restrict. -/
def appliesTo (send : Connection W) (plugin : String) : Answer W ResourceSelector :=
  call send .appliesTo ({ plugin := plugin } : AppliesToRequest)
    fun (reply : AppliesToResponse) => .ok (reply.selector.getD {}).toSelector

/-- What a reply says of an item: an item like the one that was sent is not changed. -/
def executeOutput (item : Json) (reply : ExecuteResponse) : Except ClientError ExecuteOutput := do
  let replied ← document reply.item
  .ok {
    updatedItem := if replied == item then none else some replied
    additionalItems := reply.additionalItems.map IdentifierMessage.toIdentifier
    skipRestore := reply.skipRestore }

/-- Lets an action decide about an item. -/
def execute (send : Connection W) (plugin : String) (input : ExecuteInput) :
    Answer W ExecuteOutput :=
  call send .execute
    ({ plugin := plugin, item := input.item.compact, restore := input.restore.compact,
       itemFromBackup := input.itemFromBackup.compact } : ExecuteRequest)
    (executeOutput input.item)

/-- Gives a snapshotter its settings. -/
def init (send : Connection W) (plugin : String) (config : Dict String) : Answer W Unit :=
  call send .init ({ plugin := plugin, config := config } : InitRequest)
    fun (_ : Empty) => .ok ()

/-- Makes a volume; answers its id. -/
def createVolume (send : Connection W) (plugin : String) (r : VolumeRequest) : Answer W String :=
  call send .createVolume
    ({ plugin := plugin, snapshotId := r.snapshotId, volumeType := r.volumeType,
       volumeAz := r.volumeAz, iops := iopsToWire r.iops } : CreateVolumeRequest)
    fun (reply : CreateVolumeResponse) => .ok reply.volumeId

/-- Type and operations a second of a volume. -/
def volumeInfo (send : Connection W) (plugin volumeId volumeAz : String) : Answer W VolumeInfo :=
  call send .volumeInfo
    ({ plugin := plugin, volumeId := volumeId, volumeAz := volumeAz } : GetVolumeInfoRequest)
    fun (reply : GetVolumeInfoResponse) => .ok ⟨reply.volumeType, iopsFromWire reply.iops⟩

/-- Makes a snapshot; answers its id. -/
def createSnapshot (send : Connection W) (plugin : String) (r : SnapshotRequest) :
    Answer W String :=
  call send .createSnapshot
    ({ plugin := plugin, volumeId := r.volumeId, volumeAz := r.volumeAz, tags := r.tags } :
      CreateSnapshotRequest)
    fun (reply : CreateSnapshotResponse) => .ok reply.snapshotId

/-- Deletes a snapshot. -/
def deleteSnapshot (send : Connection W) (plugin snapshotId : String) : Answer W Unit :=
  call send .deleteSnapshot ({ plugin := plugin, snapshotId := snapshotId } :
      DeleteSnapshotRequest)
    fun (_ : Empty) => .ok ()

/-- The id of a persistent volume. -/
def volumeId (send : Connection W) (plugin : String) (pv : Json) : Answer W String :=
  call send .volumeId
    ({ plugin := plugin, persistentVolume := pv.compact } : GetVolumeIdRequest)
    fun (reply : GetVolumeIdResponse) => .ok reply.volumeId

/-- A persistent volume with another id. -/
def setVolumeId (send : Connection W) (plugin : String) (pv : Json) (volumeId : String) :
    Answer W Json :=
  call send .setVolumeId
    ({ plugin := plugin, persistentVolume := pv.compact, volumeId := volumeId } :
      SetVolumeIdRequest)
    fun (reply : SetVolumeIdResponse) => document reply.persistentVolume

end Client

end RestorePlugins.Service
