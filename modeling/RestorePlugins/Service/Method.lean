import RestorePlugins.Service.Messages

namespace RestorePlugins.Service

/-!
# Methods

* `Method` — what a host can be asked; `Method.path` is the path that asks for it.
* `Method.ofPath?` — the method of a path, whose query does not matter.
* `Method.request`, `Method.reply` — the layouts of the messages of a method.
-/

/-- The methods of a host. -/
inductive Method where
  | listPlugins
  | appliesTo
  | execute
  | init
  | createVolume
  | volumeInfo
  | createSnapshot
  | deleteSnapshot
  | volumeId
  | setVolumeId
  deriving DecidableEq, Repr

namespace Method

/-- The path of a method: its service and its name. -/
def path : Method → String
  | listPlugins => "/generated.PluginLister/ListPlugins"
  | appliesTo => "/generated.RestoreItemAction/AppliesTo"
  | execute => "/generated.RestoreItemAction/Execute"
  | init => "/generated.VolumeSnapshotter/Init"
  | createVolume => "/generated.VolumeSnapshotter/CreateVolumeFromSnapshot"
  | volumeInfo => "/generated.VolumeSnapshotter/GetVolumeInfo"
  | createSnapshot => "/generated.VolumeSnapshotter/CreateSnapshot"
  | deleteSnapshot => "/generated.VolumeSnapshotter/DeleteSnapshot"
  | volumeId => "/generated.VolumeSnapshotter/GetVolumeID"
  | setVolumeId => "/generated.VolumeSnapshotter/SetVolumeID"

/-- All methods. -/
def all : List Method :=
  [listPlugins, appliesTo, execute, init, createVolume, volumeInfo, createSnapshot,
    deleteSnapshot, volumeId, setVolumeId]

/-- The characters of a path before its query. -/
def withoutQuery (path : String) : List Char := path.toList.takeWhile fun c => c ≠ '?' && c ≠ '#'

/-- The method of a path. -/
def ofPath? (path : String) : Option Method :=
  all.find? fun method => method.path.toList == withoutQuery path

/-- The layout of the request of a method. -/
def request : Method → Wire.Layout Wire.Part
  | listPlugins => emptyLayout.ofCells
  | appliesTo => appliesToRequestLayout.ofCells
  | execute => executeRequestLayout.ofCells
  | init => initRequestLayout.ofCells
  | createVolume => createVolumeRequestLayout.ofCells
  | volumeInfo => getVolumeInfoRequestLayout.ofCells
  | createSnapshot => createSnapshotRequestLayout.ofCells
  | deleteSnapshot => deleteSnapshotRequestLayout.ofCells
  | volumeId => getVolumeIdRequestLayout.ofCells
  | setVolumeId => setVolumeIdRequestLayout.ofCells

/-- The layout of the reply of a method. -/
def reply : Method → Wire.Layout Wire.Part
  | listPlugins => listPluginsResponseLayout
  | appliesTo => appliesToResponseLayout
  | execute => executeResponseLayout
  | init => emptyLayout.ofCells
  | createVolume => createVolumeResponseLayout.ofCells
  | volumeInfo => getVolumeInfoResponseLayout.ofCells
  | createSnapshot => createSnapshotResponseLayout.ofCells
  | deleteSnapshot => emptyLayout.ofCells
  | volumeId => getVolumeIdResponseLayout.ofCells
  | setVolumeId => setVolumeIdResponseLayout.ofCells

end Method

end RestorePlugins.Service
