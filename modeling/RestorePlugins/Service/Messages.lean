import RestorePlugins.Resource
import RestorePlugins.Wire.Kinds

namespace RestorePlugins.Service

open Wire

/-!
# The messages of a host

* One structure for each message, with its layout and its `Message` instance.
* `IdentifierMessage.ofIdentifier`, `SelectorMessage.ofSelector`, `PluginLine.ofPlugin` — what is
  named, selected or listed as it is sent; `toIdentifier`, `toSelector` and `toPlugin` lead back.
* `layouts` — the layouts of all messages, by which one is found under its name.
-/

/-! ### Shared messages -/

/-- The message without fields. -/
structure Empty where
  deriving DecidableEq

/-- The fields of the empty message: none. -/
def emptyLayout : Layout Cell := ⟨"Empty", []⟩

instance : Message Empty where
  Kind := Cell
  layout := emptyLayout
  row _ := ()
  ofRow _ := {}
  ofRow_row _ := rfl

/-- One frame of a call stack. -/
structure StackFrame where
  file : String := ""
  line : Int32 := 0
  function : String := ""
  deriving DecidableEq

/-- The fields of a stack frame. -/
def stackFrameLayout : Layout Cell := ⟨"StackFrame",
    [⟨"file", 1, .text⟩, ⟨"line", 2, .int32⟩, ⟨"function", 3, .text⟩]⟩

instance : Message StackFrame where
  Kind := Cell
  layout := stackFrameLayout
  row m := (m.file, m.line, m.function, ())
  ofRow := fun (file, line, function, ()) => ⟨file, line, function⟩
  ofRow_row _ := rfl

/-- A resource identifier as it is sent. -/
structure IdentifierMessage where
  group : String := ""
  resource : String := ""
  «namespace» : String := ""
  name : String := ""
  deriving DecidableEq

/-- The fields of a resource identifier. -/
def resourceIdentifierLayout : Layout Cell := ⟨"ResourceIdentifier",
    [⟨"group", 1, .text⟩, ⟨"resource", 2, .text⟩, ⟨"namespace", 3, .text⟩, ⟨"name", 4, .text⟩]⟩

instance : Message IdentifierMessage where
  Kind := Cell
  layout := resourceIdentifierLayout
  row m := (m.group, m.resource, m.«namespace», m.name, ())
  ofRow := fun (group, resource, ns, name, ()) => ⟨group, resource, ns, name⟩
  ofRow_row _ := rfl

/-- A resource selector as it is sent. -/
structure SelectorMessage where
  includedNamespaces : List String := []
  excludedNamespaces : List String := []
  includedResources : List String := []
  excludedResources : List String := []
  selector : String := ""
  deriving DecidableEq

/-- The fields of a resource selector. -/
def resourceSelectorLayout : Layout Cell := ⟨"ResourceSelector",
    [⟨"included_namespaces", 1, .texts⟩, ⟨"excluded_namespaces", 2, .texts⟩,
      ⟨"included_resources", 3, .texts⟩, ⟨"excluded_resources", 4, .texts⟩,
      ⟨"selector", 5, .text⟩]⟩

instance : Message SelectorMessage where
  Kind := Cell
  layout := resourceSelectorLayout
  row m := (m.includedNamespaces, m.excludedNamespaces, m.includedResources,
    m.excludedResources, m.selector, ())
  ofRow := fun (includedNs, excludedNs, included, excluded, selector, ()) =>
    ⟨includedNs, excludedNs, included, excluded, selector⟩
  ofRow_row _ := rfl

/-- Inner messages as rows. -/
def rows {α : Type} [Message α] (items : List α) :
    List (Row (Message.layout : Layout (Message.Kind α)).fields) := items.map Message.row

/-- Inner messages from rows. -/
def ofRows {α : Type} [Message α]
    (items : List (Row (Message.layout : Layout (Message.Kind α)).fields)) : List α :=
  items.map Message.ofRow

/-- An inner message as a row, if there is one. -/
def row? {α : Type} [Message α] (item : Option α) :
    Option (Row (Message.layout : Layout (Message.Kind α)).fields) := item.map Message.row

/-- An inner message from a row, if there is one. -/
def ofRow? {α : Type} [Message α]
    (item : Option (Row (Message.layout : Layout (Message.Kind α)).fields)) : Option α :=
  item.map Message.ofRow

theorem ofRows_rows {α : Type} [Message α] (items : List α) : ofRows (rows items) = items := by
  induction items with
  | nil => rfl
  | cons item rest ih =>
    show Message.ofRow (Message.row item) :: ofRows (rows rest) = item :: rest
    rw [Message.ofRow_row, ih]

theorem ofRow?_row? {α : Type} [Message α] (item : Option α) : ofRow? (row? item) = item := by
  cases item with
  | none => rfl
  | some item =>
    show some (Message.ofRow (Message.row item)) = some item
    rw [Message.ofRow_row]

/-- A call stack. -/
structure Stack where
  frames : List StackFrame := []
  deriving DecidableEq

/-- The fields of a stack. -/
def stackLayout : Layout Part := ⟨"Stack", [⟨"frames", 1, .many stackFrameLayout⟩]⟩

instance : Message Stack where
  Kind := Part
  layout := stackLayout
  row m := (rows m.frames, ())
  ofRow := fun (frames, ()) => ⟨ofRows frames⟩
  ofRow_row m := by
    show Stack.mk (ofRows (rows m.frames)) = m
    rw [ofRows_rows]

/-! ### Restore item actions -/

/-- Asks an action for its resources. -/
structure AppliesToRequest where
  plugin : String := ""
  deriving DecidableEq

/-- The fields of an applies to request. -/
def appliesToRequestLayout : Layout Cell := ⟨"RestoreItemActionAppliesToRequest",
    [⟨"plugin", 1, .text⟩]⟩

instance : Message AppliesToRequest where
  Kind := Cell
  layout := appliesToRequestLayout
  row m := (m.plugin, ())
  ofRow := fun (plugin, ()) => ⟨plugin⟩
  ofRow_row _ := rfl

/-- The resources of an action. -/
structure AppliesToResponse where
  selector : Option SelectorMessage := none
  deriving DecidableEq

/-- The fields of an applies to response. -/
def appliesToResponseLayout : Layout Part := ⟨"RestoreItemActionAppliesToResponse",
    [⟨"resource_selector", 1, .one resourceSelectorLayout⟩]⟩

instance : Message AppliesToResponse where
  Kind := Part
  layout := appliesToResponseLayout
  row m := (row? m.selector, ())
  ofRow := fun (selector, ()) => ⟨ofRow? selector⟩
  ofRow_row m := by
    show AppliesToResponse.mk (ofRow? (row? m.selector)) = m
    rw [ofRow?_row?]

/-- Asks an action to decide about an item.  The documents are JSON texts. -/
structure ExecuteRequest where
  plugin : String := ""
  item : Bytes := []
  restore : Bytes := []
  itemFromBackup : Bytes := []
  deriving DecidableEq

/-- The fields of an execute request. -/
def executeRequestLayout : Layout Cell := ⟨"RestoreItemActionExecuteRequest",
    [⟨"plugin", 1, .text⟩, ⟨"item", 2, .bytes⟩, ⟨"restore", 3, .bytes⟩,
      ⟨"item_from_backup", 4, .bytes⟩]⟩

instance : Message ExecuteRequest where
  Kind := Cell
  layout := executeRequestLayout
  row m := (m.plugin, m.item, m.restore, m.itemFromBackup, ())
  ofRow := fun (plugin, item, restore, itemFromBackup, ()) =>
    ⟨plugin, item, restore, itemFromBackup⟩
  ofRow_row _ := rfl

/-- What an action decided.  The item is a JSON text. -/
structure ExecuteResponse where
  item : Bytes := []
  additionalItems : List IdentifierMessage := []
  skipRestore : Bool := false
  deriving DecidableEq

/-- The fields of an execute response. -/
def executeResponseLayout : Layout Part := ⟨"RestoreItemActionExecuteResponse",
    [⟨"item", 1, .cell .bytes⟩, ⟨"additional_items", 2, .many resourceIdentifierLayout⟩,
      ⟨"skip_restore", 3, .cell .flag⟩]⟩

instance : Message ExecuteResponse where
  Kind := Part
  layout := executeResponseLayout
  row m := (m.item, rows m.additionalItems, m.skipRestore, ())
  ofRow := fun (item, additionalItems, skipRestore, ()) =>
    ⟨item, ofRows additionalItems, skipRestore⟩
  ofRow_row m := by
    show ExecuteResponse.mk m.item (ofRows (rows m.additionalItems)) m.skipRestore = m
    rw [ofRows_rows]

/-! ### Volume snapshotters -/

/-- Gives a snapshotter its settings. -/
structure InitRequest where
  plugin : String := ""
  config : Dict String := ∅
  deriving DecidableEq

/-- The fields of an init request. -/
def initRequestLayout : Layout Cell := ⟨"VolumeSnapshotterInitRequest",
    [⟨"plugin", 1, .text⟩, ⟨"config", 2, .textMap⟩]⟩

instance : Message InitRequest where
  Kind := Cell
  layout := initRequestLayout
  row m := (m.plugin, m.config, ())
  ofRow := fun (plugin, config, ()) => ⟨plugin, config⟩
  ofRow_row _ := rfl

/-- Asks for a volume from a snapshot.  Zero operations a second stand for unset. -/
structure CreateVolumeRequest where
  plugin : String := ""
  snapshotId : String := ""
  volumeType : String := ""
  volumeAz : String := ""
  iops : Int64 := 0
  deriving DecidableEq

/-- The fields of a create volume request. -/
def createVolumeRequestLayout : Layout Cell := ⟨"CreateVolumeRequest",
    [⟨"plugin", 1, .text⟩, ⟨"snapshot_id", 2, .text⟩, ⟨"volume_type", 3, .text⟩,
      ⟨"volume_az", 4, .text⟩, ⟨"iops", 5, .int64⟩]⟩

instance : Message CreateVolumeRequest where
  Kind := Cell
  layout := createVolumeRequestLayout
  row m := (m.plugin, m.snapshotId, m.volumeType, m.volumeAz, m.iops, ())
  ofRow := fun (plugin, snapshotId, volumeType, volumeAz, iops, ()) =>
    ⟨plugin, snapshotId, volumeType, volumeAz, iops⟩
  ofRow_row _ := rfl

/-- The id of a new volume. -/
structure CreateVolumeResponse where
  volumeId : String := ""
  deriving DecidableEq

/-- The fields of a create volume response. -/
def createVolumeResponseLayout : Layout Cell := ⟨"CreateVolumeResponse", [⟨"volume_id", 1, .text⟩]⟩

instance : Message CreateVolumeResponse where
  Kind := Cell
  layout := createVolumeResponseLayout
  row m := (m.volumeId, ())
  ofRow := fun (volumeId, ()) => ⟨volumeId⟩
  ofRow_row _ := rfl

/-- Asks about a volume. -/
structure GetVolumeInfoRequest where
  plugin : String := ""
  volumeId : String := ""
  volumeAz : String := ""
  deriving DecidableEq

/-- The fields of a get volume info request. -/
def getVolumeInfoRequestLayout : Layout Cell := ⟨"GetVolumeInfoRequest",
    [⟨"plugin", 1, .text⟩, ⟨"volume_id", 2, .text⟩, ⟨"volume_az", 3, .text⟩]⟩

instance : Message GetVolumeInfoRequest where
  Kind := Cell
  layout := getVolumeInfoRequestLayout
  row m := (m.plugin, m.volumeId, m.volumeAz, ())
  ofRow := fun (plugin, volumeId, volumeAz, ()) => ⟨plugin, volumeId, volumeAz⟩
  ofRow_row _ := rfl

/-- What a snapshotter says of a volume. -/
structure GetVolumeInfoResponse where
  volumeType : String := ""
  iops : Int64 := 0
  deriving DecidableEq

/-- The fields of a get volume info response. -/
def getVolumeInfoResponseLayout : Layout Cell := ⟨"GetVolumeInfoResponse",
    [⟨"volume_type", 1, .text⟩, ⟨"iops", 2, .int64⟩]⟩

instance : Message GetVolumeInfoResponse where
  Kind := Cell
  layout := getVolumeInfoResponseLayout
  row m := (m.volumeType, m.iops, ())
  ofRow := fun (volumeType, iops, ()) => ⟨volumeType, iops⟩
  ofRow_row _ := rfl

/-- Asks for a snapshot of a volume. -/
structure CreateSnapshotRequest where
  plugin : String := ""
  volumeId : String := ""
  volumeAz : String := ""
  tags : Dict String := ∅
  deriving DecidableEq

/-- The fields of a create snapshot request. -/
def createSnapshotRequestLayout : Layout Cell := ⟨"CreateSnapshotRequest",
    [⟨"plugin", 1, .text⟩, ⟨"volume_id", 2, .text⟩, ⟨"volume_az", 3, .text⟩,
      ⟨"tags", 4, .textMap⟩]⟩

instance : Message CreateSnapshotRequest where
  Kind := Cell
  layout := createSnapshotRequestLayout
  row m := (m.plugin, m.volumeId, m.volumeAz, m.tags, ())
  ofRow := fun (plugin, volumeId, volumeAz, tags, ()) => ⟨plugin, volumeId, volumeAz, tags⟩
  ofRow_row _ := rfl

/-- The id of a new snapshot. -/
structure CreateSnapshotResponse where
  snapshotId : String := ""
  deriving DecidableEq

/-- The fields of a create snapshot response. -/
def createSnapshotResponseLayout : Layout Cell := ⟨"CreateSnapshotResponse",
    [⟨"snapshot_id", 1, .text⟩]⟩

instance : Message CreateSnapshotResponse where
  Kind := Cell
  layout := createSnapshotResponseLayout
  row m := (m.snapshotId, ())
  ofRow := fun (snapshotId, ()) => ⟨snapshotId⟩
  ofRow_row _ := rfl

/-- Asks to delete a snapshot. -/
structure DeleteSnapshotRequest where
  plugin : String := ""
  snapshotId : String := ""
  deriving DecidableEq

/-- The fields of a delete snapshot request. -/
def deleteSnapshotRequestLayout : Layout Cell := ⟨"DeleteSnapshotRequest",
    [⟨"plugin", 1, .text⟩, ⟨"snapshot_id", 2, .text⟩]⟩

instance : Message DeleteSnapshotRequest where
  Kind := Cell
  layout := deleteSnapshotRequestLayout
  row m := (m.plugin, m.snapshotId, ())
  ofRow := fun (plugin, snapshotId, ()) => ⟨plugin, snapshotId⟩
  ofRow_row _ := rfl

/-- Asks for the id of a persistent volume, which is a JSON text. -/
structure GetVolumeIdRequest where
  plugin : String := ""
  persistentVolume : Bytes := []
  deriving DecidableEq

/-- The fields of a get volume id request. -/
def getVolumeIdRequestLayout : Layout Cell := ⟨"GetVolumeIdRequest",
    [⟨"plugin", 1, .text⟩, ⟨"persistent_volume", 2, .bytes⟩]⟩

instance : Message GetVolumeIdRequest where
  Kind := Cell
  layout := getVolumeIdRequestLayout
  row m := (m.plugin, m.persistentVolume, ())
  ofRow := fun (plugin, persistentVolume, ()) => ⟨plugin, persistentVolume⟩
  ofRow_row _ := rfl

/-- The id of a persistent volume. -/
structure GetVolumeIdResponse where
  volumeId : String := ""
  deriving DecidableEq

/-- The fields of a get volume id response. -/
def getVolumeIdResponseLayout : Layout Cell := ⟨"GetVolumeIdResponse", [⟨"volume_id", 1, .text⟩]⟩

instance : Message GetVolumeIdResponse where
  Kind := Cell
  layout := getVolumeIdResponseLayout
  row m := (m.volumeId, ())
  ofRow := fun (volumeId, ()) => ⟨volumeId⟩
  ofRow_row _ := rfl

/-- Asks for a persistent volume with another id. -/
structure SetVolumeIdRequest where
  plugin : String := ""
  persistentVolume : Bytes := []
  volumeId : String := ""
  deriving DecidableEq

/-- The fields of a set volume id request. -/
def setVolumeIdRequestLayout : Layout Cell := ⟨"SetVolumeIdRequest",
    [⟨"plugin", 1, .text⟩, ⟨"persistent_volume", 2, .bytes⟩, ⟨"volume_id", 3, .text⟩]⟩

instance : Message SetVolumeIdRequest where
  Kind := Cell
  layout := setVolumeIdRequestLayout
  row m := (m.plugin, m.persistentVolume, m.volumeId, ())
  ofRow := fun (plugin, persistentVolume, volumeId, ()) => ⟨plugin, persistentVolume, volumeId⟩
  ofRow_row _ := rfl

/-- A persistent volume with another id. -/
structure SetVolumeIdResponse where
  persistentVolume : Bytes := []
  deriving DecidableEq

/-- The fields of a set volume id response. -/
def setVolumeIdResponseLayout : Layout Cell := ⟨"SetVolumeIdResponse",
    [⟨"persistent_volume", 1, .bytes⟩]⟩

instance : Message SetVolumeIdResponse where
  Kind := Cell
  layout := setVolumeIdResponseLayout
  row m := (m.persistentVolume, ())
  ofRow := fun (persistentVolume, ()) => ⟨persistentVolume⟩
  ofRow_row _ := rfl

/-! ### Listings -/

/-- One line of a listing, with the name of the kind. -/
structure PluginLine where
  command : String := ""
  kind : String := ""
  name : String := ""
  deriving DecidableEq

/-- The fields of a plugin line. -/
def pluginLineLayout : Layout Cell := ⟨"PluginIdentifier",
    [⟨"command", 1, .text⟩, ⟨"kind", 2, .text⟩, ⟨"name", 3, .text⟩]⟩

instance : Message PluginLine where
  Kind := Cell
  layout := pluginLineLayout
  row m := (m.command, m.kind, m.name, ())
  ofRow := fun (command, kind, name, ()) => ⟨command, kind, name⟩
  ofRow_row _ := rfl

/-- A listing. -/
structure ListPluginsResponse where
  plugins : List PluginLine := []
  deriving DecidableEq

/-- The fields of a list plugins response. -/
def listPluginsResponseLayout : Layout Part := ⟨"ListPluginsResponse",
    [⟨"plugins", 1, .many pluginLineLayout⟩]⟩

instance : Message ListPluginsResponse where
  Kind := Part
  layout := listPluginsResponseLayout
  row m := (rows m.plugins, ())
  ofRow := fun (plugins, ()) => ⟨ofRows plugins⟩
  ofRow_row m := by
    show ListPluginsResponse.mk (ofRows (rows m.plugins)) = m
    rw [ofRows_rows]

/-! ### Conversions -/

namespace IdentifierMessage

/-- An identifier as it is sent. -/
def ofIdentifier (id : ResourceIdentifier) : IdentifierMessage where
  group := id.group
  resource := id.resource
  «namespace» := id.namespace
  name := id.name

/-- The identifier that was sent. -/
def toIdentifier (m : IdentifierMessage) : ResourceIdentifier where
  group := m.group
  resource := m.resource
  «namespace» := m.namespace
  name := m.name

@[simp] theorem toIdentifier_ofIdentifier (id : ResourceIdentifier) :
    (ofIdentifier id).toIdentifier = id := rfl

end IdentifierMessage

namespace SelectorMessage

/-- A selector as it is sent. -/
def ofSelector (s : ResourceSelector) : SelectorMessage where
  includedNamespaces := s.includedNamespaces
  excludedNamespaces := s.excludedNamespaces
  includedResources := s.includedResources
  excludedResources := s.excludedResources
  selector := s.selector

/-- The selector that was sent. -/
def toSelector (m : SelectorMessage) : ResourceSelector where
  includedNamespaces := m.includedNamespaces
  excludedNamespaces := m.excludedNamespaces
  includedResources := m.includedResources
  excludedResources := m.excludedResources
  selector := m.selector

@[simp] theorem toSelector_ofSelector (s : ResourceSelector) : (ofSelector s).toSelector = s := rfl

end SelectorMessage

namespace PluginLine

/-- A plugin as a line of a listing. -/
def ofPlugin (id : PluginIdentifier) : PluginLine := ⟨id.command, id.kind.name, id.name⟩

/-- The plugin of a line, or the name that names no kind. -/
def toPlugin (line : PluginLine) : Except String PluginIdentifier :=
  match PluginKind.ofName? line.kind with
  | some kind => .ok ⟨line.command, kind, line.name⟩
  | none => .error line.kind

theorem toPlugin_ofPlugin (id : PluginIdentifier) : (ofPlugin id).toPlugin = .ok id := by
  simp [toPlugin, ofPlugin, PluginKind.ofName?_name]

end PluginLine

/-! ### All messages -/

/-- The layouts of all messages. -/
def layouts : List (Layout Part) :=
  [emptyLayout.ofCells, stackFrameLayout.ofCells, resourceIdentifierLayout.ofCells,
    resourceSelectorLayout.ofCells, stackLayout, appliesToRequestLayout.ofCells,
    appliesToResponseLayout, executeRequestLayout.ofCells, executeResponseLayout,
    initRequestLayout.ofCells, createVolumeRequestLayout.ofCells,
    createVolumeResponseLayout.ofCells, getVolumeInfoRequestLayout.ofCells,
    getVolumeInfoResponseLayout.ofCells, createSnapshotRequestLayout.ofCells,
    createSnapshotResponseLayout.ofCells, deleteSnapshotRequestLayout.ofCells,
    getVolumeIdRequestLayout.ofCells, getVolumeIdResponseLayout.ofCells,
    setVolumeIdRequestLayout.ofCells, setVolumeIdResponseLayout.ofCells,
    pluginLineLayout.ofCells, listPluginsResponseLayout]

/-- The layout of the message with a name. -/
def layout? (name : String) : Option (Layout Part) :=
  layouts.find? fun layout => layout.name == name

end RestorePlugins.Service
