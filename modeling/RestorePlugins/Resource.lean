import RestorePlugins.Json.Record
import RestorePlugins.Plugin.Kind

namespace RestorePlugins

/-!
# Resources, volumes and plugin identifiers

* `ResourceIdentifier` — names one resource; `display` is `resource.group/namespace/name`
  without an empty group or namespace.
* `ResourceSelector` — says which resources an action is for.
* `VolumeInfo` — a volume's type and provisioned operations a second.
* `PluginIdentifier` — one line of a listing.
-/

/-! ### Resources -/

/-- The name of one resource; group and namespace may be empty. -/
structure ResourceIdentifier where
  group : String := ""
  resource : String := ""
  «namespace» : String := ""
  name : String := ""
  deriving DecidableEq, Repr, Inhabited

/-- The displayed form of an identifier. -/
def ResourceIdentifier.display (id : ResourceIdentifier) : String :=
  let kind := if id.group = "" then id.resource else id.resource ++ "." ++ id.group
  if id.namespace = "" then kind ++ "/" ++ id.name
  else kind ++ "/" ++ id.namespace ++ "/" ++ id.name

/-- Which resources an action is for; empty parts do not restrict. -/
structure ResourceSelector where
  includedNamespaces : List String := []
  excludedNamespaces : List String := []
  includedResources : List String := []
  excludedResources : List String := []
  selector : String := ""
  deriving DecidableEq, Repr, Inhabited

namespace ResourceSelector

/-- The selector of all resources of the given sorts. -/
def forResources (resources : List String) : ResourceSelector :=
  { includedResources := resources }

/-- Whether nothing is restricted. -/
def isEmpty (s : ResourceSelector) : Bool := decide (s = {})

end ResourceSelector

/-! ### Volumes -/

/-- A volume's type and, if it was asked for, its operations a second. -/
structure VolumeInfo where
  volumeType : String := ""
  iops : Option Int64 := none
  deriving DecidableEq, Repr, Inhabited

/-- Operations a second on the wire: zero stands for unset. -/
def iopsToWire (iops : Option Int64) : Int64 := iops.getD 0

/-- Operations a second from the wire. -/
def iopsFromWire (iops : Int64) : Option Int64 := if iops = 0 then none else some iops

theorem iopsFromWire_toWire (iops : Option Int64) (h : iops ≠ some 0) :
    iopsFromWire (iopsToWire iops) = iops := by
  cases iops with
  | none => rfl
  | some i =>
    have : i ≠ 0 := fun hi => h (by rw [hi])
    simp [iopsToWire, iopsFromWire, this]

/-! ### Plugin identifiers -/

/-- A plugin as a listing shows it. -/
structure PluginIdentifier where
  /-- The command of the host that serves the plugin. -/
  command : String
  kind : PluginKind
  name : String
  deriving DecidableEq, Repr

/-! ### Records -/

open Json

instance : Record ResourceIdentifier where
  layout := ⟨"ResourceIdentifier",
    [("group", .text), ("resource", .text), ("namespace", .text), ("name", .text)]⟩
  row id := (id.group, id.resource, id.namespace, id.name, ())
  ofRow := fun (group, resource, ns, name, ()) => ⟨group, resource, ns, name⟩
  ofRow_row _ := rfl

instance : Record ResourceSelector where
  layout := ⟨"ResourceSelector",
    [("included_namespaces", .texts), ("excluded_namespaces", .texts),
      ("included_resources", .texts), ("excluded_resources", .texts), ("selector", .text)]⟩
  row s := (s.includedNamespaces, s.excludedNamespaces, s.includedResources,
    s.excludedResources, s.selector, ())
  ofRow := fun (includedNs, excludedNs, included, excluded, selector, ()) =>
    ⟨includedNs, excludedNs, included, excluded, selector⟩
  ofRow_row _ := rfl

instance : Record VolumeInfo where
  layout := ⟨"VolumeInfo", [("volume_type", .text), ("iops", .integer)]⟩
  row info := (info.volumeType, info.iops, ())
  ofRow := fun (volumeType, iops, ()) => ⟨volumeType, iops⟩
  ofRow_row _ := rfl

/-- The names of the kinds, as a record spells them. -/
def PluginKind.names : List String := ["RestoreItemAction", "VolumeSnapshotter"]

theorem PluginKind.name_mem (kind : PluginKind) : kind.name ∈ PluginKind.names := by
  cases kind <;> decide

/-- The kind of one of the names. -/
def PluginKind.ofChoice (name : { s : String // s ∈ PluginKind.names }) : PluginKind :=
  if name.1 = "VolumeSnapshotter" then .volumeSnapshotter else .restoreItemAction

theorem PluginKind.ofChoice_name (kind : PluginKind) :
    PluginKind.ofChoice ⟨kind.name, kind.name_mem⟩ = kind := by
  cases kind <;> decide

instance : Record PluginIdentifier where
  layout := ⟨"PluginIdentifier",
    [("command", .text), ("kind", .choice PluginKind.names), ("name", .text)]⟩
  row id := (id.command, ⟨id.kind.name, id.kind.name_mem⟩, id.name, ())
  ofRow := fun (command, kind, name, ()) => ⟨command, PluginKind.ofChoice kind, name⟩
  ofRow_row id := by
    show PluginIdentifier.mk id.command (PluginKind.ofChoice _) id.name = id
    rw [PluginKind.ofChoice_name]

/-- The kind that a whole JSON text spells. -/
def PluginKind.decode (text : Bytes) : Except Json.Error PluginKind :=
  (readAll (readChoice PluginKind.names) text).map PluginKind.ofChoice

end RestorePlugins
