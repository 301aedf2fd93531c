import RestorePlugins.Json.Path
import RestorePlugins.Plugin.Contract

namespace RestorePlugins.StorageClass

/-!
# Changing storage classes

A mapping from the storage classes of a backup to those of the restore is applied once to each
of two fields: the class in the item's specification and, in claims, the class in the older
annotation.

* `newClass` — what the mapping makes of a field.
* `replaceClass` — one field with its new class.
* `execute` — the rule as a whole.
-/

/-- The name under which the action is registered. -/
def pluginName : String := "bkplug.io/change-storage-class"

/-- The older annotation that names a storage class. -/
def annotationKey : String := "volume.beta.kubernetes.io/storage-class"

/-- The class that the mapping has for the text at the end of a path. -/
def newClass (mapping : Dict String) (item : Json) (path : List String) : Option String :=
  (item.nestedString path).bind mapping.get?

/-- Whether an item is a claim. -/
def isClaim (item : Json) : Bool := item.nestedString ["kind"] == some "PersistentVolumeClaim"

/-- The new class of the specification. -/
def specClass (mapping : Dict String) (item : Json) : Option String :=
  newClass mapping item ["spec", "storageClassName"]

/-- The new class of the annotation, which counts in claims only. -/
def annotationClass (mapping : Dict String) (item : Json) : Option String :=
  if isClaim item then newClass mapping item ["metadata", "annotations", annotationKey] else none

/-- Writes a new class, if there is one, under a key of the object at the end of a path. -/
def replaceClass (path : List String) (key : String) (newClass : Option String) (item : Json) :
    Except Json.PathFault Json :=
  match newClass with
  | some name => item.editObject path (Entries.insert key (.str name))
  | none => .ok item

/-- Writes the new classes into both fields. -/
def replaceBoth (spec annotation : Option String) (item : Json) : Except Json.PathFault Json :=
  replaceClass ["spec"] "storageClassName" spec item >>=
    replaceClass ["metadata", "annotations"] annotationKey annotation

/-- Changes the classes of an item that the mapping has something for. -/
def execute (mapping : Dict String) (input : ExecuteInput) : Except PluginError ExecuteOutput :=
  let spec := specClass mapping input.item
  let annotation := annotationClass mapping input.item
  if spec.isNone && annotation.isNone then .ok .unchanged
  else
    match replaceBoth spec annotation input.item with
    | .ok item => .ok (.updated item)
    | .error fault => .error (.ofPathFault fault)

/-- The action, which is for claims and volumes. -/
def action {W : Type} (mapping : Dict String) : RestoreAction W :=
  .ofRule (.forResources ["persistentvolumeclaims", "persistentvolumes"]) (execute mapping)

end RestorePlugins.StorageClass
