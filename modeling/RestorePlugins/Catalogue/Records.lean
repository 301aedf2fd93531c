import RestorePlugins.Json.Record

namespace RestorePlugins.Catalogue

/-!
# What the catalogue stores

* `SnapshotRecord`, `VolumeRecord` — the two sorts of records, stored as JSON texts.
* `Records` — the two trees of a database.
* `Database` — the trees as operations see them, and as they are on disk.  A write becomes
  durable with the next flush of the database; a crash takes back what was not flushed.
-/

/-! ### Records -/

/-- What is kept about a snapshot. -/
structure SnapshotRecord where
  volumeId : String
  volumeAz : String
  volumeType : String
  iops : Option Int64
  tags : Dict String
  createdAt : String
  deriving DecidableEq

/-- What is kept about a volume. -/
structure VolumeRecord where
  volumeType : String
  volumeAz : String
  iops : Option Int64
  sourceSnapshot : String
  deriving DecidableEq

instance : Json.Record SnapshotRecord where
  layout := ⟨"SnapshotRecord",
    [("volume_id", .text), ("volume_az", .text), ("volume_type", .text), ("iops", .integer),
      ("tags", .textMap), ("created_at", .text)]⟩
  row r := (r.volumeId, r.volumeAz, r.volumeType, r.iops, r.tags, r.createdAt, ())
  ofRow := fun (volumeId, volumeAz, volumeType, iops, tags, createdAt, ()) =>
    ⟨volumeId, volumeAz, volumeType, iops, tags, createdAt⟩
  ofRow_row _ := rfl

instance : Json.Record VolumeRecord where
  layout := ⟨"VolumeRecord",
    [("volume_type", .text), ("volume_az", .text), ("iops", .integer),
      ("source_snapshot", .text)]⟩
  row r := (r.volumeType, r.volumeAz, r.iops, r.sourceSnapshot, ())
  ofRow := fun (volumeType, volumeAz, iops, sourceSnapshot, ()) =>
    ⟨volumeType, volumeAz, iops, sourceSnapshot⟩
  ofRow_row _ := rfl

/-! ### Trees -/

/-- The trees of a database. -/
inductive Tree where
  | snapshots
  | volumes
  deriving DecidableEq, Repr

/-- The name of a tree. -/
def Tree.name : Tree → String
  | snapshots => "snapshots"
  | volumes => "volumes"

/-- The contents of both trees. -/
structure Records where
  snapshots : Dict Bytes := ∅
  volumes : Dict Bytes := ∅
  deriving DecidableEq

instance : Inhabited Records := ⟨{}⟩

namespace Records

/-- The contents of one tree. -/
def tree (records : Records) : Tree → Dict Bytes
  | .snapshots => records.snapshots
  | .volumes => records.volumes

/-- Changes one tree. -/
def modify (tree : Tree) (f : Dict Bytes → Dict Bytes) (records : Records) : Records :=
  match tree with
  | .snapshots => { records with snapshots := f records.snapshots }
  | .volumes => { records with volumes := f records.volumes }

/-- Only the changed tree changes. -/
theorem tree_modify (tree other : Tree) (f : Dict Bytes → Dict Bytes) (records : Records) :
    (records.modify tree f).tree other =
      if tree = other then f (records.tree other) else records.tree other := by
  cases tree <;> cases other <;> rfl

end Records

/-! ### Databases -/

/-- A database: what operations see, and what is on disk. -/
structure Database where
  live : Records := {}
  durable : Records := {}
  deriving DecidableEq

instance : Inhabited Database := ⟨{}⟩

namespace Database

/-- The bytes under a key. -/
def get? (tree : Tree) (key : String) (d : Database) : Option Bytes :=
  (d.live.tree tree).get? key

/-- Puts bytes under a key; they are not durable yet. -/
def insert (tree : Tree) (key : String) (value : Bytes) (d : Database) : Database :=
  { d with live := d.live.modify tree (Dict.insert key value) }

/-- Takes a key out, which is not durable yet. -/
def remove (tree : Tree) (key : String) (d : Database) : Database :=
  { d with live := d.live.modify tree (Dict.erase key) }

/-- Makes all writes durable. -/
def flush (d : Database) : Database := { d with durable := d.live }

/-- Takes back the writes that are not durable. -/
def crash (d : Database) : Database := { d with live := d.durable }

theorem get?_insert (tree other : Tree) (key k : String) (value : Bytes) (d : Database) :
    (d.insert tree key value).get? other k =
      if tree = other ∧ key = k then some value else d.get? other k := by
  simp only [get?, insert, Records.tree_modify]
  split <;> simp_all [Dict.get?_insert]

theorem get?_remove (tree other : Tree) (key k : String) (d : Database) :
    (d.remove tree key).get? other k =
      if tree = other ∧ key = k then none else d.get? other k := by
  simp only [get?, remove, Records.tree_modify]
  split <;> simp_all [Dict.get?_erase]

end Database

end RestorePlugins.Catalogue
