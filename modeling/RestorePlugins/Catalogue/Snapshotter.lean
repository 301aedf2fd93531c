import RestorePlugins.Catalogue.Opening
import RestorePlugins.Catalogue.Records
import RestorePlugins.Files.Location
import RestorePlugins.Json.Path
import RestorePlugins.Plugin.Contract

namespace RestorePlugins.Catalogue

/-!
# The local snapshotter

A snapshotter that copies no data: it keeps a catalogue of snapshots and volumes in a database.

* `Surroundings` — what happens around one operation: how opening a path ends, which call of the
  database fails, the random number and the time.
* `Shelf` — the databases by directory, and the catalogue that is open.
* `Operation α` — what an operation answers and does to the shelf.
* `init`, `createVolume`, `volumeInfo`, `createSnapshot`, `deleteSnapshot`, `volumeId`,
  `setVolumeId` — the operations, and `snapshotter`, the plugin that they are.
-/

/-- The name under which the snapshotter is registered. -/
def pluginName : String := "bkplug.io/local"

/-! ### Surroundings -/

/-- The calls of a database that may fail. -/
inductive StoreCall where
  | openTree (tree : Tree)
  | read
  | insert
  | flush
  | remove
  deriving DecidableEq, Repr

/-- What happens around one operation. -/
structure Surroundings where
  /-- How each attempt to open a path ends; an opened path leads to a directory. -/
  attempt : String → Nat → Attempt String
  /-- The text of the error with which a call fails, if it fails. -/
  fault : StoreCall → Option String
  /-- The random number of a new id. -/
  draw : UInt64
  /-- The present time, as a text. -/
  time : String

/-! ### Open catalogues -/

/-- The catalogue that is open. -/
structure OpenCatalogue where
  /-- The path that was asked for. -/
  path : String
  /-- The directory that it led to. -/
  directory : String
  /-- The type of volumes that the catalogue does not know. -/
  volumeType : String
  deriving DecidableEq, Repr

/-- All databases, and the catalogue that is open. -/
structure Shelf where
  current : Option OpenCatalogue := none
  databases : Dict Database := ∅
  deriving DecidableEq

instance : Inhabited Shelf := ⟨{}⟩

namespace Shelf

/-- The database in a directory; one that was never opened is empty. -/
def database (directory : String) (s : Shelf) : Database := (s.databases.get? directory).getD {}

/-- Changes the database in a directory. -/
def modify (directory : String) (f : Database → Database) (s : Shelf) : Shelf :=
  { s with databases := s.databases.insert directory (f (s.database directory)) }

/-- Closes the open catalogue, which flushes its database. -/
def close (s : Shelf) : Shelf :=
  match s.current with
  | some catalogue => { s.modify catalogue.directory Database.flush with current := none }
  | none => s

/-- Ends without closing anything: every database falls back to what is on disk. -/
def crash (s : Shelf) : Shelf :=
  { current := none
    databases :=
      s.databases.keys.foldl (fun d key => d.insert key (s.database key).crash) s.databases }

end Shelf

/-! ### Operations -/

/-- An operation on the catalogue, in its surroundings. -/
abbrev Operation (α : Type) := Surroundings → Shelf → Except PluginError α × Shelf

/-- The operation that needs an open catalogue. -/
def withCatalogue {α : Type} (body : OpenCatalogue → Operation α) : Operation α :=
  fun around shelf =>
    match shelf.current with
    | some catalogue => body catalogue around shelf
    | none => (.error (.notInitialized pluginName), shelf)

/-- A new id: eight random bytes in hexadecimal after a word. -/
def newId (word : String) (draw : UInt64) : String :=
  let bytes := (List.range 8).map fun i => UInt8.ofNat (draw.toNat / Nat.pow 256 (7 - i))
  word ++ "-" ++ hex bytes

/-- The record under an id, if there is one. -/
def fetch (α : Type) [Json.Record α] (tree : Tree) (id : String) (catalogue : OpenCatalogue)
    (around : Surroundings) (shelf : Shelf) : Except PluginError (Option α) :=
  match around.fault .read with
  | some text => .error (.database ("unable to read " ++ id) text)
  | none =>
    match (shelf.database catalogue.directory).get? tree id with
    | none => .ok none
    | some bytes => ((Json.decode α bytes).mapError .badJson).map some

/-- Stores a record under an id and flushes the database. -/
def store {α : Type} [Json.Record α] (tree : Tree) (id : String) (record : α)
    (catalogue : OpenCatalogue) : Operation Unit := fun around shelf =>
  match around.fault .insert with
  | some text => (.error (.database ("unable to write " ++ id) text), shelf)
  | none =>
    let written := shelf.modify catalogue.directory (Database.insert tree id (Json.encode record))
    match around.fault .flush with
    | some text => (.error (.database "unable to flush database" text), written)
    | none => (.ok (), written.modify catalogue.directory Database.flush)

/-- Stores a record under a new id and answers the id. -/
def storeNew {α : Type} [Json.Record α] (tree : Tree) (word : String) (record : α)
    (catalogue : OpenCatalogue) : Operation String := fun around shelf =>
  let id := newId word around.draw
  match store tree id record catalogue around shelf with
  | (.ok (), shelf) => (.ok id, shelf)
  | (.error e, shelf) => (.error e, shelf)

/-! ### Opening a catalogue -/

/-- The setting with the path of the catalogue. -/
def pathKey : String := "path"

/-- The setting with the type of volumes that the catalogue does not know. -/
def volumeTypeKey : String := "volumeType"

/-- Where the catalogue is without a setting. -/
def defaultPath : String := "/var/lib/bkplug/snapshots"

/-- The type of unknown volumes without a setting. -/
def defaultVolumeType : String := "local"

/-- A setting that means nothing. -/
def unknownKey? (config : Dict String) : Option String :=
  config.keys.find? fun key => decide (key ≠ pathKey ∧ key ≠ volumeTypeKey)

/-- How attempts to open a path end when the open catalogue holds the lock of its directory. -/
def attempts (around : Surroundings) (shelf : Shelf) (path : String) (n : Nat) :
    Attempt String :=
  match around.attempt path n with
  | .opened directory =>
    if shelf.current.any fun catalogue => catalogue.directory == directory then .contended
    else .opened directory
  | other => other

/-- The first tree that cannot be opened, as an error. -/
def treeFault? (around : Surroundings) : Option PluginError :=
  [Tree.snapshots, Tree.volumes].findSome? fun tree =>
    (around.fault (.openTree tree)).map fun text =>
      .database ("unable to open tree " ++ tree.name) text

/-- Opens another catalogue; the open one stays in place until the new one is ready. -/
def switchTo (budget : RetryBudget) (path volumeType : String) : Operation Unit :=
  fun around shelf =>
    match (openWithin budget (attempts around shelf path)).result with
    | .error e => (.error e, shelf)
    | .ok directory =>
      match treeFault? around with
      | some e => (.error e, shelf)
      | none =>
        (.ok (), { (shelf.close.modify directory id) with
          current := some ⟨path, directory, volumeType⟩ })

/-- Takes over the settings: opens the catalogue at their path, unless it is open already. -/
def init (budget : RetryBudget) (config : Dict String) : Operation Unit := fun around shelf =>
  match unknownKey? config with
  | some key => (.error (.invalidConfigKey pluginName key), shelf)
  | none =>
    let path := (config.get? pathKey).getD defaultPath
    let volumeType := (config.get? volumeTypeKey).getD defaultVolumeType
    match shelf.current with
    | some catalogue =>
      if Files.samePath catalogue.path path then
        (.ok (), { shelf with current := some { catalogue with volumeType := volumeType } })
      else switchTo budget path volumeType around shelf
    | none => switchTo budget path volumeType around shelf

/-! ### Volumes and snapshots -/

/-- The record of a volume that a request makes from a snapshot. -/
def newVolume (request : VolumeRequest) (snapshot : SnapshotRecord) : VolumeRecord where
  volumeType := if request.volumeType = "" then snapshot.volumeType else request.volumeType
  volumeAz := request.volumeAz
  iops := request.iops.or snapshot.iops
  sourceSnapshot := request.snapshotId

/-- Makes a volume from a snapshot. -/
def createVolume (request : VolumeRequest) : Operation String :=
  withCatalogue fun catalogue around shelf =>
    match fetch SnapshotRecord .snapshots request.snapshotId catalogue around shelf with
    | .error e => (.error e, shelf)
    | .ok none => (.error (.snapshotNotFound request.snapshotId), shelf)
    | .ok (some snapshot) =>
      storeNew .volumes "vol" (newVolume request snapshot) catalogue around shelf

/-- What the catalogue says of a volume, known to it or not. -/
def infoOf (catalogue : OpenCatalogue) : Option VolumeRecord → VolumeInfo
  | some volume => ⟨volume.volumeType, volume.iops⟩
  | none => ⟨catalogue.volumeType, none⟩

/-- Type and operations a second of a volume. -/
def volumeInfo (volumeId : String) : Operation VolumeInfo :=
  withCatalogue fun catalogue around shelf =>
    ((fetch VolumeRecord .volumes volumeId catalogue around shelf).map (infoOf catalogue), shelf)

/-- The record of a snapshot that a request makes. -/
def newSnapshot (request : SnapshotRequest) (info : VolumeInfo) (time : String) :
    SnapshotRecord where
  volumeId := request.volumeId
  volumeAz := request.volumeAz
  volumeType := info.volumeType
  iops := info.iops
  tags := request.tags
  createdAt := time

/-- Makes a snapshot of a volume, known to the catalogue or not. -/
def createSnapshot (request : SnapshotRequest) : Operation String :=
  withCatalogue fun catalogue around shelf =>
    match fetch VolumeRecord .volumes request.volumeId catalogue around shelf with
    | .error e => (.error e, shelf)
    | .ok volume =>
      let snapshot := newSnapshot request (infoOf catalogue volume) around.time
      storeNew .snapshots "snap" snapshot catalogue around shelf

/-- Deletes a snapshot; an unknown one is deleted already. -/
def deleteSnapshot (snapshotId : String) : Operation Unit :=
  withCatalogue fun catalogue around shelf =>
    match around.fault .remove with
    | some text => (.error (.database ("unable to delete snapshot " ++ snapshotId) text), shelf)
    | none =>
      (.ok (), shelf.modify catalogue.directory (Database.remove .snapshots snapshotId))

/-! ### Persistent volumes -/

/-- The path of the driver's section in a persistent volume. -/
def driverPath : List String := ["spec", "csi"]

/-- The key of the volume's id in that section. -/
def handleKey : String := "volumeHandle"

/-- The id in a persistent volume; the empty text if there is none. -/
def handleOf (persistentVolume : Json) : String :=
  (persistentVolume.nestedString (driverPath ++ [handleKey])).getD ""

/-- The persistent volume with another id in the driver's section, which has to be there. -/
def withHandle (persistentVolume : Json) (volumeId : String) : Except PluginError Json :=
  if (persistentVolume.nested driverPath).isNone then
    .error (.invalidDocument "persistent volume has no spec.csi section")
  else
    (persistentVolume.editObject driverPath (Entries.insert handleKey (.str volumeId))).mapError
      .ofPathFault

/-- The id of a persistent volume. -/
def volumeId (persistentVolume : Json) : Operation String :=
  withCatalogue fun _ _ shelf => (.ok (handleOf persistentVolume), shelf)

/-- The persistent volume with another id. -/
def setVolumeId (persistentVolume : Json) (volumeId : String) : Operation Json :=
  withCatalogue fun _ _ shelf => (withHandle persistentVolume volumeId, shelf)

/-! ### The plugin -/

/-- A shelf and what happens around the next operation on it. -/
structure Site where
  around : Surroundings
  shelf : Shelf

/-- An operation as a call of a plugin. -/
def Operation.call {α : Type} (operation : Operation α) : Call Site α := fun site =>
  let (answer, shelf) := operation site.around site.shelf
  (answer.mapError .error, { site with shelf := shelf })

/-- The local snapshotter. -/
def snapshotter (budget : RetryBudget) : Snapshotter Site where
  init config := Operation.call (init budget config)
  createVolume request := Operation.call (createVolume request)
  volumeInfo id _ := Operation.call (volumeInfo id)
  createSnapshot request := Operation.call (createSnapshot request)
  deleteSnapshot id := Operation.call (deleteSnapshot id)
  volumeId pv := Operation.call (volumeId pv)
  setVolumeId pv id := Operation.call (setVolumeId pv id)

end RestorePlugins.Catalogue
