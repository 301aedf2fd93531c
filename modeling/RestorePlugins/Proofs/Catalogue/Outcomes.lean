import RestorePlugins.Catalogue.Snapshotter

namespace RestorePlugins.Catalogue

/-!
# What the operations do

All operations of the snapshotter, and a clean restart, as one step of a shelf.

* `Event`, `Reply` — the operations with their arguments, and what they answer.
* `Effect` — what a step did to the shelf.
* `Outcome` — which answers and effects a step of each sort can have.
* `outcome_step` — every step has one of these outcomes, and its effect is all that it does.
-/

/-! ### Databases of a shelf -/

namespace Shelf

/-- The directory of the open catalogue. -/
def openDirectory? (s : Shelf) : Option String := s.current.map OpenCatalogue.directory

/-- Changes the database of the open catalogue. -/
def alter (f : Database → Database) (s : Shelf) : Shelf :=
  match s.current with
  | some catalogue => s.modify catalogue.directory f
  | none => s

theorem database_modify (directory other : String) (f : Database → Database) (s : Shelf) :
    (s.modify directory f).database other =
      if directory = other then f (s.database directory) else s.database other := by
  simp only [database, modify, Dict.get?_insert]
  split <;> rfl

@[simp] theorem current_alter (f : Database → Database) (s : Shelf) :
    (s.alter f).current = s.current := by
  unfold alter
  split <;> rfl

/-- Of two changes of one database the second goes on from the first. -/
theorem modify_modify (directory : String) (f g : Database → Database) (s : Shelf) :
    (s.modify directory f).modify directory g = s.modify directory (g ∘ f) := by
  have hfirst : (s.modify directory f).database directory = f (s.database directory) := by
    rw [database_modify, if_pos rfl]
  have hentries : (s.databases.insert directory (f (s.database directory))).insert directory
      (g (f (s.database directory))) =
        s.databases.insert directory (g (f (s.database directory))) :=
    Dict.ext (Entries.insert_insert_self _ _ _ _)
  unfold modify at hfirst ⊢
  simp only [hfirst, hentries, Function.comp]

theorem alter_of_current {s : Shelf} {catalogue : OpenCatalogue}
    (h : s.current = some catalogue) (f : Database → Database) :
    s.alter f = s.modify catalogue.directory f := by
  simp only [alter, h]

theorem database_alter (other : String) (f : Database → Database) (s : Shelf) :
    (s.alter f).database other =
      if s.openDirectory? = some other then f (s.database other) else s.database other := by
  cases hcurrent : s.current with
  | none => simp [alter, openDirectory?, hcurrent]
  | some catalogue =>
    rw [alter_of_current hcurrent, database_modify]
    by_cases h : catalogue.directory = other <;> simp [openDirectory?, hcurrent, h]

/-- Closing flushes the database of the open catalogue. -/
theorem database_close (other : String) (s : Shelf) :
    s.close.database other =
      if s.openDirectory? = some other then (s.database other).flush else s.database other := by
  cases hcurrent : s.current with
  | none => simp [close, openDirectory?, hcurrent]
  | some catalogue =>
    have hmodify := database_modify catalogue.directory other Database.flush s
    have hclose : s.close.database other =
        (s.modify catalogue.directory Database.flush).database other := by
      simp only [close, hcurrent]
      rfl
    rw [hclose, hmodify]
    by_cases h : catalogue.directory = other <;> simp [openDirectory?, hcurrent, h]

end Shelf

/-! ### Steps -/

/-- What a process does with its shelf: an operation, or a clean restart. -/
inductive Event where
  | init (config : Dict String)
  | createVolume (request : VolumeRequest)
  | volumeInfo (volumeId : String)
  | createSnapshot (request : SnapshotRequest)
  | deleteSnapshot (snapshotId : String)
  | volumeId (persistentVolume : Json)
  | setVolumeId (persistentVolume : Json) (volumeId : String)
  | restart

/-- What the operations answer. -/
inductive Reply where
  | done
  | id (id : String)
  | info (info : VolumeInfo)
  | document (document : Json)

/-- An operation with its answer as one of the replies. -/
def Operation.as {α : Type} (operation : Operation α) (reply : α → Reply) : Operation Reply :=
  fun around shelf => ((operation around shelf).1.map reply, (operation around shelf).2)

/-- One step. -/
def Event.step (budget : RetryBudget) : Event → Operation Reply
  | init config => (Catalogue.init budget config).as fun () => .done
  | createVolume request => (Catalogue.createVolume request).as .id
  | volumeInfo id => (Catalogue.volumeInfo id).as .info
  | createSnapshot request => (Catalogue.createSnapshot request).as .id
  | deleteSnapshot id => (Catalogue.deleteSnapshot id).as fun () => .done
  | volumeId pv => (Catalogue.volumeId pv).as .id
  | setVolumeId pv id => (Catalogue.setVolumeId pv id).as .document
  | restart => fun _ shelf => (.ok .done, shelf.close)

/-- The tree and the id of the record that a step makes. -/
def Event.fresh? (around : Surroundings) : Event → Option (Tree × String)
  | createVolume _ => some (.volumes, newId "vol" around.draw)
  | createSnapshot _ => some (.snapshots, newId "snap" around.draw)
  | _ => none

/-! ### Effects -/

/-- What a step did to the shelf. -/
inductive Effect where
  /-- Nothing. -/
  | kept
  /-- The open catalogue has another type of unknown volumes. -/
  | retyped (volumeType : String)
  /-- The open catalogue was closed and another one opened. -/
  | switched (catalogue : OpenCatalogue)
  /-- The open catalogue has a new record; it is on disk or not. -/
  | stored (tree : Tree) (id : String) (bytes : Bytes) (flushed : Bool)
  /-- The open catalogue has a snapshot less. -/
  | removed (id : String)
  /-- The open catalogue was closed. -/
  | closed

/-- The shelf after an effect. -/
def Effect.on (shelf : Shelf) : Effect → Shelf
  | kept => shelf
  | retyped volumeType =>
    { shelf with current := shelf.current.map ({ · with volumeType := volumeType }) }
  | switched catalogue =>
    { shelf.close.modify catalogue.directory id with current := some catalogue }
  | stored tree id bytes true => shelf.alter (Database.flush ∘ Database.insert tree id bytes)
  | stored tree id bytes false => shelf.alter (Database.insert tree id bytes)
  | removed id => shelf.alter (Database.remove .snapshots id)
  | closed => shelf.close

/-- Opening a catalogue changes no database. -/
theorem Effect.database_switched (catalogue : OpenCatalogue) (directory : String) (shelf : Shelf) :
    ((switched catalogue).on shelf).database directory = shelf.close.database directory := by
  show (shelf.close.modify catalogue.directory (fun d => d)).database directory = _
  rw [Shelf.database_modify]
  split
  · next h => rw [h]
  · rfl

@[simp] theorem Shelf.current_close (s : Shelf) : s.close.current = none := by
  cases hcurrent : s.current <;> simp [Shelf.close, hcurrent]

/-- The directory that is open after an effect. -/
theorem Effect.openDirectory?_on (effect : Effect) (shelf : Shelf) :
    (effect.on shelf).openDirectory? =
      match effect with
      | switched catalogue => some catalogue.directory
      | closed => none
      | _ => shelf.openDirectory? := by
  cases effect with
  | kept => rfl
  | retyped volumeType =>
    cases hcurrent : shelf.current <;> simp [Effect.on, Shelf.openDirectory?, hcurrent]
  | switched catalogue => rfl
  | stored tree id bytes flushed => cases flushed <;> simp [Effect.on, Shelf.openDirectory?]
  | removed id => simp [Effect.on, Shelf.openDirectory?]
  | closed => simp [Effect.on, Shelf.openDirectory?]

/-! ### Outcomes -/

/-- The path of the catalogue in the settings. -/
def pathOf (config : Dict String) : String := (config.get? pathKey).getD defaultPath

/-- The type of unknown volumes in the settings. -/
def volumeTypeOf (config : Dict String) : String :=
  (config.get? volumeTypeKey).getD defaultVolumeType

/-- The answers and effects that a step can have, in its surroundings and on a shelf. -/
inductive Outcome (around : Surroundings) (shelf : Shelf) :
    Event → Except PluginError Reply → Effect → Prop
  | failed (event : Event) (e : PluginError) : Outcome around shelf event (.error e) .kept
  | informed (id : String) (info : VolumeInfo) :
    Outcome around shelf (.volumeInfo id) (.ok (.info info)) .kept
  | identified (pv : Json) (id : String) :
    Outcome around shelf (.volumeId pv) (.ok (.id id)) .kept
  | labelled (pv : Json) (id : String) (answer : Json) :
    Outcome around shelf (.setVolumeId pv id) (.ok (.document answer)) .kept
  | retyped (config : Dict String) (catalogue : OpenCatalogue)
    (hcurrent : shelf.current = some catalogue)
    (hsame : Files.samePath catalogue.path (pathOf config) = true) :
    Outcome around shelf (.init config) (.ok .done) (.retyped (volumeTypeOf config))
  | switched (config : Dict String) (directory : String)
    (hother : shelf.openDirectory? ≠ some directory) :
    Outcome around shelf (.init config) (.ok .done)
      (.switched ⟨pathOf config, directory, volumeTypeOf config⟩)
  | volumeStored (request : VolumeRequest) (catalogue : OpenCatalogue) (snapshot : SnapshotRecord)
    (hcurrent : shelf.current = some catalogue)
    (hsnapshot : fetch SnapshotRecord .snapshots request.snapshotId catalogue around shelf =
      .ok (some snapshot)) :
    Outcome around shelf (.createVolume request) (.ok (.id (newId "vol" around.draw)))
      (.stored .volumes (newId "vol" around.draw) (Json.encode (newVolume request snapshot)) true)
  | snapshotStored (request : SnapshotRequest) (catalogue : OpenCatalogue)
    (volume : Option VolumeRecord) (hcurrent : shelf.current = some catalogue)
    (hvolume : fetch VolumeRecord .volumes request.volumeId catalogue around shelf = .ok volume) :
    Outcome around shelf (.createSnapshot request) (.ok (.id (newId "snap" around.draw)))
      (.stored .snapshots (newId "snap" around.draw)
        (Json.encode (newSnapshot request (infoOf catalogue volume) around.time)) true)
  | unflushed (event : Event) (tree : Tree) (id : String) (bytes : Bytes) (e : PluginError)
    (hfresh : event.fresh? around = some (tree, id)) (hfault : around.fault .flush ≠ none) :
    Outcome around shelf event (.error e) (.stored tree id bytes false)
  | deleted (id : String) (hcurrent : shelf.openDirectory?.isSome) :
    Outcome around shelf (.deleteSnapshot id) (.ok .done) (.removed id)
  | restarted : Outcome around shelf .restart (.ok .done) .closed

/-- A step has an outcome. -/
def HasOutcome (around : Surroundings) (shelf : Shelf) (event : Event)
    (answer : Except PluginError Reply × Shelf) : Prop :=
  ∃ effect, Outcome around shelf event answer.1 effect ∧ answer.2 = effect.on shelf

section

variable {around : Surroundings} {shelf : Shelf}

/-- A step that fails keeps the shelf. -/
theorem HasOutcome.of_error {event : Event} (e : PluginError) :
    HasOutcome around shelf event (.error e, shelf) :=
  ⟨.kept, .failed event e, rfl⟩

/-- An operation without an open catalogue fails. -/
theorem HasOutcome.withCatalogue {α : Type} {event : Event} {reply : α → Reply}
    {body : OpenCatalogue → Operation α}
    (h : ∀ catalogue, shelf.current = some catalogue →
      HasOutcome around shelf event ((body catalogue).as reply around shelf)) :
    HasOutcome around shelf event ((withCatalogue body).as reply around shelf) := by
  cases hcurrent : shelf.current with
  | none =>
    simp only [Operation.as, Catalogue.withCatalogue, hcurrent]
    exact HasOutcome.of_error _
  | some catalogue =>
    have hbody := h catalogue hcurrent
    simpa only [Operation.as, Catalogue.withCatalogue, hcurrent] using hbody

/-- Storing a new record ends in one of three ways. -/
theorem HasOutcome.storeNew {α : Type} [Json.Record α] {event : Event} {tree : Tree}
    (word : String) {record : α} {catalogue : OpenCatalogue}
    (hcurrent : shelf.current = some catalogue)
    (hfresh : event.fresh? around = some (tree, newId word around.draw))
    (hstored : Outcome around shelf event (.ok (.id (newId word around.draw)))
      (.stored tree (newId word around.draw) (Json.encode record) true)) :
    HasOutcome around shelf event
      ((Catalogue.storeNew tree word record catalogue).as .id around shelf) := by
  simp only [Operation.as, Catalogue.storeNew, store]
  cases hinsert : around.fault .insert with
  | some text => exact HasOutcome.of_error _
  | none =>
    cases hflush : around.fault .flush with
    | some text =>
      refine ⟨_, .unflushed event tree _ (Json.encode record) _ hfresh (by simp [hflush]), ?_⟩
      simp only [Effect.on, Shelf.alter_of_current hcurrent]
    | none =>
      refine ⟨_, hstored, ?_⟩
      simp only [Effect.on, Shelf.alter_of_current hcurrent, Shelf.modify_modify]

/-- A directory that was opened is the result of an attempt. -/
theorem exists_attempt_of_openFrom {α : Type} {outcome : Nat → Attempt α} {handle : α}
    (retries first : Nat) (h : (openFrom outcome first retries).result = .ok handle) :
    ∃ n, outcome n = .opened handle := by
  induction retries generalizing first with
  | zero =>
    unfold openFrom at h
    split at h
    · next hopened =>
      cases h
      exact ⟨first, hopened⟩
    · cases h
    · cases h
  | succ retries ih =>
    unfold openFrom at h
    split at h
    · next hopened =>
      cases h
      exact ⟨first, hopened⟩
    · cases h
    · exact ih (first + 1) h

/-- The directory of the open catalogue cannot be opened again. -/
theorem openDirectory?_ne_of_attempts {path directory : String} {n : Nat}
    (h : attempts around shelf path n = .opened directory) :
    shelf.openDirectory? ≠ some directory := by
  unfold attempts at h
  split at h
  · next opened hopened =>
    split at h
    · cases h
    · next hfree =>
      cases h
      intro hsame
      obtain ⟨catalogue, hcurrent, rfl⟩ := Option.map_eq_some_iff.1 hsame
      exact hfree (by simp [hcurrent])
  · next hnot => exact absurd h (hnot directory)

theorem HasOutcome.switchTo (budget : RetryBudget) (config : Dict String) :
    HasOutcome around shelf (.init config)
      ((Catalogue.switchTo budget (pathOf config) (volumeTypeOf config)).as (fun () => .done)
        around shelf) := by
  simp only [Operation.as, Catalogue.switchTo]
  cases hopen : (openWithin budget (attempts around shelf (pathOf config))).result with
  | error e => exact HasOutcome.of_error e
  | ok directory =>
    cases htrees : treeFault? around with
    | some e => exact HasOutcome.of_error e
    | none =>
      obtain ⟨n, hattempt⟩ := exists_attempt_of_openFrom _ _ hopen
      exact ⟨_, .switched config directory (openDirectory?_ne_of_attempts hattempt), rfl⟩

theorem HasOutcome.init (budget : RetryBudget) (config : Dict String) :
    HasOutcome around shelf (.init config) ((Event.init config).step budget around shelf) := by
  have hswitch : HasOutcome around shelf (.init config) ((Catalogue.switchTo budget (pathOf config)
      (volumeTypeOf config)).as (fun () => .done) around shelf) :=
    HasOutcome.switchTo budget config
  simp only [Event.step, Operation.as, Catalogue.init] at hswitch ⊢
  cases hunknown : unknownKey? config with
  | some key => exact HasOutcome.of_error _
  | none =>
    cases hcurrent : shelf.current with
    | none => exact hswitch
    | some catalogue =>
      by_cases hsame : Files.samePath catalogue.path (pathOf config) = true
      -- Only another path closes the open catalogue and opens one.
      · have hif : Files.samePath catalogue.path ((config.get? pathKey).getD defaultPath) = true :=
          hsame
        simp only [hif, if_true]
        refine ⟨_, .retyped config catalogue hcurrent hsame, ?_⟩
        simp only [Effect.on, hcurrent, Option.map_some, volumeTypeOf]
      · have hif :
            ¬ Files.samePath catalogue.path ((config.get? pathKey).getD defaultPath) = true := hsame
        simp only [hif]
        exact hswitch

end

/-- **Outcomes.** Every step has one of the outcomes, and its effect is all that it does. -/
theorem outcome_step (budget : RetryBudget) (event : Event) (around : Surroundings)
    (shelf : Shelf) : HasOutcome around shelf event (event.step budget around shelf) := by
  cases event with
  | init config => exact HasOutcome.init budget config
  | createVolume request =>
    refine HasOutcome.withCatalogue fun catalogue hcurrent => ?_
    cases hsnapshot :
      fetch SnapshotRecord .snapshots request.snapshotId catalogue around shelf with
    | error e =>
      simp only [Operation.as, hsnapshot]
      exact HasOutcome.of_error e
    | ok found =>
      cases found with
      | none =>
        simp only [Operation.as, hsnapshot]
        exact HasOutcome.of_error _
      | some snapshot =>
        have hstored := HasOutcome.storeNew "vol" hcurrent rfl
          (.volumeStored request catalogue snapshot hcurrent hsnapshot)
        simpa only [Operation.as, hsnapshot] using hstored
  | volumeInfo id =>
    refine HasOutcome.withCatalogue fun catalogue hcurrent => ?_
    cases hvolume : fetch VolumeRecord .volumes id catalogue around shelf with
    | error e =>
      simp only [Operation.as, hvolume]
      exact HasOutcome.of_error e
    | ok volume =>
      simp only [Operation.as, hvolume]
      exact ⟨_, .informed id _, rfl⟩
  | createSnapshot request =>
    refine HasOutcome.withCatalogue fun catalogue hcurrent => ?_
    cases hvolume : fetch VolumeRecord .volumes request.volumeId catalogue around shelf with
    | error e =>
      simp only [Operation.as, hvolume]
      exact HasOutcome.of_error e
    | ok volume =>
      have hstored := HasOutcome.storeNew "snap" hcurrent rfl
        (.snapshotStored request catalogue volume hcurrent hvolume)
      simpa only [Operation.as, hvolume] using hstored
  | deleteSnapshot id =>
    refine HasOutcome.withCatalogue fun catalogue hcurrent => ?_
    cases hremove : around.fault .remove with
    | some text =>
      simp only [Operation.as, hremove]
      exact HasOutcome.of_error _
    | none =>
      simp only [Operation.as, hremove]
      refine ⟨_, .deleted id (by simp [Shelf.openDirectory?, hcurrent]), ?_⟩
      simp only [Effect.on, Shelf.alter_of_current hcurrent]
  | volumeId pv => exact HasOutcome.withCatalogue fun catalogue _ => ⟨_, .identified pv _, rfl⟩
  | setVolumeId pv id =>
    refine HasOutcome.withCatalogue fun catalogue _ => ?_
    simp only [Operation.as]
    cases withHandle pv id with
    | error e => exact HasOutcome.of_error e
    | ok answer => exact ⟨_, .labelled pv id answer, rfl⟩
  | restart => exact ⟨_, .restarted, rfl⟩

end RestorePlugins.Catalogue
