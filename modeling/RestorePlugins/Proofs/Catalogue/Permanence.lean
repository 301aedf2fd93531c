import RestorePlugins.Proofs.Catalogue.Outcomes
import RestorePlugins.Proofs.Json.Records

namespace RestorePlugins.Catalogue

/-!
# Records are permanent and isolated

* `Shelf.stored?` — the bytes of a record, and `stored?_on` — what an effect does to them.
* `stored?_step` — a step takes a record away only if it deletes it, and changes no record but
  the one that it makes.
* `Run`, `after`, `answers`, `DeletedIn` — runs of steps, the shelf at their end, their answers and
  the deletions in them.
* `records_permanent` — after any run a volume is what it was when it was made, and a snapshot can
  be used until it is deleted.
-/

/-! ### Stored records -/

/-- The bytes under an id in the database of a directory. -/
def Shelf.stored? (directory : String) (tree : Tree) (id : String) (s : Shelf) : Option Bytes :=
  (s.database directory).get? tree id

/-- The bytes under an id after an effect. -/
def Effect.storedAfter? (shelf : Shelf) (directory : String) (tree : Tree) (id : String) :
    Effect → Option Bytes
  | stored other key bytes _ =>
    if shelf.openDirectory? = some directory ∧ other = tree ∧ key = id then some bytes
    else shelf.stored? directory tree id
  | removed key =>
    if shelf.openDirectory? = some directory ∧ .snapshots = tree ∧ key = id then none
    else shelf.stored? directory tree id
  | _ => shelf.stored? directory tree id

theorem stored?_close (directory : String) (tree : Tree) (id : String) (s : Shelf) :
    s.close.stored? directory tree id = s.stored? directory tree id := by
  unfold Shelf.stored?
  rw [Shelf.database_close]
  split <;> rfl

theorem stored?_alter (f : Database → Database) (directory : String) (tree : Tree) (id : String)
    (s : Shelf) :
    (s.alter f).stored? directory tree id =
      if s.openDirectory? = some directory then (f (s.database directory)).get? tree id
      else s.stored? directory tree id := by
  unfold Shelf.stored?
  rw [Shelf.database_alter]
  split <;> rfl

/-- An effect changes no record but its own, and that only in the open catalogue. -/
theorem stored?_on (effect : Effect) (shelf : Shelf) (directory : String) (tree : Tree)
    (id : String) :
    (effect.on shelf).stored? directory tree id =
      effect.storedAfter? shelf directory tree id := by
  cases effect with
  | kept => rfl
  | retyped volumeType => rfl
  | switched catalogue =>
    have hclose := stored?_close directory tree id shelf
    unfold Shelf.stored? at hclose
    unfold Shelf.stored?
    rw [Effect.database_switched]
    exact hclose
  | stored other key bytes flushed =>
    -- A flush changes no record, so a write that is flushed is like one that is not.
    have hone : ∀ f : Database → Database,
        (∀ d, (f d).get? tree id = if other = tree ∧ key = id then some bytes else d.get? tree id) →
        (shelf.alter f).stored? directory tree id =
          (Effect.stored other key bytes flushed).storedAfter? shelf directory tree id := by
      intro f hf
      rw [stored?_alter, hf]
      simp only [Effect.storedAfter?, Shelf.stored?]
      by_cases hopen : shelf.openDirectory? = some directory <;> simp [hopen]
    cases flushed with
    | true => exact hone _ fun d => Database.get?_insert other tree key id bytes d
    | false => exact hone _ fun d => Database.get?_insert other tree key id bytes d
  | removed key =>
    show (shelf.alter (Database.remove .snapshots key)).stored? directory tree id = _
    rw [stored?_alter, Database.get?_remove]
    simp only [Effect.storedAfter?, Shelf.stored?]
    by_cases hopen : shelf.openDirectory? = some directory <;> simp [hopen]
  | closed => exact stored?_close directory tree id shelf

/-! ### One step -/

/-- The step deletes a snapshot of the catalogue in a directory, which is the open one. -/
structure Event.Deletes (budget : RetryBudget) (directory id : String) (around : Surroundings)
    (shelf : Shelf) (event : Event) : Prop where
  isDelete : event = .deleteSnapshot id
  isOpen : shelf.openDirectory? = some directory
  succeeds : (event.step budget around shelf).1 = .ok .done

variable {budget : RetryBudget} {around : Surroundings} {shelf : Shelf} {event : Event}
  {directory id : String} {tree : Tree}

/-- Deleting a snapshot of the open catalogue succeeds unless the database fails. -/
theorem deletes_deleteSnapshot (hopen : shelf.openDirectory? = some directory)
    (hfault : around.fault .remove = none) :
    (Event.deleteSnapshot id).Deletes budget directory id around shelf := by
  refine ⟨rfl, hopen, ?_⟩
  obtain ⟨catalogue, hcurrent, -⟩ := Option.map_eq_some_iff.1 hopen
  simp only [Event.step, Operation.as, deleteSnapshot, withCatalogue, hcurrent, hfault, Except.map]

/-- A step that deletes a snapshot takes its record away. -/
theorem stored?_step_of_deletes (h : event.Deletes budget directory id around shelf) :
    (event.step budget around shelf).2.stored? directory .snapshots id = none := by
  obtain ⟨rfl, hopen, hanswer⟩ := h
  obtain ⟨effect, houtcome, hshelf⟩ := outcome_step budget (.deleteSnapshot id) around shelf
  rw [hanswer] at houtcome
  cases houtcome with
  | deleted _ _ =>
    rw [hshelf, stored?_on]
    simp [Effect.storedAfter?, hopen]

/-- A step that does not make a record and does not delete it leaves it as it is. -/
theorem stored?_step (hfresh : event.fresh? around ≠ some (tree, id))
    (hkept : tree = .snapshots → ¬ event.Deletes budget directory id around shelf) :
    (event.step budget around shelf).2.stored? directory tree id =
      shelf.stored? directory tree id := by
  obtain ⟨effect, houtcome, hshelf⟩ := outcome_step budget event around shelf
  have hother : ∀ other key bytes flushed, event.fresh? around = some (other, key) →
      (Effect.stored other key bytes flushed).storedAfter? shelf directory tree id =
        shelf.stored? directory tree id := by
    intro other key bytes flushed hmade
    have hne : ¬ (shelf.openDirectory? = some directory ∧ other = tree ∧ key = id) := by
      rintro ⟨-, rfl, rfl⟩
      exact hfresh hmade
    simp [Effect.storedAfter?, hne]
  rw [hshelf, stored?_on]
  generalize hanswer : (event.step budget around shelf).1 = answer at houtcome
  cases houtcome with
  | volumeStored => exact hother _ _ _ _ rfl
  | snapshotStored => exact hother _ _ _ _ rfl
  | unflushed _ other key bytes e hmade _ => exact hother _ _ _ _ hmade
  | deleted key hcurrent =>
    have hne : ¬ (shelf.openDirectory? = some directory ∧ .snapshots = tree ∧ key = id) := by
      rintro ⟨hopen, rfl, rfl⟩
      exact hkept rfl ⟨rfl, hopen, hanswer⟩
    simp [Effect.storedAfter?, hne]
  | failed => rfl
  | informed => rfl
  | identified => rfl
  | labelled => rfl
  | retyped => rfl
  | switched => rfl
  | restarted => rfl

/-! ### Runs -/

/-- Steps, each with its surroundings. -/
abbrev Run := List (Surroundings × Event)

/-- The shelf after a run. -/
def after (budget : RetryBudget) : Run → Shelf → Shelf
  | [], shelf => shelf
  | (around, event) :: rest, shelf => after budget rest (event.step budget around shelf).2

/-- What the steps of a run answer. -/
def answers (budget : RetryBudget) : Run → Shelf → List (Except PluginError Reply)
  | [], _ => []
  | (around, event) :: rest, shelf =>
    (event.step budget around shelf).1 :: answers budget rest (event.step budget around shelf).2

/-- No step of the run makes a record under the id. -/
def NeverMade (tree : Tree) (id : String) (run : Run) : Prop :=
  ∀ step ∈ run, step.2.fresh? step.1 ≠ some (tree, id)

/-- Some step of the run deletes the snapshot of the catalogue in a directory. -/
def DeletedIn (budget : RetryBudget) (directory id : String) : Run → Shelf → Prop
  | [], _ => False
  | (around, event) :: rest, shelf =>
    event.Deletes budget directory id around shelf ∨
      DeletedIn budget directory id rest (event.step budget around shelf).2

/-- Nothing makes a record again that is not there. -/
theorem stored?_after_of_none (run : Run) (hnever : NeverMade tree id run)
    (h : shelf.stored? directory tree id = none) :
    (after budget run shelf).stored? directory tree id = none := by
  induction run generalizing shelf with
  | nil => exact h
  | cons step rest ih =>
    obtain ⟨around, event⟩ := step
    apply ih fun step hstep => hnever step (List.mem_cons_of_mem _ hstep)
    -- A step that deletes the record leaves it absent, and any other leaves it as it is.
    by_cases hdeletes : tree = .snapshots ∧ event.Deletes budget directory id around shelf
    · obtain ⟨rfl, hdeletes⟩ := hdeletes
      exact stored?_step_of_deletes hdeletes
    · rw [stored?_step (hnever _ List.mem_cons_self) fun htree h => hdeletes ⟨htree, h⟩]
      exact h

/-- A run that does not delete a record leaves it as it is. -/
theorem stored?_after (run : Run) (hnever : NeverMade tree id run)
    (hkept : tree = .snapshots → ¬ DeletedIn budget directory id run shelf) :
    (after budget run shelf).stored? directory tree id = shelf.stored? directory tree id := by
  induction run generalizing shelf with
  | nil => rfl
  | cons step rest ih =>
    obtain ⟨around, event⟩ := step
    have hfirst := stored?_step (hnever _ List.mem_cons_self) fun htree hdeletes =>
      hkept htree (.inl hdeletes)
    have hrest := ih (fun step hstep => hnever step (List.mem_cons_of_mem _ hstep))
      fun htree hdeleted => hkept htree (.inr hdeleted)
    exact hrest.trans hfirst

/-- A snapshot that is deleted in a run is not there at its end. -/
theorem stored?_after_of_deletedIn (run : Run) (hnever : NeverMade .snapshots id run)
    (h : DeletedIn budget directory id run shelf) :
    (after budget run shelf).stored? directory .snapshots id = none := by
  induction run generalizing shelf with
  | nil => exact h.elim
  | cons step rest ih =>
    obtain ⟨around, event⟩ := step
    have hrest : NeverMade .snapshots id rest :=
      fun step hstep => hnever step (List.mem_cons_of_mem _ hstep)
    rcases h with hdeletes | hlater
    · exact stored?_after_of_none rest hrest (stored?_step_of_deletes hdeletes)
    · exact ih hrest hlater

/-! ### Answers from stored records -/

/-- A stored record is fetched. -/
theorem fetch_of_stored {α : Type} [Json.Record α]
    (hdistinct : ((Json.Record.layout α).fields.map Prod.fst).Nodup) {catalogue : OpenCatalogue}
    {record : α} (hread : around.fault .read = none)
    (h : shelf.stored? catalogue.directory tree id = some (Json.encode record)) :
    fetch α tree id catalogue around shelf = .ok (some record) := by
  unfold Shelf.stored? at h
  simp only [fetch, hread, h, Json.decode_encode hdistinct]
  rfl

/-- Nothing is fetched where nothing is stored. -/
theorem fetch_of_not_stored {α : Type} [Json.Record α] {catalogue : OpenCatalogue}
    (hread : around.fault .read = none)
    (h : shelf.stored? catalogue.directory tree id = none) :
    fetch α tree id catalogue around shelf = .ok none := by
  unfold Shelf.stored? at h
  simp only [fetch, hread, h]

/-- A stored volume is told about as it is stored. -/
theorem volumeInfo_of_stored {volume : VolumeRecord} (hopen : shelf.openDirectory? = some directory)
    (hread : around.fault .read = none)
    (h : shelf.stored? directory .volumes id = some (Json.encode volume)) :
    volumeInfo id around shelf = (.ok ⟨volume.volumeType, volume.iops⟩, shelf) := by
  obtain ⟨catalogue, hcurrent, rfl⟩ := Option.map_eq_some_iff.1 hopen
  have hfetch := fetch_of_stored (by decide) hread h
  simp only [volumeInfo, withCatalogue, hcurrent, hfetch, Except.map, infoOf]

/-- A stored snapshot can be used. -/
theorem createVolume_of_stored {snapshot : SnapshotRecord} {request : VolumeRequest}
    (hopen : shelf.openDirectory? = some directory) (hfault : ∀ call, around.fault call = none)
    (h : shelf.stored? directory .snapshots request.snapshotId = some (Json.encode snapshot)) :
    (createVolume request around shelf).1 = .ok (newId "vol" around.draw) := by
  obtain ⟨catalogue, hcurrent, rfl⟩ := Option.map_eq_some_iff.1 hopen
  have hfetch := fetch_of_stored (by decide) (hfault .read) h
  simp only [createVolume, withCatalogue, hcurrent, hfetch, storeNew, store, hfault]

/-- A snapshot that is not stored is reported. -/
theorem createVolume_of_not_stored {request : VolumeRequest}
    (hopen : shelf.openDirectory? = some directory) (hread : around.fault .read = none)
    (h : shelf.stored? directory .snapshots request.snapshotId = none) :
    createVolume request around shelf = (.error (.snapshotNotFound request.snapshotId), shelf) := by
  obtain ⟨catalogue, hcurrent, rfl⟩ := Option.map_eq_some_iff.1 hopen
  have hfetch : fetch SnapshotRecord .snapshots request.snapshotId catalogue around shelf =
      .ok none := fetch_of_not_stored hread h
  simp only [createVolume, withCatalogue, hcurrent, hfetch]

/-! ### Creation -/

/-- A volume that was made is stored as its request and its snapshot fix it. -/
theorem stored?_of_createVolume {request : VolumeRequest} {catalogue : OpenCatalogue}
    (hcurrent : shelf.current = some catalogue)
    (hanswer : (createVolume request around shelf).1 = .ok id) :
    ∃ snapshot, fetch SnapshotRecord .snapshots request.snapshotId catalogue around shelf =
        .ok (some snapshot) ∧
      (createVolume request around shelf).2.stored? catalogue.directory .volumes id =
        some (Json.encode (newVolume request snapshot)) := by
  obtain ⟨effect, houtcome, hshelf⟩ :=
    outcome_step {} (.createVolume request) around shelf
  change (createVolume request around shelf).2 = _ at hshelf
  have hreply : ((Event.createVolume request).step {} around shelf).1 = .ok (.id id) :=
    congrArg (Except.map Reply.id) hanswer
  rw [hreply] at houtcome
  cases houtcome with
  | volumeStored _ opened snapshot hopened hsnapshot =>
    obtain rfl : opened = catalogue := Option.some.inj (hopened.symm.trans hcurrent)
    refine ⟨snapshot, hsnapshot, ?_⟩
    rw [hshelf, stored?_on]
    simp [Effect.storedAfter?, Shelf.openDirectory?, hcurrent]

/-- A snapshot that was made is stored as its request and its volume fix it. -/
theorem stored?_newSnapshot {request : SnapshotRequest} {catalogue : OpenCatalogue}
    (hcurrent : shelf.current = some catalogue)
    (hanswer : (createSnapshot request around shelf).1 = .ok id) :
    ∃ volume, fetch VolumeRecord .volumes request.volumeId catalogue around shelf = .ok volume ∧
      (createSnapshot request around shelf).2.stored? catalogue.directory .snapshots id =
        some (Json.encode (newSnapshot request (infoOf catalogue volume) around.time)) := by
  obtain ⟨effect, houtcome, hshelf⟩ :=
    outcome_step {} (.createSnapshot request) around shelf
  change (createSnapshot request around shelf).2 = _ at hshelf
  have hreply : ((Event.createSnapshot request).step {} around shelf).1 = .ok (.id id) :=
    congrArg (Except.map Reply.id) hanswer
  rw [hreply] at houtcome
  cases houtcome with
  | snapshotStored _ opened volume hopened hvolume =>
    obtain rfl : opened = catalogue := Option.some.inj (hopened.symm.trans hcurrent)
    refine ⟨volume, hvolume, ?_⟩
    rw [hshelf, stored?_on]
    simp [Effect.storedAfter?, Shelf.openDirectory?, hcurrent]

/-- A snapshot that was made is stored. -/
theorem stored?_of_createSnapshot {request : SnapshotRequest} {catalogue : OpenCatalogue}
    (hcurrent : shelf.current = some catalogue)
    (hanswer : (createSnapshot request around shelf).1 = .ok id) :
    ∃ snapshot : SnapshotRecord,
      (createSnapshot request around shelf).2.stored? catalogue.directory .snapshots id =
        some (Json.encode snapshot) := by
  obtain ⟨volume, -, hstored⟩ := stored?_newSnapshot hcurrent hanswer
  exact ⟨_, hstored⟩

/-! ### Permanence -/

/-- **Permanence.** Whatever happens after a volume or a snapshot was made, as long as its id is not
given again: the catalogue that was open then tells the type and the operations a second that were
fixed then, whenever it is open and can be read; and it makes volumes from the snapshot, whenever
it is open and works, unless the snapshot was deleted while it was open. -/
theorem records_permanent (budget : RetryBudget) {around : Surroundings} {shelf : Shelf}
    {catalogue : OpenCatalogue} (hcurrent : shelf.current = some catalogue) (run : Run) :
    (∀ request volume, (createVolume request around shelf).1 = .ok volume →
      NeverMade .volumes volume run →
      ∃ snapshot, fetch SnapshotRecord .snapshots request.snapshotId catalogue around shelf =
          .ok (some snapshot) ∧
        let made := newVolume request snapshot
        let final := after budget run (createVolume request around shelf).2
        ∀ now, final.openDirectory? = some catalogue.directory → now.fault .read = none →
          volumeInfo volume now final = (.ok ⟨made.volumeType, made.iops⟩, final)) ∧
    (∀ request snapshot, (createSnapshot request around shelf).1 = .ok snapshot →
      NeverMade .snapshots snapshot run →
      let start := (createSnapshot request around shelf).2
      let final := after budget run start
      ∀ now use, use.snapshotId = snapshot →
        final.openDirectory? = some catalogue.directory → (∀ call, now.fault call = none) →
        (¬ DeletedIn budget catalogue.directory snapshot run start →
          (createVolume use now final).1 = .ok (newId "vol" now.draw)) ∧
        (DeletedIn budget catalogue.directory snapshot run start →
          createVolume use now final = (.error (.snapshotNotFound snapshot), final))) := by
  constructor
  · intro request volume hanswer hnever
    obtain ⟨snapshot, hsnapshot, hstored⟩ := stored?_of_createVolume hcurrent hanswer
    refine ⟨snapshot, hsnapshot, fun now hopen hread => ?_⟩
    apply volumeInfo_of_stored hopen hread
    rw [stored?_after run hnever (fun htree => nomatch htree)]
    exact hstored
  · intro request snapshot hanswer hnever start final now use huse hopen hfault
    obtain ⟨record, hstored⟩ := stored?_of_createSnapshot hcurrent hanswer
    subst huse
    constructor
    · intro hkept
      have hkeptBytes := stored?_after run hnever fun _ => hkept
      exact createVolume_of_stored hopen hfault (hkeptBytes.trans hstored)
    · intro hdeleted
      apply createVolume_of_not_stored hopen (hfault .read)
      exact stored?_after_of_deletedIn run hnever hdeleted

/-- A snapshot survives a deletion while another catalogue is open, and not one in its own; a volume
that was made of it survives both. -/
theorem records_permanent_moved :
    let around : Surroundings := ⟨fun path _ => .opened path, fun _ => none, 7, "now"⟩
    let shelf : Shelf := { current := some ⟨"a", "a", "local"⟩ }
    let request : SnapshotRequest := ⟨"vol-1", "zone", ∅⟩
    let use : VolumeRequest := ⟨"snap-0000000000000007", "ssd", "", some 100⟩
    let start := (createSnapshot request around shelf).2
    let moved : Run := [(around, .init (Dict.ofPairs [("path", "b")])),
      (around, .deleteSnapshot "snap-0000000000000007"),
      (around, .init (Dict.ofPairs [("path", "a")]))]
    let run : Run := moved ++ [(around, .deleteSnapshot "snap-0000000000000007")]
    let used := after {} run (createVolume use around start).2
    (createSnapshot request around shelf).1 = .ok "snap-0000000000000007" ∧
      (createVolume use around (after {} moved start)).1 = .ok "vol-0000000000000007" ∧
      createVolume use around (after {} run start) =
        (.error (.snapshotNotFound "snap-0000000000000007"), after {} run start) ∧
      volumeInfo "vol-0000000000000007" around used = (.ok ⟨"ssd", some 100⟩, used) := by
  intro around shelf request use start moved run used
  have hsnapshotId : newId "snap" 7 = "snap-0000000000000007" := by decide +kernel
  have hvolumeId : newId "vol" 7 = "vol-0000000000000007" := by decide +kernel
  have hanswer : (createSnapshot request around shelf).1 = .ok "snap-0000000000000007" := by
    rw [← hsnapshotId]
    rfl
  have hnever : NeverMade .snapshots "snap-0000000000000007" run := by
    simp [NeverMade, run, moved, Event.fresh?]
  have hneverMoved : NeverMade .snapshots "snap-0000000000000007" moved :=
    fun step hstep => hnever step (List.mem_append_left _ hstep)
  have hkept : ¬ DeletedIn {} "a" "snap-0000000000000007" moved start := by
    rintro (⟨hdelete, -, -⟩ | ⟨-, hopen, -⟩ | ⟨hdelete, -, -⟩ | hnone)
    · cases hdelete
    · revert hopen
      decide +kernel
    · cases hdelete
    · exact hnone
  have hdeleted : DeletedIn {} "a" "snap-0000000000000007" run start :=
    .inr (.inr (.inr (.inl (deletes_deleteSnapshot (by decide +kernel) rfl))))
  have hsurvives := ((records_permanent {} rfl moved).2 request _ hanswer hneverMoved around use rfl
    (by decide +kernel) (fun _ => rfl)).1 hkept
  have hgone := ((records_permanent {} rfl run).2 request _ hanswer hnever around use rfl
    (by decide +kernel) (fun _ => rfl)).2 hdeleted
  have hvolume : (createVolume use around start).1 = .ok "vol-0000000000000007" := by
    decide +kernel
  have hneverVolume : NeverMade .volumes "vol-0000000000000007" run := by
    simp [NeverMade, run, moved, Event.fresh?]
  have hcurrent : start.current = some ⟨"a", "a", "local"⟩ := by decide +kernel
  obtain ⟨snapshot, -, htold⟩ :=
    (records_permanent {} hcurrent run).1 use _ hvolume hneverVolume
  rw [hvolumeId] at hsurvives
  exact ⟨hanswer, hsurvives, hgone, htold around (by decide +kernel) rfl⟩

end RestorePlugins.Catalogue
