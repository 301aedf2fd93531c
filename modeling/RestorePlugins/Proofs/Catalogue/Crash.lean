import RestorePlugins.Proofs.Catalogue.Permanence
import RestorePlugins.Proofs.Dictionaries

namespace RestorePlugins.Catalogue

/-!
# What a crash takes back

A write is on disk when its database is flushed, and a crash takes back the writes that are not.
New records are flushed before they are answered; a deletion is not.

* `Shelf.durable?` — the bytes of a record on disk, which are what a crash leaves.
* `durable?_on` — an effect that flushes brings the disk up to date, any other leaves it alone.
* `PendingIn` — a run deletes a stored snapshot, and its database is not flushed afterwards.
* `stored?_crash_iff` — after a crash a catalogue holds what the operations left behind, apart from
  snapshots whose deletion is pending: those are there again.
-/

/-! ### Records on disk -/

/-- The bytes on disk under an id in the database of a directory. -/
def Shelf.durable? (directory : String) (tree : Tree) (id : String) (s : Shelf) : Option Bytes :=
  ((s.database directory).durable.tree tree).get? id

theorem get?_foldl_insert {α : Type} (f : String → α) (keys : List String) (d : Dict α)
    (key : String) :
    (keys.foldl (fun d key => d.insert key (f key)) d).get? key =
      if key ∈ keys then some (f key) else d.get? key := by
  induction keys generalizing d with
  | nil => rfl
  | cons first rest ih =>
    rw [List.foldl_cons, ih, Dict.get?_insert]
    by_cases hrest : key ∈ rest
    · simp [hrest]
    · by_cases hfirst : first = key
      · simp [hfirst]
      · have hne : key ≠ first := fun heq => hfirst heq.symm
        simp [hrest, hfirst, hne]

theorem get?_of_not_mem_keys {α : Type} {d : Dict α} {key : String} (h : key ∉ d.keys) :
    d.get? key = none :=
  Option.not_isSome_iff_eq_none.1 (mt Dict.mem_keys_iff.2 h)

/-- A crash takes every database back. -/
theorem Shelf.database_crash (directory : String) (s : Shelf) :
    s.crash.database directory = (s.database directory).crash := by
  have hget := get?_foldl_insert (fun key => (s.database key).crash) s.databases.keys s.databases
    directory
  unfold Shelf.crash
  show ((s.databases.keys.foldl (fun d key => d.insert key (s.database key).crash)
    s.databases).get? directory).getD {} = _
  rw [hget]
  by_cases hkey : directory ∈ s.databases.keys
  · simp [hkey]
  · have hnone := get?_of_not_mem_keys hkey
    have hempty : s.database directory = {} := by simp [Shelf.database, hnone]
    rw [if_neg hkey, hnone, hempty]
    rfl

/-- After a crash a database holds what is on disk. -/
theorem stored?_crash (directory : String) (tree : Tree) (id : String) (s : Shelf) :
    s.crash.stored? directory tree id = s.durable? directory tree id := by
  unfold Shelf.stored? Shelf.durable?
  rw [Shelf.database_crash]
  rfl

/-! ### Effects on disk -/

/-- Whether an effect flushes the database that was open. -/
def Effect.flushes : Effect → Bool
  | switched _ => true
  | stored _ _ _ flushed => flushed
  | closed => true
  | _ => false

theorem durable?_close (directory : String) (tree : Tree) (id : String) (s : Shelf) :
    s.close.durable? directory tree id =
      if s.openDirectory? = some directory then s.close.stored? directory tree id
      else s.durable? directory tree id := by
  unfold Shelf.durable? Shelf.stored?
  rw [Shelf.database_close]
  split <;> rfl

theorem durable?_alter (f : Database → Database) (directory : String) (tree : Tree) (id : String)
    (s : Shelf) :
    (s.alter f).durable? directory tree id =
      if s.openDirectory? = some directory then
        ((f (s.database directory)).durable.tree tree).get? id
      else s.durable? directory tree id := by
  unfold Shelf.durable?
  rw [Shelf.database_alter]
  split <;> rfl

/-- An effect that flushes brings the disk up to date, and any other leaves it alone. -/
theorem durable?_on (effect : Effect) (shelf : Shelf) (directory : String) (tree : Tree)
    (id : String) :
    (effect.on shelf).durable? directory tree id =
      if effect.flushes = true ∧ shelf.openDirectory? = some directory then
        (effect.on shelf).stored? directory tree id
      else shelf.durable? directory tree id := by
  cases effect with
  | kept => simp [Effect.flushes, Effect.on]
  | retyped volumeType => simp [Effect.flushes, Effect.on, Shelf.durable?, Shelf.database]
  | switched catalogue =>
    have hclose := durable?_close directory tree id shelf
    unfold Shelf.durable? Shelf.stored? at hclose ⊢
    rw [Effect.database_switched, hclose]
    simp [Effect.flushes]
  | stored other key bytes flushed =>
    cases flushed with
    | true =>
      show (shelf.alter _).durable? directory tree id =
        if _ then (shelf.alter _).stored? _ _ _ else _
      rw [durable?_alter, stored?_alter]
      by_cases hopen : shelf.openDirectory? = some directory
      · simp [hopen, Effect.flushes]
        rfl
      · simp [hopen]
    | false =>
      show (shelf.alter _).durable? directory tree id = _
      rw [durable?_alter]
      by_cases hopen : shelf.openDirectory? = some directory <;>
        simp [hopen, Effect.flushes, Shelf.durable?, Database.insert]
  | removed key =>
    show (shelf.alter _).durable? directory tree id = _
    rw [durable?_alter]
    by_cases hopen : shelf.openDirectory? = some directory <;>
      simp [hopen, Effect.flushes, Shelf.durable?, Database.remove]
  | closed =>
    show shelf.close.durable? directory tree id = if _ then shelf.close.stored? _ _ _ else _
    rw [durable?_close]
    simp [Effect.flushes]

/-! ### One step -/

variable {budget : RetryBudget} {around : Surroundings} {shelf : Shelf} {event : Event}
  {directory id : String} {tree : Tree}

/-- The step flushes the database in a directory, which is the open one: it answers a new record,
or it leaves the catalogue. -/
def Event.Flushes (budget : RetryBudget) (directory : String) (around : Surroundings)
    (shelf : Shelf) (event : Event) : Prop :=
  shelf.openDirectory? = some directory ∧
    ((∃ record, (event.step budget around shelf).1 = .ok record ∧ (event.fresh? around).isSome) ∨
      (event.step budget around shelf).2.openDirectory? ≠ some directory)

/-- A step flushes what its effect flushes. -/
theorem flushes_iff {effect : Effect}
    (houtcome : Outcome around shelf event (event.step budget around shelf).1 effect)
    (hshelf : (event.step budget around shelf).2 = effect.on shelf) :
    event.Flushes budget directory around shelf ↔
      effect.flushes = true ∧ shelf.openDirectory? = some directory := by
  have hafter := Effect.openDirectory?_on effect shelf
  unfold Event.Flushes
  rw [hshelf, hafter]
  generalize (event.step budget around shelf).1 = answer at houtcome
  cases houtcome with
  | switched config other hother =>
    -- The catalogue that is opened is another one than that which was open.
    simp only [Effect.flushes, true_and]
    constructor
    · exact fun h => h.1
    · intro hopen
      exact ⟨hopen, .inr fun hsame => hother (hopen.trans hsame.symm)⟩
  | volumeStored => simp [Effect.flushes, Event.fresh?]
  | snapshotStored => simp [Effect.flushes, Event.fresh?]
  | restarted => simp [Effect.flushes]
  | failed => simp [Effect.flushes]
  | unflushed => simp [Effect.flushes]
  | informed => simp [Effect.flushes, Event.fresh?]
  | identified => simp [Effect.flushes, Event.fresh?]
  | labelled => simp [Effect.flushes, Event.fresh?]
  | retyped => simp [Effect.flushes, Event.fresh?]
  | deleted => simp [Effect.flushes, Event.fresh?]

/-- A deletion flushes nothing. -/
theorem Event.Deletes.not_flushes (h : event.Deletes budget directory id around shelf)
    (other : String) : ¬ event.Flushes budget other around shelf := by
  obtain ⟨effect, houtcome, hshelf⟩ := outcome_step budget event around shelf
  obtain ⟨rfl, -, hanswer⟩ := h
  rw [flushes_iff houtcome hshelf]
  rw [hanswer] at houtcome
  cases houtcome with
  | deleted => simp [Effect.flushes]

/-! ### Pending deletions -/

/-- The disk is not up to date with a snapshot: it was deleted, and is still there on disk. -/
def Shelf.Lags (directory id : String) (s : Shelf) : Prop :=
  s.durable? directory .snapshots id ≠ s.stored? directory .snapshots id

/-- The disk is up to date, apart from snapshots that were deleted. -/
structure Shelf.Settled (directory : String) (s : Shelf) : Prop where
  volumes : ∀ id, s.durable? directory .volumes id = s.stored? directory .volumes id
  snapshots : ∀ id, s.durable? directory .snapshots id = s.stored? directory .snapshots id ∨
    s.stored? directory .snapshots id = none

/-- A step that flushes brings the disk up to date. -/
theorem durable?_step_of_flushes (h : event.Flushes budget directory around shelf) :
    (event.step budget around shelf).2.durable? directory tree id =
      (event.step budget around shelf).2.stored? directory tree id := by
  obtain ⟨effect, houtcome, hshelf⟩ := outcome_step budget event around shelf
  rw [flushes_iff houtcome hshelf] at h
  rw [hshelf, durable?_on, if_pos h]

/-- A step that does not flush leaves the disk alone. -/
theorem durable?_step_of_not_flushes (h : ¬ event.Flushes budget directory around shelf) :
    (event.step budget around shelf).2.durable? directory tree id =
      shelf.durable? directory tree id := by
  obtain ⟨effect, houtcome, hshelf⟩ := outcome_step budget event around shelf
  rw [flushes_iff houtcome hshelf] at h
  rw [hshelf, durable?_on, if_neg h]

/-- While flushes succeed, a step that neither flushes nor deletes changes no record of the
catalogue in a directory. -/
theorem stored?_step_of_not_flushes (hfault : around.fault .flush = none)
    (h : ¬ event.Flushes budget directory around shelf)
    (hkept : tree = .snapshots → ¬ event.Deletes budget directory id around shelf) :
    (event.step budget around shelf).2.stored? directory tree id =
      shelf.stored? directory tree id := by
  obtain ⟨effect, houtcome, hshelf⟩ := outcome_step budget event around shelf
  rw [flushes_iff houtcome hshelf] at h
  rw [hshelf, stored?_on]
  generalize hanswer : (event.step budget around shelf).1 = answer at houtcome
  cases houtcome with
  | volumeStored =>
    have hclosed : shelf.openDirectory? ≠ some directory := fun hopen => h ⟨rfl, hopen⟩
    simp [Effect.storedAfter?, hclosed]
  | snapshotStored =>
    have hclosed : shelf.openDirectory? ≠ some directory := fun hopen => h ⟨rfl, hopen⟩
    simp [Effect.storedAfter?, hclosed]
  | unflushed _ _ _ _ _ _ hbroken => exact absurd hfault hbroken
  | deleted key =>
    have hne : ¬ (shelf.openDirectory? = some directory ∧ .snapshots = tree ∧ key = id) := by
      rintro ⟨hopen, rfl, rfl⟩
      exact hkept rfl ⟨rfl, hopen, hanswer⟩
    simp [Effect.storedAfter?, hne]
  | failed => rfl
  | informed => rfl
  | identified => rfl
  | labelled => rfl
  | retyped => rfl
  | switched => rfl
  | restarted => rfl

/-- A step keeps the disk up to date apart from deletions, while flushes succeed. -/
theorem settled_step (budget : RetryBudget) (event : Event) (hfault : around.fault .flush = none)
    (h : shelf.Settled directory) : (event.step budget around shelf).2.Settled directory := by
  by_cases hflushes : event.Flushes budget directory around shelf
  -- A flush brings everything up to date; without one only a deletion moves ahead of the disk.
  · exact ⟨fun id => durable?_step_of_flushes hflushes,
      fun id => .inl (durable?_step_of_flushes hflushes)⟩
  · constructor
    · intro id
      have hsame : (event.step budget around shelf).2.stored? directory .volumes id =
          shelf.stored? directory .volumes id :=
        stored?_step_of_not_flushes hfault hflushes fun htree => nomatch htree
      rw [durable?_step_of_not_flushes hflushes, hsame]
      exact h.volumes id
    · intro id
      by_cases hdeletes : event.Deletes budget directory id around shelf
      · exact .inr (stored?_step_of_deletes hdeletes)
      · rw [durable?_step_of_not_flushes hflushes,
          stored?_step_of_not_flushes hfault hflushes fun _ => hdeletes]
        exact h.snapshots id

/-- After a step the disk lags behind with a snapshot, if the step flushes nothing and the disk
lagged behind before or the step deletes the snapshot. -/
theorem lags_step_iff (budget : RetryBudget) (event : Event) (id : String)
    (hfault : around.fault .flush = none) (h : shelf.Settled directory) :
    (event.step budget around shelf).2.Lags directory id ↔
      ¬ event.Flushes budget directory around shelf ∧
        (shelf.Lags directory id ∨ (event.Deletes budget directory id around shelf ∧
          shelf.stored? directory .snapshots id ≠ none)) := by
  unfold Shelf.Lags
  by_cases hflushes : event.Flushes budget directory around shelf
  · simp [hflushes, durable?_step_of_flushes hflushes]
  · rw [durable?_step_of_not_flushes hflushes]
    by_cases hdeletes : event.Deletes budget directory id around shelf
    · rw [stored?_step_of_deletes hdeletes]
      rcases h.snapshots id with hsame | hnone
      · simp [hflushes, hdeletes, hsame]
      · simp [hflushes, hnone]
    · rw [stored?_step_of_not_flushes hfault hflushes fun _ => hdeletes]
      simp [hflushes, hdeletes]

/-! ### Runs -/

/-- Some step of the run flushes the database in a directory. -/
def FlushedIn (budget : RetryBudget) (directory : String) : Run → Shelf → Prop
  | [], _ => False
  | (around, event) :: rest, shelf =>
    event.Flushes budget directory around shelf ∨
      FlushedIn budget directory rest (event.step budget around shelf).2

/-- Some step of the run deletes a stored snapshot of the catalogue in a directory, and no later
step flushes its database. -/
def PendingIn (budget : RetryBudget) (directory id : String) : Run → Shelf → Prop
  | [], _ => False
  | (around, event) :: rest, shelf =>
    (event.Deletes budget directory id around shelf ∧
        shelf.stored? directory .snapshots id ≠ none ∧
        ¬ FlushedIn budget directory rest (event.step budget around shelf).2) ∨
      PendingIn budget directory id rest (event.step budget around shelf).2

/-- No flush of the run fails. -/
def FlushesSucceed (run : Run) : Prop := ∀ step ∈ run, step.1.fault .flush = none

theorem settled_after (run : Run) (hfault : FlushesSucceed run) (h : shelf.Settled directory) :
    (after budget run shelf).Settled directory := by
  induction run generalizing shelf with
  | nil => exact h
  | cons step rest ih =>
    exact ih (fun step hstep => hfault step (List.mem_cons_of_mem _ hstep))
      (settled_step budget step.2 (hfault _ List.mem_cons_self) h)

/-- After a run the disk lags behind with a snapshot, if it did before and nothing was flushed or
if a deletion is pending. -/
theorem lags_after_iff (budget : RetryBudget) (run : Run) (id : String)
    (hfault : FlushesSucceed run) (h : shelf.Settled directory) :
    (after budget run shelf).Lags directory id ↔
      (shelf.Lags directory id ∧ ¬ FlushedIn budget directory run shelf) ∨
        PendingIn budget directory id run shelf := by
  induction run generalizing shelf with
  | nil => simp [after, FlushedIn, PendingIn]
  | cons step rest ih =>
    obtain ⟨around, event⟩ := step
    have hfirst : around.fault .flush = none := hfault _ List.mem_cons_self
    have hone := lags_step_iff budget event id hfirst h
    have hrest := ih (fun step hstep => hfault step (List.mem_cons_of_mem _ hstep))
      (settled_step budget event hfirst h)
    -- A deletion of this step is pending as long as no later step flushes, for it does not.
    have hdeletion : event.Deletes budget directory id around shelf →
        ¬ event.Flushes budget directory around shelf := fun hdeletes => hdeletes.not_flushes _
    simp only [after, FlushedIn, PendingIn] at hrest ⊢
    rw [hrest, hone]
    grind

/-- **Crashes.** While flushes succeed, a catalogue whose disk was up to date holds after a crash
the volumes and the snapshots that the operations left behind, except that a snapshot is there
again whose deletion is pending. -/
theorem stored?_crash_iff (budget : RetryBudget) (run : Run) (shelf : Shelf) (directory : String)
    (hsettled : (shelf.database directory).durable = (shelf.database directory).live)
    (hfault : FlushesSucceed run) :
    let final := after budget run shelf
    (∀ id, final.crash.stored? directory .volumes id = final.stored? directory .volumes id) ∧
      ∀ id, final.crash.stored? directory .snapshots id = final.stored? directory .snapshots id ↔
        ¬ PendingIn budget directory id run shelf := by
  intro final
  have hstart : ∀ tree id, shelf.durable? directory tree id = shelf.stored? directory tree id := by
    intro tree id
    unfold Shelf.durable? Shelf.stored?
    rw [hsettled]
    rfl
  have hbegin : shelf.Settled directory :=
    ⟨fun id => hstart .volumes id, fun id => .inl (hstart .snapshots id)⟩
  constructor
  · intro id
    rw [stored?_crash]
    exact (settled_after run hfault hbegin).volumes id
  · intro id
    have hlags := lags_after_iff budget run id hfault hbegin
    have hnot : ¬ shelf.Lags directory id := fun hlag => hlag (hstart .snapshots id)
    unfold Shelf.Lags at hlags hnot
    rw [stored?_crash]
    grind

/-- A deletion that succeeded, like all before it, is taken back by a crash. -/
theorem stored?_crash_of_deleted :
    let around : Surroundings := ⟨fun path _ => .opened path, fun _ => none, 7, "now"⟩
    let run : Run := [(around, .init (Dict.ofPairs [("path", "a")])),
      (around, .createSnapshot ⟨"vol-1", "zone", ∅⟩),
      (around, .deleteSnapshot "snap-0000000000000007")]
    let final := after {} run {}
    (∀ answer ∈ answers {} run {}, answer.isOk = true) ∧
      final.stored? "a" .snapshots "snap-0000000000000007" = none ∧
      final.crash.stored? "a" .snapshots "snap-0000000000000007" ≠ none := by
  decide +kernel

/-- A snapshot that is deleted before another one is made stays deleted. -/
theorem stored?_crash_of_flushed :
    let around : Surroundings := ⟨fun path _ => .opened path, fun _ => none, 7, "now"⟩
    let later : Surroundings := ⟨fun path _ => .opened path, fun _ => none, 8, "now"⟩
    let run : Run := [(around, .init (Dict.ofPairs [("path", "a")])),
      (around, .createSnapshot ⟨"vol-1", "zone", ∅⟩),
      (around, .deleteSnapshot "snap-0000000000000007"),
      (later, .createSnapshot ⟨"vol-1", "zone", ∅⟩)]
    let final := after {} run {}
    FlushesSucceed run ∧
      (∀ id, final.crash.stored? "a" .volumes id = final.stored? "a" .volumes id) ∧
      ∀ id, final.crash.stored? "a" .snapshots id = final.stored? "a" .snapshots id ↔
        ¬ PendingIn {} "a" id run {} := by
  intro around later run final
  have hfault : FlushesSucceed run := by simp [FlushesSucceed, run, around, later]
  exact ⟨hfault, stored?_crash_iff {} run {} "a" rfl hfault⟩

end RestorePlugins.Catalogue
