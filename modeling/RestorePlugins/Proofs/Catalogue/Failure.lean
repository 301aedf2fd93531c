import RestorePlugins.Proofs.Catalogue.Crash

namespace RestorePlugins.Catalogue

/-!
# A failed operation changes nothing

An operation can fail at every call of the database, at a lock that is held, at a record that
cannot be read, at its settings and at its documents.

* `OpenFault` — the errors of operations while a catalogue is open.
* `error_step` — a step fails with one of them, or because no catalogue is open.
* `succeeding` — the steps of a run that succeed.
* `failed_step` — as long as flushes succeed, a step that fails keeps the whole shelf, and a run
  goes as if its failed steps had never been made.
-/

/-! ### Errors -/

/-- The errors of operations while a catalogue is open. -/
inductive OpenFault : PluginError → Prop where
  | unknownKey (key : String) : OpenFault (.invalidConfigKey pluginName key)
  | database (what text : String) : OpenFault (.database what text)
  | locked : OpenFault .databaseLocked
  | unknownSnapshot (id : String) : OpenFault (.snapshotNotFound id)
  | unreadable (fault : Json.Error) : OpenFault (.badJson fault)
  | document (text : String) : OpenFault (.invalidDocument text)

/-- An error that a step may end with: one of those of an open catalogue, or that none is open. -/
def StepFault (shelf : Shelf) (e : PluginError) : Prop :=
  OpenFault e ∨ (e = .notInitialized pluginName ∧ shelf.current = none)

section

variable {around : Surroundings} {shelf : Shelf} {e : PluginError}

theorem OpenFault.of_fetch {α : Type} [Json.Record α] {tree : Tree} {id : String}
    {catalogue : OpenCatalogue} (h : fetch α tree id catalogue around shelf = .error e) :
    OpenFault e := by
  unfold fetch at h
  split at h
  · cases h
    exact .database _ _
  · split at h
    · cases h
    · next bytes _ =>
      cases hdecode : Json.decode α bytes with
      | ok record =>
        rw [hdecode] at h
        cases h
      | error fault =>
        rw [hdecode] at h
        cases h
        exact .unreadable _

theorem OpenFault.of_storeNew {α : Type} [Json.Record α] {tree : Tree} {word : String} {record : α}
    {catalogue : OpenCatalogue}
    (h : (storeNew tree word record catalogue around shelf).1 = .error e) : OpenFault e := by
  simp only [storeNew, store] at h
  cases hinsert : around.fault .insert with
  | some text =>
    simp only [hinsert] at h
    cases h
    exact .database _ _
  | none =>
    cases hflush : around.fault .flush with
    | some text =>
      simp only [hinsert, hflush] at h
      cases h
      exact .database _ _
    | none =>
      simp only [hinsert, hflush] at h
      cases h

/-- A path that is not opened is refused or locked. -/
theorem OpenFault.of_openFrom {α : Type} {outcome : Nat → Attempt α} (retries first : Nat)
    (h : (openFrom outcome first retries).result = .error e) : OpenFault e := by
  induction retries generalizing first with
  | zero =>
    unfold openFrom at h
    split at h
    · cases h
    · cases h
      exact .database _ _
    · cases h
      exact .locked
  | succ retries ih =>
    unfold openFrom at h
    split at h
    · cases h
    · cases h
      exact .database _ _
    · exact ih (first + 1) h

theorem OpenFault.of_treeFault? (h : treeFault? around = some e) : OpenFault e := by
  obtain ⟨tree, -, hfault⟩ := List.exists_of_findSome?_eq_some h
  obtain ⟨text, -, rfl⟩ := Option.map_eq_some_iff.1 hfault
  exact .database _ _

theorem OpenFault.of_switchTo {budget : RetryBudget} {path volumeType : String}
    (h : (switchTo budget path volumeType around shelf).1 = .error e) : OpenFault e := by
  unfold switchTo at h
  split at h
  · next hopen =>
    cases h
    exact .of_openFrom _ _ hopen
  · split at h
    · next htree =>
      cases h
      exact .of_treeFault? htree
    · cases h

theorem OpenFault.of_init {budget : RetryBudget} {config : Dict String}
    (h : (init budget config around shelf).1 = .error e) : OpenFault e := by
  unfold init at h
  split at h
  · cases h
    exact .unknownKey _
  · simp only at h
    split at h
    · split at h
      · cases h
      · exact .of_switchTo h
    · exact .of_switchTo h

theorem OpenFault.of_withHandle {pv : Json} {id : String} (h : withHandle pv id = .error e) :
    OpenFault e := by
  unfold withHandle at h
  split at h
  · cases h
    exact .document _
  · cases hedit : pv.editObject driverPath (Entries.insert handleKey (.str id)) with
    | ok edited =>
      rw [hedit] at h
      cases h
    | error fault =>
      rw [hedit] at h
      cases h
      exact .document _

/-- An operation as a reply fails as the operation does. -/
theorem Operation.of_as_error {α : Type} {operation : Operation α} {reply : α → Reply}
    (h : ((operation.as reply) around shelf).1 = .error e) :
    (operation around shelf).1 = .error e := by
  cases hanswer : (operation around shelf).1 with
  | ok a =>
    simp only [Operation.as, hanswer] at h
    cases h
  | error e' =>
    simp only [Operation.as, hanswer] at h
    cases h
    rfl

/-- An operation that needs an open catalogue fails without one, or as it does with it. -/
theorem StepFault.withCatalogue {α : Type} {body : OpenCatalogue → Operation α}
    (hbody : ∀ catalogue, (body catalogue around shelf).1 = .error e → OpenFault e)
    (h : (Catalogue.withCatalogue body around shelf).1 = .error e) : StepFault shelf e := by
  unfold Catalogue.withCatalogue at h
  split at h
  · exact .inl (hbody _ h)
  · next hcurrent =>
    cases h
    exact .inr ⟨rfl, hcurrent⟩

end

/-- **Errors.** A step fails with an error of an open catalogue, or because none is open. -/
theorem error_step {budget : RetryBudget} {event : Event} {around : Surroundings} {shelf : Shelf}
    {e : PluginError} (h : (event.step budget around shelf).1 = .error e) : StepFault shelf e := by
  cases event with
  | init config => exact .inl (.of_init (Operation.of_as_error h))
  | createVolume request =>
    refine .withCatalogue (fun catalogue hbody => ?_) (Operation.of_as_error h)
    split at hbody
    · next hfetch =>
      cases hbody
      exact .of_fetch hfetch
    · cases hbody
      exact .unknownSnapshot _
    · exact .of_storeNew hbody
  | volumeInfo id =>
    refine .withCatalogue (fun catalogue hbody => ?_) (Operation.of_as_error h)
    cases hfetch : fetch VolumeRecord .volumes id catalogue around shelf with
    | ok volume =>
      rw [hfetch] at hbody
      cases hbody
    | error fault =>
      rw [hfetch] at hbody
      cases hbody
      exact .of_fetch hfetch
  | createSnapshot request =>
    refine .withCatalogue (fun catalogue hbody => ?_) (Operation.of_as_error h)
    split at hbody
    · next hfetch =>
      cases hbody
      exact .of_fetch hfetch
    · exact .of_storeNew hbody
  | deleteSnapshot id =>
    refine .withCatalogue (fun catalogue hbody => ?_) (Operation.of_as_error h)
    split at hbody
    · cases hbody
      exact .database _ _
    · cases hbody
  | volumeId pv =>
    refine .withCatalogue (fun catalogue hbody => ?_) (Operation.of_as_error h)
    cases hbody
  | setVolumeId pv id =>
    exact .withCatalogue (fun _ hbody => .of_withHandle hbody) (Operation.of_as_error h)
  | restart => cases h

/-! ### Runs -/

/-- The steps of a run that succeed. -/
def succeeding (budget : RetryBudget) : Run → Shelf → Run
  | [], _ => []
  | (around, event) :: rest, shelf =>
    if (event.step budget around shelf).1.isOk then
      (around, event) :: succeeding budget rest (event.step budget around shelf).2
    else succeeding budget rest (event.step budget around shelf).2

variable {budget : RetryBudget} {around : Surroundings} {shelf : Shelf} {event : Event}

/-- While flushes succeed, a step that fails keeps the shelf. -/
theorem step_of_error {e : PluginError} (hflush : around.fault .flush = none)
    (h : (event.step budget around shelf).1 = .error e) :
    (event.step budget around shelf).2 = shelf := by
  obtain ⟨effect, houtcome, hshelf⟩ := outcome_step budget event around shelf
  rw [h] at houtcome
  cases houtcome with
  | failed => exact hshelf
  | unflushed _ _ _ _ _ _ hbroken => exact absurd hflush hbroken

/-- A run goes as if its failed steps had never been made. -/
theorem run_succeeding (run : Run) (hflush : FlushesSucceed run) (shelf : Shelf) :
    after budget (succeeding budget run shelf) shelf = after budget run shelf ∧
      answers budget (succeeding budget run shelf) shelf =
        (answers budget run shelf).filter Except.isOk := by
  induction run generalizing shelf with
  | nil => exact ⟨rfl, rfl⟩
  | cons step rest ih =>
    obtain ⟨around, event⟩ := step
    have hfirst : around.fault .flush = none := hflush _ List.mem_cons_self
    obtain ⟨hafter, hanswers⟩ :=
      ih (fun step hstep => hflush step (List.mem_cons_of_mem _ hstep))
        (event.step budget around shelf).2
    cases hanswer : (event.step budget around shelf).1 with
    | ok reply =>
      have hok : (Except.ok reply : Except PluginError Reply).isOk = true := rfl
      simp only [succeeding, hanswer, hok, if_true, after, answers, hafter, hanswers,
        List.filter_cons, and_self]
    | error e =>
      -- The rest of the run starts from the same shelf with the failed step and without it.
      have hkept := step_of_error hfirst hanswer
      have hno : (Except.error e : Except PluginError Reply).isOk = false := rfl
      rw [hkept] at hafter hanswers
      simp only [succeeding, hanswer, hno, Bool.false_eq_true, if_false, after, answers, hkept,
        hafter, hanswers, List.filter_cons, and_self]

/-- **Failure.** As long as flushes succeed, a step that fails does so for one of the reasons above
and keeps the shelf: the open catalogue with its path and its type of unknown volumes, and every
record of every database.  So a run with failed steps leaves the same shelf as without them, and
its other steps answer the same. -/
theorem failed_step (budget : RetryBudget) :
    (∀ (event : Event) (around : Surroundings) (shelf : Shelf) (e : PluginError),
      around.fault .flush = none → (event.step budget around shelf).1 = .error e →
      StepFault shelf e ∧ (event.step budget around shelf).2 = shelf) ∧
    ∀ (run : Run) (shelf : Shelf), FlushesSucceed run →
      after budget (succeeding budget run shelf) shelf = after budget run shelf ∧
      answers budget (succeeding budget run shelf) shelf =
        (answers budget run shelf).filter Except.isOk := by
  constructor
  · intro event around shelf e hflush h
    exact ⟨error_step h, step_of_error hflush h⟩
  · intro run shelf hflush
    exact run_succeeding run hflush shelf

/-- A move to another catalogue that fails at its second tree, between two steps that succeed. -/
theorem failed_step_second_tree :
    let works : Surroundings := ⟨fun path _ => .opened path, fun _ => none, 7, "now"⟩
    let breaks : Surroundings :=
      { works with fault := fun call => if call = .openTree .volumes then some "full" else none }
    let shelf : Shelf := { current := some ⟨"a", "a", "local"⟩ }
    let move : Event := .init (Dict.ofPairs [("path", "b"), ("volumeType", "ssd")])
    let run : Run := [(works, .createSnapshot ⟨"vol-1", "zone", ∅⟩), (breaks, move),
      (works, .volumeInfo "vol-1")]
    let e : PluginError := .database "unable to open tree volumes" "full"
    (breaks.fault .flush = none ∧ (move.step {} breaks shelf).1 = .error e ∧
        StepFault shelf e ∧ (move.step {} breaks shelf).2 = shelf) ∧
      FlushesSucceed run ∧
        after {} (succeeding {} run shelf) shelf = after {} run shelf ∧
        answers {} (succeeding {} run shelf) shelf =
          (answers {} run shelf).filter Except.isOk := by
  intro works breaks shelf move run e
  have hanswer : (move.step {} breaks shelf).1 = .error e := rfl
  have hflush : FlushesSucceed run := by simp [FlushesSucceed, run, works, breaks]
  exact ⟨⟨rfl, hanswer, (failed_step {}).1 move breaks shelf e rfl hanswer⟩, hflush,
    (failed_step {}).2 run shelf hflush⟩

end RestorePlugins.Catalogue
