import RestorePlugins.Proofs.Catalogue.Failure
import RestorePlugins.Proofs.Files.Location

namespace RestorePlugins.Catalogue

/-!
# Which catalogue is live

The settings that a process took over decide which catalogue its operations work on.

* `Event.isUse` — the operations that need an open catalogue: all but taking over settings.
* `takenIn` — the settings that a run took over.
* `OpenedIn` — a path that a run opened, and has not left since.
* `Shelf.WorksOn` — all operations read and write the database of one catalogue.
* `live_catalogue` — after a run from the start of a process, operations work on the catalogue of
  the settings that were taken over last, and fail if there were none.
-/

variable {budget : RetryBudget} {around : Surroundings} {shelf : Shelf} {event : Event}

/-! ### Operations on an open catalogue -/

/-- The operations that need an open catalogue. -/
def Event.isUse : Event → Bool
  | init _ => false
  | restart => false
  | _ => true

/-- Without an open catalogue an operation that needs one fails. -/
theorem step_of_not_open (huse : event.isUse = true) (h : shelf.current = none) :
    (event.step budget around shelf).1 = .error (.notInitialized pluginName) := by
  cases event with
  | init config => cases huse
  | restart => cases huse
  | createVolume request =>
    simp only [Event.step, Operation.as, createVolume, withCatalogue, h, Except.map]
  | volumeInfo id => simp only [Event.step, Operation.as, volumeInfo, withCatalogue, h, Except.map]
  | createSnapshot request =>
    simp only [Event.step, Operation.as, createSnapshot, withCatalogue, h, Except.map]
  | deleteSnapshot id =>
    simp only [Event.step, Operation.as, deleteSnapshot, withCatalogue, h, Except.map]
  | volumeId pv => simp only [Event.step, Operation.as, volumeId, withCatalogue, h, Except.map]
  | setVolumeId pv id =>
    simp only [Event.step, Operation.as, setVolumeId, withCatalogue, h, Except.map]

/-- A step says that no catalogue is open only when none is. -/
theorem current_of_notInitialized {plugin : String}
    (h : (event.step budget around shelf).1 = .error (.notInitialized plugin)) :
    shelf.current = none := by
  rcases error_step h with hopen | ⟨-, hclosed⟩
  · cases hopen
  · exact hclosed

/-- The operations work on one catalogue: their answers depend on its database only, they change
no other database, new records are stored there and deleted snapshots are gone from there, and a
volume that is not recorded there has its type of unknown volumes. -/
structure Shelf.WorksOn (budget : RetryBudget) (catalogue : OpenCatalogue) (s : Shelf) : Prop where
  reads : ∀ (event : Event) (now : Surroundings) (other : Shelf), event.isUse = true →
    other.current = s.current →
    other.database catalogue.directory = s.database catalogue.directory →
    (event.step budget now other).1 = (event.step budget now s).1
  keeps : ∀ (event : Event) (now : Surroundings) (directory : String), event.isUse = true →
    directory ≠ catalogue.directory →
    (event.step budget now s).2.database directory = s.database directory
  stores : ∀ (event : Event) (now : Surroundings) (tree : Tree) (id : String) (reply : Reply),
    event.fresh? now = some (tree, id) → (event.step budget now s).1 = .ok reply →
    (event.step budget now s).2.stored? catalogue.directory tree id ≠ none
  deletes : ∀ (now : Surroundings) (id : String) (reply : Reply),
    ((Event.deleteSnapshot id).step budget now s).1 = .ok reply →
    ((Event.deleteSnapshot id).step budget now s).2.stored? catalogue.directory .snapshots id = none
  unknown : ∀ (now : Surroundings) (id : String), now.fault .read = none →
    s.stored? catalogue.directory .volumes id = none →
    volumeInfo id now s = (.ok ⟨catalogue.volumeType, none⟩, s)

/-- The tree and the id of the record that an operation reads. -/
def Event.reads? : Event → Option (Tree × String)
  | createVolume request => some (.snapshots, request.snapshotId)
  | volumeInfo id => some (.volumes, id)
  | createSnapshot request => some (.volumes, request.volumeId)
  | _ => none

theorem fetch_congr {α : Type} [Json.Record α] {tree : Tree} {id : String}
    {catalogue : OpenCatalogue} {other : Shelf}
    (h : other.stored? catalogue.directory tree id = shelf.stored? catalogue.directory tree id) :
    fetch α tree id catalogue around other = fetch α tree id catalogue around shelf := by
  unfold Shelf.stored? at h
  simp only [fetch, h]

theorem storeNew_congr {α : Type} [Json.Record α] {tree : Tree} {word : String} {record : α}
    {catalogue : OpenCatalogue} {other : Shelf} :
    (storeNew tree word record catalogue around other).1 =
      (storeNew tree word record catalogue around shelf).1 := by
  simp only [storeNew, store]
  cases around.fault .insert with
  | some text => rfl
  | none => cases around.fault .flush <;> rfl

/-- Answers depend on the open catalogue and on the record that is read there only. -/
theorem step_congr {catalogue : OpenCatalogue} {other : Shelf} (huse : event.isUse = true)
    (hcurrent : shelf.current = some catalogue) (hother : other.current = some catalogue)
    (h : ∀ tree id, event.reads? = some (tree, id) →
      other.stored? catalogue.directory tree id = shelf.stored? catalogue.directory tree id) :
    (event.step budget around other).1 = (event.step budget around shelf).1 := by
  cases event with
  | init config => cases huse
  | restart => cases huse
  | createVolume request =>
    simp only [Event.step, Operation.as, createVolume, withCatalogue, hcurrent, hother,
      fetch_congr (h _ _ rfl)]
    split
    · rfl
    · rfl
    · rw [storeNew_congr]
  | volumeInfo id =>
    simp only [Event.step, Operation.as, volumeInfo, withCatalogue, hcurrent, hother,
      fetch_congr (h _ _ rfl)]
  | createSnapshot request =>
    simp only [Event.step, Operation.as, createSnapshot, withCatalogue, hcurrent, hother,
      fetch_congr (h _ _ rfl)]
    split
    · rfl
    · rw [storeNew_congr]
  | deleteSnapshot id =>
    simp only [Event.step, Operation.as, deleteSnapshot, withCatalogue, hcurrent, hother]
    split <;> rfl
  | volumeId pv => simp only [Event.step, Operation.as, volumeId, withCatalogue, hcurrent, hother]
  | setVolumeId pv id =>
    simp only [Event.step, Operation.as, setVolumeId, withCatalogue, hcurrent, hother]

/-- An operation that needs an open catalogue only stores or removes something in it. -/
theorem exists_alter_of_isUse (budget : RetryBudget) (around : Surroundings) (shelf : Shelf)
    (huse : event.isUse = true) :
    (event.step budget around shelf).2 = shelf ∨
      ∃ f, (event.step budget around shelf).2 = shelf.alter f := by
  obtain ⟨effect, houtcome, hshelf⟩ := outcome_step budget event around shelf
  rw [hshelf]
  generalize (event.step budget around shelf).1 = answer at houtcome
  cases houtcome with
  | failed => exact .inl rfl
  | informed => exact .inl rfl
  | identified => exact .inl rfl
  | labelled => exact .inl rfl
  | volumeStored => exact .inr ⟨_, rfl⟩
  | snapshotStored => exact .inr ⟨_, rfl⟩
  | unflushed => exact .inr ⟨_, rfl⟩
  | deleted => exact .inr ⟨_, rfl⟩
  | retyped => cases huse
  | switched => cases huse
  | restarted => cases huse

theorem current_step_of_isUse (huse : event.isUse = true) :
    (event.step budget around shelf).2.current = shelf.current := by
  rcases exists_alter_of_isUse budget around shelf huse with hkept | ⟨f, halter⟩
  · rw [hkept]
  · rw [halter, Shelf.current_alter]

/-- What answers a new id has stored a record under it. -/
theorem stored?_of_fresh {tree : Tree} {id directory : String} {reply : Reply}
    (hfresh : event.fresh? around = some (tree, id))
    (hopen : shelf.openDirectory? = some directory)
    (hanswer : (event.step budget around shelf).1 = .ok reply) :
    (event.step budget around shelf).2.stored? directory tree id ≠ none := by
  obtain ⟨effect, houtcome, hshelf⟩ := outcome_step budget event around shelf
  rw [hanswer] at houtcome
  rw [hshelf, stored?_on]
  cases houtcome with
  | volumeStored =>
    cases hfresh
    simp [Effect.storedAfter?, hopen]
  | snapshotStored =>
    cases hfresh
    simp [Effect.storedAfter?, hopen]
  | informed => cases hfresh
  | identified => cases hfresh
  | labelled => cases hfresh
  | retyped => cases hfresh
  | switched => cases hfresh
  | deleted => cases hfresh
  | restarted => cases hfresh

/-- A deletion that is answered has deleted. -/
theorem deletes_of_ok {id directory : String} {reply : Reply}
    (hopen : shelf.openDirectory? = some directory)
    (hanswer : ((Event.deleteSnapshot id).step budget around shelf).1 = .ok reply) :
    (Event.deleteSnapshot id).Deletes budget directory id around shelf := by
  refine ⟨rfl, hopen, ?_⟩
  obtain ⟨effect, houtcome, -⟩ := outcome_step budget (.deleteSnapshot id) around shelf
  rw [hanswer] at houtcome ⊢
  cases houtcome
  rfl

/-- All operations work on the open catalogue. -/
theorem worksOn_of_current {catalogue : OpenCatalogue} (h : shelf.current = some catalogue) :
    shelf.WorksOn budget catalogue where
  reads event now other huse hcurrent hdatabase :=
    step_congr huse h (hcurrent.trans h) fun tree id _ => congrArg (Database.get? tree id) hdatabase
  keeps event now directory huse hne := by
    rcases exists_alter_of_isUse budget now shelf huse with hkept | ⟨f, halter⟩
    · rw [hkept]
    · have hclosed : shelf.openDirectory? ≠ some directory := by
        rw [Shelf.openDirectory?, h]
        exact fun hsame => hne (Option.some.inj hsame).symm
      rw [halter, Shelf.database_alter, if_neg hclosed]
  stores event now tree id reply hfresh hanswer :=
    stored?_of_fresh hfresh (congrArg (Option.map OpenCatalogue.directory) h) hanswer
  deletes now id reply hanswer := stored?_step_of_deletes
    (deletes_of_ok (congrArg (Option.map OpenCatalogue.directory) h) hanswer)
  unknown now id hread hnone := by
    have hfetch : fetch VolumeRecord .volumes id catalogue now shelf = .ok none :=
      fetch_of_not_stored hread hnone
    simp only [volumeInfo, withCatalogue, h, hfetch, Except.map, infoOf]

/-! ### Settings -/

/-- Settings that know a key other than the two are refused, with such a key. -/
theorem init_unknownKey {config : Dict String}
    (h : ∃ key ∈ config.keys, key ≠ pathKey ∧ key ≠ volumeTypeKey) :
    ∃ key ∈ config.keys, (key ≠ pathKey ∧ key ≠ volumeTypeKey) ∧
      init budget config around shelf = (.error (.invalidConfigKey pluginName key), shelf) := by
  obtain ⟨key, hmember, hunknown⟩ := h
  cases hfound : unknownKey? config with
  | none =>
    have hknown := List.find?_eq_none.1 hfound key hmember
    exact absurd (by simpa using hunknown) hknown
  | some other =>
    refine ⟨other, List.mem_of_find?_eq_some hfound, ?_, ?_⟩
    · simpa using List.find?_some hfound
    · simp only [init, hfound]

theorem unknownKey?_eq_none {config : Dict String}
    (h : ∀ key ∈ config.keys, key = pathKey ∨ key = volumeTypeKey) :
    unknownKey? config = none := by
  refine List.find?_eq_none.2 fun key hmember hunknown => ?_
  obtain ⟨hpath, htype⟩ := of_decide_eq_true hunknown
  exact (h key hmember).elim hpath htype

/-- Known settings with the path that is open only change the type of unknown volumes, whatever
opening that path again would do. -/
theorem init_of_samePath {config : Dict String} {catalogue : OpenCatalogue}
    (hknown : unknownKey? config = none) (hcurrent : shelf.current = some catalogue)
    (hsame : Files.samePath catalogue.path (pathOf config) = true) :
    init budget config around shelf =
      (.ok (), { shelf with
        current := some { catalogue with volumeType := volumeTypeOf config } }) := by
  have hpath : Files.samePath catalogue.path ((config.get? pathKey).getD defaultPath) = true :=
    hsame
  simp only [init, hknown, hcurrent, hpath, if_true]
  rfl

/-- Known settings with another path, or with none open before, open their path. -/
theorem init_of_not_samePath {config : Dict String} (hknown : unknownKey? config = none)
    (hother : ∀ catalogue, shelf.current = some catalogue →
      ¬ Files.samePath catalogue.path (pathOf config) = true) :
    init budget config around shelf =
      switchTo budget (pathOf config) (volumeTypeOf config) around shelf := by
  cases hcurrent : shelf.current with
  | none =>
    simp only [init, hknown, hcurrent]
    rfl
  | some catalogue =>
    have hpath : ¬ Files.samePath catalogue.path ((config.get? pathKey).getD defaultPath) = true :=
      hother catalogue hcurrent
    simp only [init, hknown, hcurrent, hpath]
    rfl

/-- Opening a path in this step leads to a directory, and the settings are taken over. -/
structure Event.Opens (budget : RetryBudget) (path directory : String) (around : Surroundings)
    (shelf : Shelf) (event : Event) : Prop where
  asks : ∃ config, event = .init config ∧ pathOf config = path
  leads : (openWithin budget (attempts around shelf path)).result = .ok directory
  succeeds : (event.step budget around shelf).1 = .ok .done

/-- A switch that succeeds has opened the path. -/
theorem current_of_switchTo {path volumeType : String}
    (h : (switchTo budget path volumeType around shelf).1 = .ok ()) :
    ∃ directory, (openWithin budget (attempts around shelf path)).result = .ok directory ∧
      (switchTo budget path volumeType around shelf).2.current =
        some ⟨path, directory, volumeType⟩ := by
  unfold switchTo at h ⊢
  cases hopened : (openWithin budget (attempts around shelf path)).result with
  | error e =>
    simp only [hopened] at h
    cases h
  | ok directory =>
    cases htree : treeFault? around with
    | some e =>
      simp only [hopened, htree] at h
      cases h
    | none => exact ⟨directory, rfl, rfl⟩

/-- Settings that are taken over stay with the open catalogue if it has their path, and otherwise
open their path. -/
theorem current_of_init {config : Dict String} (h : (init budget config around shelf).1 = .ok ()) :
    ∃ catalogue, (init budget config around shelf).2.current = some catalogue ∧
      catalogue.volumeType = volumeTypeOf config ∧
      ((∃ before, shelf.current = some before ∧ before.path = catalogue.path ∧
          before.directory = catalogue.directory ∧
          Files.samePath catalogue.path (pathOf config) = true) ∨
        (catalogue.path = pathOf config ∧
          (Event.init config).Opens budget catalogue.path catalogue.directory around shelf)) := by
  have hstep : ((Event.init config).step budget around shelf).1 = .ok .done := by
    simp only [Event.step, Operation.as, h, Except.map]
  cases hknown : unknownKey? config with
  | some key =>
    simp only [init, hknown] at h
    cases h
  | none =>
    by_cases hopen : ∃ before, shelf.current = some before ∧
        Files.samePath before.path (pathOf config) = true
    · obtain ⟨before, hcurrent, hsame⟩ := hopen
      rw [init_of_samePath hknown hcurrent hsame]
      exact ⟨_, rfl, rfl, .inl ⟨before, hcurrent, rfl, rfl, hsame⟩⟩
    · have hmoves : init budget config around shelf =
          switchTo budget (pathOf config) (volumeTypeOf config) around shelf :=
        init_of_not_samePath hknown fun before hcurrent hsame => hopen ⟨before, hcurrent, hsame⟩
      rw [hmoves] at h ⊢
      obtain ⟨directory, hopened, hcurrent⟩ := current_of_switchTo h
      exact ⟨_, hcurrent, rfl, .inr ⟨rfl, ⟨config, rfl, rfl⟩, hopened, hstep⟩⟩

/-! ### Runs -/

/-- The settings that a step takes over. -/
def Event.taken? (budget : RetryBudget) (around : Surroundings) (shelf : Shelf) :
    Event → Option (Dict String)
  | init config => if (Catalogue.init budget config around shelf).1.isOk then some config else none
  | _ => none

/-- The settings that the steps of a run take over. -/
def takenIn (budget : RetryBudget) : Run → Shelf → List (Dict String)
  | [], _ => []
  | (around, event) :: rest, shelf =>
    (event.taken? budget around shelf).toList ++
      takenIn budget rest (event.step budget around shelf).2

/-- A step of the run opens a path, which leads to a directory, and all settings that are taken
over later have that path. -/
def OpenedIn (budget : RetryBudget) (path directory : String) : Run → Shelf → Prop
  | [], _ => False
  | (around, event) :: rest, shelf =>
    (event.Opens budget path directory around shelf ∧
        ∀ config ∈ takenIn budget rest (event.step budget around shelf).2,
          Files.samePath path (pathOf config) = true) ∨
      OpenedIn budget path directory rest (event.step budget around shelf).2

/-- No step of the run is a restart. -/
def WithinProcess (run : Run) : Prop := ∀ step ∈ run, step.2 ≠ .restart

/-- A step that takes nothing over, and is no restart, keeps the catalogue that is open. -/
theorem current_step_of_not_taken (hrestart : event ≠ .restart)
    (h : event.taken? budget around shelf = none) :
    (event.step budget around shelf).2.current = shelf.current := by
  cases event with
  | restart => exact absurd rfl hrestart
  | init config =>
    obtain ⟨effect, houtcome, hshelf⟩ := outcome_step budget (.init config) around shelf
    have hfailed : ∃ e, ((Event.init config).step budget around shelf).1 = .error e := by
      cases hanswer : (init budget config around shelf).1 with
      | ok _ =>
        simp [Event.taken?, hanswer, Except.isOk, Except.toBool] at h
      | error e => exact ⟨e, by simp only [Event.step, Operation.as, hanswer, Except.map]⟩
    obtain ⟨e, hfailed⟩ := hfailed
    rw [hfailed] at houtcome
    cases houtcome with
    | failed => rw [hshelf, Effect.on]
    | unflushed _ _ _ _ _ hfresh => cases hfresh
  | createVolume => exact current_step_of_isUse rfl
  | volumeInfo => exact current_step_of_isUse rfl
  | createSnapshot => exact current_step_of_isUse rfl
  | deleteSnapshot => exact current_step_of_isUse rfl
  | volumeId => exact current_step_of_isUse rfl
  | setVolumeId => exact current_step_of_isUse rfl

/-- Settings that a step takes over are those of a success. -/
theorem init_of_taken {config : Dict String} (h : event.taken? budget around shelf = some config) :
    event = .init config ∧ (init budget config around shelf).1 = .ok () := by
  cases event with
  | init asked =>
    simp only [Event.taken?] at h
    split at h
    · next hok =>
      cases h
      refine ⟨rfl, ?_⟩
      cases hanswer : (init budget config around shelf).1 with
      | ok _ => rfl
      | error e =>
        rw [hanswer] at hok
        cases hok
    · cases h
  | _ => cases h

/-- The catalogue that is open after a run has the path and the type of the settings. -/
structure OpenCatalogue.Follows (config : Dict String) (catalogue : OpenCatalogue) : Prop where
  path : Files.samePath catalogue.path (pathOf config) = true
  volumeType : catalogue.volumeType = volumeTypeOf config

/-- A catalogue was open before the run, and all settings that the run takes over have its path. -/
def HeldIn (budget : RetryBudget) (path directory : String) (run : Run) (shelf : Shelf) : Prop :=
  (∃ before, shelf.current = some before ∧ before.path = path ∧ before.directory = directory) ∧
    ∀ config ∈ takenIn budget run shelf, Files.samePath path (pathOf config) = true

/-- What a step installs was opened by it, or was open before it; and so for the whole run, if all
settings that are taken over later have the path that is installed. -/
theorem opened_or_held {asked : Dict String} {installed : OpenCatalogue} {rest : Run}
    (htaken : (Event.init asked).taken? budget around shelf = some asked)
    (hhow : (∃ before, shelf.current = some before ∧ before.path = installed.path ∧
        before.directory = installed.directory ∧
        Files.samePath installed.path (pathOf asked) = true) ∨
      (installed.path = pathOf asked ∧
        (Event.init asked).Opens budget installed.path installed.directory around shelf))
    (hlater : ∀ config ∈ takenIn budget rest ((Event.init asked).step budget around shelf).2,
      Files.samePath installed.path (pathOf config) = true) :
    OpenedIn budget installed.path installed.directory ((around, .init asked) :: rest) shelf ∨
      HeldIn budget installed.path installed.directory ((around, .init asked) :: rest) shelf := by
  rcases hhow with ⟨before, hbefore, hpath, hdirectory, hsame⟩ | ⟨-, hopens⟩
  · refine .inr ⟨⟨before, hbefore, hpath, hdirectory⟩, ?_⟩
    intro config hconfig
    rw [takenIn, htaken] at hconfig
    rcases List.mem_cons.1 hconfig with rfl | hrest
    · exact hsame
    · exact hlater config hrest
  · exact .inl (.inl ⟨hopens, hlater⟩)

/-- Within a process, settings alone decide which catalogue is open. -/
theorem current_after (budget : RetryBudget) (run : Run) (shelf : Shelf)
    (hprocess : WithinProcess run) :
    (takenIn budget run shelf = [] → (after budget run shelf).current = shelf.current) ∧
      ∀ config, (takenIn budget run shelf).getLast? = some config →
        ∃ catalogue, (after budget run shelf).current = some catalogue ∧
          catalogue.Follows config ∧
          (OpenedIn budget catalogue.path catalogue.directory run shelf ∨
            HeldIn budget catalogue.path catalogue.directory run shelf) := by
  induction run generalizing shelf with
  | nil => exact ⟨fun _ => rfl, fun _ hlast => nomatch hlast⟩
  | cons step rest ih =>
    obtain ⟨around, event⟩ := step
    have hrestart : event ≠ .restart := hprocess _ List.mem_cons_self
    obtain ⟨hnone, hsome⟩ := ih (event.step budget around shelf).2
      fun step hstep => hprocess step (List.mem_cons_of_mem _ hstep)
    cases htaken : event.taken? budget around shelf with
    | none =>
      have hsame := current_step_of_not_taken hrestart htaken
      have hall : takenIn budget ((around, event) :: rest) shelf =
          takenIn budget rest (event.step budget around shelf).2 := by
        simp only [takenIn, htaken, Option.toList_none, List.nil_append]
      rw [hall]
      refine ⟨fun hempty => (hnone hempty).trans hsame, fun config hlast => ?_⟩
      obtain ⟨catalogue, hcurrent, hfollows, hopened | ⟨hheld, hpaths⟩⟩ := hsome config hlast
      · exact ⟨catalogue, hcurrent, hfollows, .inl (.inr hopened)⟩
      · rw [hsame] at hheld
        exact ⟨catalogue, hcurrent, hfollows, .inr ⟨hheld, by rwa [hall]⟩⟩
    | some asked =>
      obtain ⟨rfl, hok⟩ := init_of_taken htaken
      obtain ⟨installed, hinstalled, htype, hhow⟩ := current_of_init hok
      have hall : takenIn budget ((around, .init asked) :: rest) shelf =
          asked :: takenIn budget rest ((Event.init asked).step budget around shelf).2 := by
        simp only [takenIn, htaken, Option.toList_some, List.singleton_append]
      -- What the step installs was opened by it, or was open before it.
      have hpath : Files.samePath installed.path (pathOf asked) = true := by
        rcases hhow with ⟨_, -, -, -, hsame⟩ | ⟨hsame, -⟩
        · exact hsame
        · exact Files.samePath_iff.2 (congrArg Files.Location.ofPath hsame)
      rw [hall]
      refine ⟨(nomatch ·), fun config hlast => ?_⟩
      cases hrest :
        (takenIn budget rest ((Event.init asked).step budget around shelf).2).getLast? with
      | none =>
        have hempty := List.getLast?_eq_none_iff.1 hrest
        rw [List.getLast?_cons, hrest] at hlast
        obtain rfl : asked = config := Option.some.inj hlast
        refine ⟨installed, (hnone hempty).trans hinstalled, ⟨hpath, htype⟩, ?_⟩
        exact opened_or_held htaken hhow (by simp [hempty])
      | some last =>
        rw [List.getLast?_cons, hrest] at hlast
        obtain rfl : last = config := Option.some.inj hlast
        obtain ⟨catalogue, hcurrent, hfollows, hopened | ⟨hheld, hpaths⟩⟩ := hsome last hrest
        · exact ⟨catalogue, hcurrent, hfollows, .inl (.inr hopened)⟩
        · -- What the later settings found open is what this step has installed.
          obtain ⟨before, hbefore, hsamePath, hsameDirectory⟩ := hheld
          obtain rfl : installed = before := Option.some.inj (hinstalled.symm.trans hbefore)
          refine ⟨catalogue, hcurrent, hfollows, ?_⟩
          rw [← hsamePath] at hpaths
          rw [← hsamePath, ← hsameDirectory]
          exact opened_or_held htaken hhow hpaths

/-- **The live catalogue.** After any run from the start of a process:

* as long as no settings were taken over, every operation that needs a catalogue says that there is
  none, and afterwards none of them does;
* once settings were taken over, the open catalogue has the path and the type of unknown volumes of
  the last of them, all operations work on the database to which that path led when it was opened,
  and settings with the same path only change the type, even where nothing can be opened;
* settings with an unknown key are refused with such a key.

Two paths are the same when they lead to one location, component by component: slashes can be
repeated and dots put in between them, and a path may end in a slash. -/
theorem live_catalogue (budget : RetryBudget) (run : Run) {shelf : Shelf}
    (hstart : shelf.current = none) (hprocess : WithinProcess run) :
    let taken := takenIn budget run shelf
    let final := after budget run shelf
    (∀ (event : Event) (now : Surroundings), event.isUse = true →
      (taken = [] → (event.step budget now final).1 = .error (.notInitialized pluginName)) ∧
      ∀ plugin, (event.step budget now final).1 = .error (.notInitialized plugin) → taken = []) ∧
    (∀ config, taken.getLast? = some config → ∃ catalogue, final.current = some catalogue ∧
      catalogue.Follows config ∧ OpenedIn budget catalogue.path catalogue.directory run shelf ∧
      final.WorksOn budget catalogue ∧
      ∀ (again : Dict String) (now : Surroundings),
        (∀ key ∈ again.keys, key = pathKey ∨ key = volumeTypeKey) →
        Files.samePath catalogue.path (pathOf again) = true →
        init budget again now final =
          (.ok (), { final with
            current := some { catalogue with volumeType := volumeTypeOf again } })) ∧
    (∀ (config : Dict String) (now : Surroundings),
      (∃ key ∈ config.keys, key ≠ pathKey ∧ key ≠ volumeTypeKey) →
      ∃ key ∈ config.keys, (key ≠ pathKey ∧ key ≠ volumeTypeKey) ∧
        init budget config now final = (.error (.invalidConfigKey pluginName key), final)) ∧
    (∀ a b, Files.samePath a b = true ↔ Files.Location.ofPath a = Files.Location.ofPath b) ∧
    (∀ front back, Files.samePath (front ++ "//" ++ back) (front ++ "/" ++ back) = true ∧
      Files.samePath (front ++ "/./" ++ back) (front ++ "/" ++ back) = true) ∧
    ∀ path, path ≠ "" → Files.samePath (path ++ "/") path = true := by
  intro taken final
  obtain ⟨hnone, hsome⟩ := current_after budget run shelf hprocess
  have hlive : ∀ config, taken.getLast? = some config → ∃ catalogue,
      final.current = some catalogue ∧ catalogue.Follows config ∧
        OpenedIn budget catalogue.path catalogue.directory run shelf := by
    intro config hlast
    obtain ⟨catalogue, hcurrent, hfollows, hopened | ⟨⟨before, hbefore, -⟩, -⟩⟩ :=
      hsome config hlast
    · exact ⟨catalogue, hcurrent, hfollows, hopened⟩
    · rw [hstart] at hbefore
      cases hbefore
  refine ⟨fun event now huse => ⟨fun hempty => ?_, fun plugin hanswer => ?_⟩,
    fun config hlast => ?_, fun config now hunknown => init_unknownKey hunknown,
    fun a b => Files.samePath_iff, fun front back => ⟨Files.samePath_repeated_slash front back,
      Files.samePath_inner_dot front back⟩,
    fun path hpath => Files.samePath_trailing_slash hpath⟩
  · exact step_of_not_open huse ((hnone hempty).trans hstart)
  · -- Nothing is open, so nothing was taken over: the last settings would have left a catalogue.
    have hclosed : final.current = none := current_of_notInitialized hanswer
    cases hlast : taken.getLast? with
    | none => exact List.getLast?_eq_none_iff.1 hlast
    | some config =>
      obtain ⟨catalogue, hcurrent, -⟩ := hlive config hlast
      rw [hclosed] at hcurrent
      cases hcurrent
  · obtain ⟨catalogue, hcurrent, hfollows, hopened⟩ := hlive config hlast
    exact ⟨catalogue, hcurrent, hfollows, hopened, worksOn_of_current hcurrent,
      fun again now hknown hsame =>
        init_of_samePath (unknownKey?_eq_none hknown) hcurrent hsame⟩

/-- Settings that fail change nothing, a second path is switched to when it can be opened, and the
same path spelt with a slash behind it brings back the type that volumes have without a setting. -/
theorem live_catalogue_respelt :
    let works : Surroundings := ⟨fun path _ => .opened path, fun _ => none, 7, "now"⟩
    let breaks : Surroundings := { works with attempt := fun _ _ => .failed "no directory" }
    let run : Run := [(works, .init (Dict.ofPairs [("path", "a"), ("volumeType", "ssd")])),
      (breaks, .init (Dict.ofPairs [("path", "b")])),
      (works, .init (Dict.ofPairs [("path", "b"), ("volumeType", "disk")])),
      (breaks, .init (Dict.ofPairs [("path", "b/")]))]
    let final := after {} run {}
    ({} : Shelf).current = none ∧ WithinProcess run ∧ final.openDirectory? = some "b" ∧
      volumeInfo "vol-x" works final = (.ok ⟨"local", none⟩, final) := by
  intro works breaks run final
  have hprocess : WithinProcess run := by simp [WithinProcess, run]
  have hlast : (takenIn {} run {}).getLast? = some (Dict.ofPairs [("path", "b/")]) := by
    decide +kernel
  obtain ⟨catalogue, hcurrent, hfollows, -, hworks, -⟩ :=
    (live_catalogue {} run rfl hprocess).2.1 _ hlast
  have hopen : final.openDirectory? = some "b" := by decide +kernel
  have hdirectory := hopen
  rw [Shelf.openDirectory?, hcurrent] at hdirectory
  have hnone : final.stored? catalogue.directory .volumes "vol-x" = none := by
    rw [Option.some.inj hdirectory]
    decide +kernel
  have htold := hworks.unknown works "vol-x" rfl hnone
  have htype : catalogue.volumeType = "local" := hfollows.volumeType.trans (by decide +kernel)
  rw [htype] at htold
  exact ⟨rfl, hprocess, hopen, htold⟩

end RestorePlugins.Catalogue
