import RestorePlugins.Proofs.Catalogue.Concurrency
import RestorePlugins.Proofs.Json.RecordTexts

namespace RestorePlugins.Catalogue

/-!
# Unreadable records

A catalogue can hold any bytes.  Those that are no text of a record stand in the way of the
operations that read them, and of no others.

* `Unreadable` — bytes that are no text of a record.
* `fetch_badJson_iff` — a fetch fails on the bytes that are stored just when they are unreadable.
* `step_congr_of_reads` — answers, and what is stored anywhere, go by the record that is read and by
  what was stored there.
* `unreadable_harm` — which operations an unreadable record harms.
-/

/-- Bytes that are no text of a record: neither an object with its fields nor an array of them. -/
def Unreadable (α : Type) [Json.Record α] (bytes : Bytes) : Prop :=
  ∀ record : α, ¬ Json.SpellsRecord record bytes

theorem decode_error_iff {α : Type} [Json.Record α]
    (hdistinct : ((Json.Record.layout α).fields.map Prod.fst).Nodup) (bytes : Bytes) :
    (∃ fault, Json.decode α bytes = .error fault) ↔ Unreadable α bytes := by
  constructor
  · rintro ⟨fault, hfault⟩ record hspells
    rw [(Json.decode_eq_ok_iff hdistinct).2 hspells] at hfault
    cases hfault
  · intro hnone
    cases hanswer : Json.decode α bytes with
    | error fault => exact ⟨fault, rfl⟩
    | ok record => exact absurd ((Json.decode_eq_ok_iff hdistinct).1 hanswer) (hnone record)

theorem not_badJson_ok {α : Type} (a : α) :
    ¬ ∃ fault, (Except.ok a : Except PluginError α) = .error (.badJson fault) := by
  rintro ⟨fault, h⟩
  cases h

section

variable {budget : RetryBudget} {around : Surroundings} {shelf : Shelf} {catalogue : OpenCatalogue}
  {tree : Tree} {id : String}

/-- A fetch from a database that works is refused by the bytes that it finds, or not at all. -/
theorem fetch_badJson_iff {α : Type} [Json.Record α]
    (hdistinct : ((Json.Record.layout α).fields.map Prod.fst).Nodup)
    (hread : around.fault .read = none) :
    (∃ fault, fetch α tree id catalogue around shelf = .error (.badJson fault)) ↔
      ∃ bytes, shelf.stored? catalogue.directory tree id = some bytes ∧ Unreadable α bytes := by
  cases hstored : shelf.stored? catalogue.directory tree id with
  | none =>
    rw [fetch_of_not_stored hread hstored]
    refine iff_of_false (not_badJson_ok none) ?_
    rintro ⟨bytes, h, -⟩
    cases h
  | some bytes =>
    have hfetch : fetch α tree id catalogue around shelf =
        ((Json.decode α bytes).mapError .badJson).map some := by
      unfold Shelf.stored? at hstored
      simp only [fetch, hread, hstored]
    have hunreadable := decode_error_iff hdistinct bytes
    rw [hfetch]
    constructor
    · rintro ⟨fault, h⟩
      refine ⟨bytes, rfl, hunreadable.1 ?_⟩
      cases hdecode : Json.decode α bytes with
      | error other => exact ⟨other, rfl⟩
      | ok record =>
        rw [hdecode] at h
        cases h
    · rintro ⟨other, hother, hnone⟩
      obtain rfl : bytes = other := Option.some.inj hother
      obtain ⟨fault, hdecode⟩ := hunreadable.2 hnone
      exact ⟨fault, by rw [hdecode]; rfl⟩

/-- A new record is stored in a database that works. -/
theorem storeNew_of_works {α : Type} [Json.Record α] {word : String} {record : α}
    (hworks : ∀ call, around.fault call = none) :
    (storeNew tree word record catalogue around shelf).1 = .ok (newId word around.draw) := by
  simp only [storeNew, store, hworks]

/-! ### Operations that read -/

variable (hopen : shelf.current = some catalogue)

include hopen

theorem createVolume_badJson_iff (hworks : ∀ call, around.fault call = none)
    (request : VolumeRequest) :
    (∃ fault, (createVolume request around shelf).1 = .error (.badJson fault)) ↔
      ∃ bytes, shelf.stored? catalogue.directory .snapshots request.snapshotId = some bytes ∧
        Unreadable SnapshotRecord bytes := by
  rw [← fetch_badJson_iff (by decide) (hworks .read)]
  simp only [createVolume, withCatalogue, hopen]
  cases fetch SnapshotRecord .snapshots request.snapshotId catalogue around shelf with
  | error e => simp only [Except.error.injEq]
  | ok found =>
    cases found with
    | none =>
      refine iff_of_false ?_ (not_badJson_ok none)
      rintro ⟨fault, h⟩
      cases h
    | some snapshot =>
      simp only [storeNew_of_works hworks]
      exact iff_of_false (not_badJson_ok _) (not_badJson_ok _)

theorem volumeInfo_badJson_iff (hworks : ∀ call, around.fault call = none) (id : String) :
    (∃ fault, (volumeInfo id around shelf).1 = .error (.badJson fault)) ↔
      ∃ bytes, shelf.stored? catalogue.directory .volumes id = some bytes ∧
        Unreadable VolumeRecord bytes := by
  rw [← fetch_badJson_iff (by decide) (hworks .read)]
  simp only [volumeInfo, withCatalogue, hopen]
  cases fetch VolumeRecord .volumes id catalogue around shelf with
  | error e => simp only [Except.map, Except.error.injEq]
  | ok found => exact iff_of_false (not_badJson_ok _) (not_badJson_ok _)

theorem createSnapshot_badJson_iff (hworks : ∀ call, around.fault call = none)
    (request : SnapshotRequest) :
    (∃ fault, (createSnapshot request around shelf).1 = .error (.badJson fault)) ↔
      ∃ bytes, shelf.stored? catalogue.directory .volumes request.volumeId = some bytes ∧
        Unreadable VolumeRecord bytes := by
  rw [← fetch_badJson_iff (by decide) (hworks .read)]
  simp only [createSnapshot, withCatalogue, hopen]
  cases fetch VolumeRecord .volumes request.volumeId catalogue around shelf with
  | error e => simp only [Except.error.injEq]
  | ok found =>
    simp only [storeNew_of_works hworks]
    exact iff_of_false (not_badJson_ok _) (not_badJson_ok _)

/-- A snapshot is deleted whatever is stored for it, and is then unknown. -/
theorem deleteSnapshot_unknown (hremove : around.fault .remove = none) (id : String) :
    ∃ after, deleteSnapshot id around shelf = (.ok (), after) ∧
      ∀ (request : VolumeRequest) (now : Surroundings), request.snapshotId = id →
        now.fault .read = none →
        createVolume request now after = (.error (.snapshotNotFound id), after) := by
  have hdelete : deleteSnapshot id around shelf =
      (.ok (), shelf.modify catalogue.directory (Database.remove .snapshots id)) := by
    simp only [deleteSnapshot, withCatalogue, hopen, hremove]
  refine ⟨_, hdelete, ?_⟩
  rintro request now rfl hread
  have hdirectory : shelf.openDirectory? = some catalogue.directory := by
    rw [Shelf.openDirectory?, hopen]
    rfl
  have hdeletes : (Event.deleteSnapshot request.snapshotId).Deletes {} catalogue.directory
      request.snapshotId around shelf := deletes_deleteSnapshot hdirectory hremove
  have hgone := stored?_step_of_deletes hdeletes
  have hafter : ((Event.deleteSnapshot request.snapshotId).step {} around shelf).2 =
      shelf.modify catalogue.directory (Database.remove .snapshots request.snapshotId) :=
    congrArg Prod.snd hdelete
  rw [hafter] at hgone
  exact createVolume_of_not_stored hdirectory hread hgone

end

/-! ### What an operation depends on -/

section

variable {budget : RetryBudget} {around : Surroundings} {shelf other : Shelf}
  {catalogue : OpenCatalogue} {event : Event}

/-- Whether a path is opened goes by the open catalogue, and not by what is stored. -/
theorem switchTo_congr {path volumeType : String} (hother : other.current = shelf.current) :
    (switchTo budget path volumeType around other).1 =
      (switchTo budget path volumeType around shelf).1 := by
  have hattempts : attempts around other path = attempts around shelf path := by
    funext n
    simp only [attempts, hother]
  simp only [switchTo, hattempts]
  split
  · rfl
  · split <;> rfl

theorem init_congr {config : Dict String} (hother : other.current = shelf.current) :
    (init budget config around other).1 = (init budget config around shelf).1 := by
  simp only [init, hother]
  split
  · rfl
  · split
    · split
      · rfl
      · exact switchTo_congr hother
    · exact switchTo_congr hother

/-- An answer goes by the record that is read. -/
theorem step_congr_of_reads (hopen : shelf.current = some catalogue)
    (hother : other.current = shelf.current)
    (hreads : ∀ tree id, event.reads? = some (tree, id) →
      other.stored? catalogue.directory tree id = shelf.stored? catalogue.directory tree id) :
    (event.step budget around other).1 = (event.step budget around shelf).1 := by
  cases huse : event.isUse with
  | true => exact step_congr huse hopen (hother.trans hopen) hreads
  | false =>
    cases event with
    | init config =>
      simp only [Event.step, Operation.as]
      rw [init_congr hother]
    | restart => rfl
    | _ => cases huse

/-- What is stored in a place afterwards goes by the record that is read, and by what was stored
there. -/
theorem stored?_congr_of_reads (hopen : shelf.current = some catalogue)
    (hother : other.current = shelf.current)
    (hreads : ∀ tree id, event.reads? = some (tree, id) →
      other.stored? catalogue.directory tree id = shelf.stored? catalogue.directory tree id)
    {directory id : String} {tree : Tree}
    (h : other.stored? directory tree id = shelf.stored? directory tree id) :
    (event.step budget around other).2.stored? directory tree id =
      (event.step budget around shelf).2.stored? directory tree id := by
  cases huse : event.isUse with
  | true => exact stored?_step_congr huse hopen (hother.trans hopen) hreads h
  | false =>
    have huntouched : event.fresh? around ≠ some (tree, id) ∧ event.removes? ≠ some (tree, id) := by
      cases event with
      | init config => exact ⟨nofun, nofun⟩
      | restart => exact ⟨nofun, nofun⟩
      | _ => cases huse
    rw [stored?_step_of_untouched huntouched.1 huntouched.2,
      stored?_step_of_untouched huntouched.1 huntouched.2]
    exact h

end

/-! ### Harm -/

/-- **Harm.** In an open catalogue that works, whatever it holds: a volume cannot be made from a
snapshot, nor a volume told about or made a snapshot of, for its stored bytes just when they are no
text of a record; a snapshot is deleted whatever is stored for it, and is then unknown; and what any
operation answers, and leaves in any place, goes by the bytes that it reads and those that were in
that place. -/
theorem unreadable_harm (budget : RetryBudget) {around : Surroundings} {shelf : Shelf}
    {catalogue : OpenCatalogue} (hopen : shelf.current = some catalogue)
    (hworks : ∀ call, around.fault call = none) :
    let stored := fun tree id => shelf.stored? catalogue.directory tree id
    (∀ request, (∃ fault, (createVolume request around shelf).1 = .error (.badJson fault)) ↔
      ∃ bytes, stored .snapshots request.snapshotId = some bytes ∧
        Unreadable SnapshotRecord bytes) ∧
    (∀ id, (∃ fault, (volumeInfo id around shelf).1 = .error (.badJson fault)) ↔
      ∃ bytes, stored .volumes id = some bytes ∧ Unreadable VolumeRecord bytes) ∧
    (∀ request, (∃ fault, (createSnapshot request around shelf).1 = .error (.badJson fault)) ↔
      ∃ bytes, stored .volumes request.volumeId = some bytes ∧ Unreadable VolumeRecord bytes) ∧
    (∀ id, ∃ after, deleteSnapshot id around shelf = (.ok (), after) ∧
      ∀ (request : VolumeRequest) (now : Surroundings), request.snapshotId = id →
        now.fault .read = none →
        createVolume request now after = (.error (.snapshotNotFound id), after)) ∧
    ∀ (event : Event) (other : Shelf), other.current = shelf.current →
      (∀ tree id, event.reads? = some (tree, id) →
        other.stored? catalogue.directory tree id = stored tree id) →
      (event.step budget around other).1 = (event.step budget around shelf).1 ∧
      ∀ directory tree id,
        other.stored? directory tree id = shelf.stored? directory tree id →
        (event.step budget around other).2.stored? directory tree id =
          (event.step budget around shelf).2.stored? directory tree id := by
  intro stored
  refine ⟨fun request => createVolume_badJson_iff hopen hworks request,
    fun id => volumeInfo_badJson_iff hopen hworks id,
    fun request => createSnapshot_badJson_iff hopen hworks request,
    fun id => deleteSnapshot_unknown hopen (hworks .remove) id,
    fun event other hother hreads => ⟨step_congr_of_reads hopen hother hreads,
      fun directory tree id h => stored?_congr_of_reads hopen hother hreads h⟩⟩

/-- Bytes that are no text at all, and a record that lacks its fields, harm what reads them, until
they are deleted; a volume that is not recorded is told about all the same. -/
theorem unreadable_harm_stray_bytes :
    let works : Surroundings := ⟨fun path _ => .opened path, fun _ => none, 7, "now"⟩
    let records : Records := ⟨Dict.ofPairs [("snap-x", [0xff])], Dict.ofPairs [("vol-x", utf8 "{}")]⟩
    let shelf : Shelf := ⟨some ⟨"a", "a", "local"⟩, Dict.ofPairs [("a", ⟨records, {}⟩)]⟩
    let request : VolumeRequest := ⟨"snap-x", "ssd", "east", none⟩
    (∃ fault, (createVolume request works shelf).1 = .error (.badJson fault)) ∧
      (∃ fault, (volumeInfo "vol-x" works shelf).1 = .error (.badJson fault)) ∧
      (¬ ∃ fault, (volumeInfo "vol-y" works shelf).1 = .error (.badJson fault)) ∧
      ∃ after, deleteSnapshot "snap-x" works shelf = (.ok (), after) ∧
        createVolume request works after = (.error (.snapshotNotFound "snap-x"), after) := by
  intro works records shelf request
  have hopen : shelf.current = some ⟨"a", "a", "local"⟩ := rfl
  have hworks : ∀ call, works.fault call = none := fun _ => rfl
  obtain ⟨hvolume, hinfo, -, hdelete, -⟩ := unreadable_harm {} hopen hworks
  obtain ⟨after, hdeleted, hgone⟩ := hdelete "snap-x"
  refine ⟨(hvolume request).2 ⟨[0xff], ?_, ?_⟩, (hinfo "vol-x").2 ⟨utf8 "{}", ?_, ?_⟩, fun h => ?_,
    after, hdeleted, hgone request works rfl rfl⟩
  · decide +kernel
  · exact (decode_error_iff (by decide) _).1 ⟨_, rfl⟩
  · decide +kernel
  · exact (decode_error_iff (by decide) _).1 ⟨_, rfl⟩
  · obtain ⟨bytes, hbytes, -⟩ := (hinfo "vol-y").1 h
    have hnone : shelf.stored? "a" .volumes "vol-y" = none := by decide +kernel
    cases hnone.symm.trans hbytes

end RestorePlugins.Catalogue
