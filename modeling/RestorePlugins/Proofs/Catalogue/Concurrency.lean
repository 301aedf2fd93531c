import Mathlib.Tactic.MkIffOfInductiveProp
import RestorePlugins.Proofs.Catalogue.Inheritance
import RestorePlugins.Proofs.Catalogue.Live
import RestorePlugins.Proofs.Dictionaries

namespace RestorePlugins.Catalogue

/-!
# Requests in any order

A host executes requests one after the other, in an order that their clients do not know.  Requests
that do not touch what others read or write can be executed in any order.

* `newId_inj` — different draws give different ids.
* `Independent` — two requests stay out of each other's way.
* `stored?_step_congr` — what a request leaves in a place depends on what it reads and on what was
  there.
* `answers_of_independent`, `stored?_after_made`, `stored?_after_not_made` — each request of a run
  answers, and leaves, what it would alone.
* `requests_commute` — answers and catalogue are the same in every order, and the catalogue holds
  what was there without what was deleted, and each new record once.
-/

/-! ### New ids -/

theorem hexValue?_hexDigit : ∀ n < 16, hexValue? (hexDigit n) = some n := by decide

/-- Digits spell the bytes that they were made from. -/
theorem unhexDigits?_hexDigits (bs : Bytes) : unhexDigits? (hexDigits bs) = some bs := by
  induction bs with
  | nil => rfl
  | cons b bs ih =>
    have hsize := b.toNat_lt
    have hhigh := hexValue?_hexDigit (b.toNat / 16) (by omega)
    have hlow := hexValue?_hexDigit (b.toNat % 16) (by omega)
    have hbyte : UInt8.ofNat (b.toNat / 16 * 16 + b.toNat % 16) = b := by
      rw [Nat.div_add_mod', UInt8.ofNat_toNat]
    show unhexDigits? (hexDigit (b.toNat / 16) :: hexDigit (b.toNat % 16) :: hexDigits bs) = _
    simp only [unhexDigits?, hhigh, hlow, ih, hbyte, Option.bind_eq_bind, Option.bind_some,
      Option.pure_def]

theorem hex_inj {a b : Bytes} (h : hex a = hex b) : a = b := by
  have hread := congrArg unhexDigits? (String.ofList_injective h)
  rw [unhexDigits?_hexDigits, unhexDigits?_hexDigits] at hread
  exact Option.some.inj hread

/-- Numbers with the same low bytes are the same up to there. -/
theorem mod_eq_of_bytes {a b : Nat} (count : Nat)
    (h : ∀ i < count, a / Nat.pow 256 i % 256 = b / Nat.pow 256 i % 256) :
    a % Nat.pow 256 count = b % Nat.pow 256 count := by
  induction count with
  | zero => exact (Nat.mod_one a).trans (Nat.mod_one b).symm
  | succ count ih =>
    have hlow := ih fun i hi => h i (Nat.lt_succ_of_lt hi)
    show a % (Nat.pow 256 count * 256) = b % (Nat.pow 256 count * 256)
    rw [Nat.mod_mul, Nat.mod_mul, hlow, h count (Nat.lt_succ_self count)]

/-- **Ids.** Different draws give different ids. -/
theorem newId_inj {word : String} {a b : UInt64} (h : newId word a = newId word b) : a = b := by
  have hbytes := hex_inj ((String.append_right_inj _).1 h)
  have hmod : a.toNat % Nat.pow 256 8 = b.toNat % Nat.pow 256 8 := by
    refine mod_eq_of_bytes 8 fun i hi => ?_
    have hbyte := congrArg UInt8.toNat
      (List.map_inj_left.1 hbytes (7 - i) (List.mem_range.2 (by omega)))
    rw [UInt8.toNat_ofNat', UInt8.toNat_ofNat', show 7 - (7 - i) = i by omega] at hbyte
    exact hbyte
  rw [Nat.mod_eq_of_lt a.toNat_lt, Nat.mod_eq_of_lt b.toNat_lt] at hmod
  exact UInt64.toNat_inj.1 hmod

/-- The word that the ids of a tree begin with. -/
def Tree.word : Tree → String
  | snapshots => "snap"
  | volumes => "vol"

theorem eq_newId_of_fresh? {event : Event} {around : Surroundings} {tree : Tree} {id : String}
    (h : event.fresh? around = some (tree, id)) : id = newId tree.word around.draw := by
  unfold Event.fresh? at h
  split at h
  · cases h
    rfl
  · cases h
    rfl
  · cases h

/-! ### Single requests -/

/-- The tree and the id of the record that a request removes. -/
def Event.removes? : Event → Option (Tree × String)
  | deleteSnapshot id => some (.snapshots, id)
  | _ => none

variable {budget : RetryBudget} {around : Surroundings} {shelf other : Shelf} {event : Event}
  {catalogue : OpenCatalogue} {directory id : String} {tree : Tree}

/-- A change of a database that goes by what stands in a place leaves the same there, where the
same was before. -/
theorem stored?_modify_congr {f : Database → Database} (opened : String)
    (hf : ∀ a b : Database, a.get? tree id = b.get? tree id → (f a).get? tree id = (f b).get? tree id)
    (h : other.stored? directory tree id = shelf.stored? directory tree id) :
    (other.modify opened f).stored? directory tree id =
      (shelf.modify opened f).stored? directory tree id := by
  unfold Shelf.stored? at h ⊢
  rw [Shelf.database_modify, Shelf.database_modify]
  split
  · next hsame =>
    subst hsame
    exact hf _ _ h
  · exact h

theorem stored?_storeNew_congr {α : Type} [Json.Record α] {kept : Tree} {word : String} {record : α}
    (h : other.stored? directory tree id = shelf.stored? directory tree id) :
    (storeNew kept word record catalogue around other).2.stored? directory tree id =
      (storeNew kept word record catalogue around shelf).2.stored? directory tree id := by
  have hinsert : ∀ (key : String) (bytes : Bytes) (a b : Database), a.get? tree id = b.get? tree id →
      (a.insert kept key bytes).get? tree id = (b.insert kept key bytes).get? tree id := by
    intro key bytes a b hsame
    rw [Database.get?_insert, Database.get?_insert, hsame]
  simp only [storeNew, store]
  cases around.fault .insert with
  | some text => exact h
  | none =>
    cases around.fault .flush with
    | some text => exact stored?_modify_congr catalogue.directory (hinsert _ _) h
    | none =>
      exact stored?_modify_congr catalogue.directory (fun _ _ hsame => hsame)
        (stored?_modify_congr catalogue.directory (hinsert _ _) h)

/-- What a request leaves in a place depends on the record that it reads, and on what was in the
place. -/
theorem stored?_step_congr (huse : event.isUse = true) (hcurrent : shelf.current = some catalogue)
    (hother : other.current = some catalogue)
    (hreads : ∀ tree id, event.reads? = some (tree, id) →
      other.stored? catalogue.directory tree id = shelf.stored? catalogue.directory tree id)
    (h : other.stored? directory tree id = shelf.stored? directory tree id) :
    (event.step budget around other).2.stored? directory tree id =
      (event.step budget around shelf).2.stored? directory tree id := by
  cases event with
  | init config => cases huse
  | restart => cases huse
  | createVolume request =>
    simp only [Event.step, Operation.as, createVolume, withCatalogue, hcurrent, hother,
      fetch_congr (hreads _ _ rfl)]
    split
    · exact h
    · exact h
    · exact stored?_storeNew_congr h
  | volumeInfo asked =>
    simp only [Event.step, Operation.as, volumeInfo, withCatalogue, hcurrent, hother]
    exact h
  | createSnapshot request =>
    simp only [Event.step, Operation.as, createSnapshot, withCatalogue, hcurrent, hother,
      fetch_congr (hreads _ _ rfl)]
    split
    · exact h
    · exact stored?_storeNew_congr h
  | deleteSnapshot key =>
    simp only [Event.step, Operation.as, deleteSnapshot, withCatalogue, hcurrent, hother]
    split
    · exact h
    · refine stored?_modify_congr catalogue.directory (fun a b hsame => ?_) h
      rw [Database.get?_remove, Database.get?_remove, hsame]
  | volumeId pv =>
    simp only [Event.step, Operation.as, volumeId, withCatalogue, hcurrent, hother]
    exact h
  | setVolumeId pv asked =>
    simp only [Event.step, Operation.as, setVolumeId, withCatalogue, hcurrent, hother]
    exact h

/-- A request leaves every place as it is that it neither makes nor removes. -/
theorem stored?_step_of_untouched (hfresh : event.fresh? around ≠ some (tree, id))
    (hremoves : event.removes? ≠ some (tree, id)) :
    (event.step budget around shelf).2.stored? directory tree id =
      shelf.stored? directory tree id := by
  refine stored?_step hfresh fun htree hdeletes => hremoves ?_
  rw [hdeletes.isDelete, htree]
  rfl

/-- Whether a request deletes a snapshot does not depend on what the catalogue holds. -/
theorem deletes_congr (hcurrent : shelf.current = some catalogue)
    (hother : other.current = some catalogue) :
    event.Deletes budget directory id around other ↔ event.Deletes budget directory id around shelf := by
  have hopen : other.openDirectory? = shelf.openDirectory? := by
    rw [Shelf.openDirectory?, Shelf.openDirectory?, hcurrent, hother]
  have hanswer : event = .deleteSnapshot id →
      (event.step budget around other).1 = (event.step budget around shelf).1 := by
    rintro rfl
    refine step_congr rfl hcurrent hother fun _ _ hreads => ?_
    cases hreads
  constructor
  · rintro ⟨hevent, hdirectory, hok⟩
    exact ⟨hevent, hopen.symm.trans hdirectory, (hanswer hevent).symm.trans hok⟩
  · rintro ⟨hevent, hdirectory, hok⟩
    exact ⟨hevent, hopen.trans hdirectory, (hanswer hevent).trans hok⟩

/-! ### Independence -/

/-- One request neither makes what the other names, nor removes what it reads. -/
@[mk_iff]
structure Spares (a b : Surroundings × Event) : Prop where
  made : ∀ place, a.2.fresh? a.1 = some place →
    b.2.reads? ≠ some place ∧ b.2.removes? ≠ some place
  removed : ∀ place, a.2.removes? = some place → b.2.reads? ≠ some place

/-- Two requests have draws of their own, if both make a record, and stay out of each other's
way. -/
@[mk_iff]
structure Independent (a b : Surroundings × Event) : Prop where
  draws : (a.2.fresh? a.1).isSome → (b.2.fresh? b.1).isSome → a.1.draw ≠ b.1.draw
  spares : Spares a b
  spared : Spares b a

theorem Independent.symm {a b : Surroundings × Event} (h : Independent a b) : Independent b a :=
  ⟨fun hb ha heq => h.draws ha hb heq.symm, h.spared, h.spares⟩

/-- The request neither makes nor removes the record in a place. -/
def LeavesAlone (place : Tree × String) (request : Surroundings × Event) : Prop :=
  request.2.fresh? request.1 ≠ some place ∧ request.2.removes? ≠ some place

theorem Independent.leavesAlone_read {a b : Surroundings × Event} (h : Independent a b)
    {place : Tree × String} (hreads : b.2.reads? = some place) : LeavesAlone place a :=
  ⟨fun hmade => (h.spares.made place hmade).1 hreads,
    fun hremoved => h.spares.removed place hremoved hreads⟩

theorem Independent.leavesAlone_made {a b : Surroundings × Event} (h : Independent a b)
    {place : Tree × String} (hmade : b.2.fresh? b.1 = some place) : LeavesAlone place a := by
  refine ⟨fun hsame => ?_, (h.spared.made place hmade).2⟩
  have hid : newId place.1.word a.1.draw = newId place.1.word b.1.draw :=
    (eq_newId_of_fresh? hsame).symm.trans (eq_newId_of_fresh? hmade)
  exact h.draws (by simp [hsame]) (by simp [hmade]) (newId_inj hid)

/-! ### Runs of independent requests -/

theorem current_after_of_isUse {requests : Run} (huse : ∀ request ∈ requests, request.2.isUse = true) :
    (after budget requests shelf).current = shelf.current := by
  induction requests generalizing shelf with
  | nil => rfl
  | cons first rest ih =>
    exact (ih fun request hrequest => huse request (List.mem_cons_of_mem _ hrequest)).trans
      (current_step_of_isUse (huse first List.mem_cons_self))

theorem stored?_after_of_leavesAlone {requests : Run}
    (h : ∀ request ∈ requests, LeavesAlone (tree, id) request) :
    (after budget requests shelf).stored? directory tree id = shelf.stored? directory tree id := by
  induction requests generalizing shelf with
  | nil => rfl
  | cons first rest ih =>
    have hfirst := h first List.mem_cons_self
    exact (ih fun request hrequest => h request (List.mem_cons_of_mem _ hrequest)).trans
      (stored?_step_of_untouched hfirst.1 hfirst.2)

/-- A request finds what it reads as it would without an independent one before it. -/
theorem Independent.reads_eq {first request : Surroundings × Event} (h : Independent first request) :
    ∀ tree id, request.2.reads? = some (tree, id) →
      (first.2.step budget first.1 shelf).2.stored? directory tree id =
        shelf.stored? directory tree id := fun _ _ hreads =>
  stored?_step_of_untouched (h.leavesAlone_read hreads).1 (h.leavesAlone_read hreads).2

section

variable {requests : Run} (hcurrent : shelf.current = some catalogue)
  (huse : ∀ request ∈ requests, request.2.isUse = true)

include hcurrent huse

/-- **Answers.** Each of independent requests answers as it would alone. -/
theorem answers_of_independent (hindependent : requests.Pairwise Independent) :
    answers budget requests shelf =
      requests.map fun request => (request.2.step budget request.1 shelf).1 := by
  induction requests generalizing shelf with
  | nil => rfl
  | cons first rest ih =>
    rw [List.pairwise_cons] at hindependent
    have hstill : (first.2.step budget first.1 shelf).2.current = some catalogue :=
      (current_step_of_isUse (huse first List.mem_cons_self)).trans hcurrent
    have huseRest : ∀ request ∈ rest, request.2.isUse = true := fun request hrequest =>
      huse request (List.mem_cons_of_mem _ hrequest)
    rw [answers, ih hstill huseRest hindependent.2, List.map_cons]
    congr 1
    exact List.map_congr_left fun request hrequest => step_congr (huseRest request hrequest) hcurrent
      hstill (hindependent.1 request hrequest).reads_eq

/-- **New records.** What one of independent requests makes is there at the end as if it had been
made alone. -/
theorem stored?_after_made (hindependent : requests.Pairwise Independent)
    {request : Surroundings × Event} (hrequest : request ∈ requests)
    (hfresh : request.2.fresh? request.1 = some (tree, id)) :
    (after budget requests shelf).stored? directory tree id =
      (request.2.step budget request.1 shelf).2.stored? directory tree id := by
  induction requests generalizing shelf with
  | nil => cases hrequest
  | cons first rest ih =>
    rw [List.pairwise_cons] at hindependent
    rcases List.mem_cons.1 hrequest with rfl | hrest
    · exact stored?_after_of_leavesAlone fun later hlater =>
        (hindependent.1 later hlater).symm.leavesAlone_made hfresh
    · have hstill : (first.2.step budget first.1 shelf).2.current = some catalogue :=
        (current_step_of_isUse (huse first List.mem_cons_self)).trans hcurrent
      have hfirst := hindependent.1 request hrest
      have halone := hfirst.leavesAlone_made hfresh
      refine (ih hstill (fun later hlater => huse later (List.mem_cons_of_mem _ hlater))
        hindependent.2 hrest).trans ?_
      exact stored?_step_congr (huse request hrequest) hcurrent hstill hfirst.reads_eq
        (stored?_step_of_untouched halone.1 halone.2)

/-- The snapshots that requests delete are those that single ones of them delete alone. -/
theorem deletedIn_iff :
    DeletedIn budget directory id requests shelf ↔
      ∃ request ∈ requests, request.2.Deletes budget directory id request.1 shelf := by
  induction requests generalizing shelf with
  | nil => simp [DeletedIn]
  | cons first rest ih =>
    have hstill : (first.2.step budget first.1 shelf).2.current = some catalogue :=
      (current_step_of_isUse (huse first List.mem_cons_self)).trans hcurrent
    rw [DeletedIn, ih hstill fun later hlater => huse later (List.mem_cons_of_mem _ hlater)]
    simp only [List.mem_cons, exists_eq_or_imp, deletes_congr hcurrent hstill]

open Classical in
/-- **Old records.** A record that no request makes is there at the end as it was, unless one of
them deletes it. -/
theorem stored?_after_not_made (hnever : NeverMade tree id requests) :
    (after budget requests shelf).stored? directory tree id =
      if tree = .snapshots ∧
        ∃ request ∈ requests, request.2.Deletes budget directory id request.1 shelf
      then none else shelf.stored? directory tree id := by
  split
  · next hdeleted =>
    obtain ⟨rfl, hdeleted⟩ := hdeleted
    exact stored?_after_of_deletedIn requests hnever ((deletedIn_iff hcurrent huse).2 hdeleted)
  · next hkept =>
    exact stored?_after requests hnever fun htree hdeletedIn =>
      hkept ⟨htree, (deletedIn_iff hcurrent huse).1 hdeletedIn⟩

/-- The order of independent requests does not matter for any record. -/
theorem stored?_after_perm (hindependent : requests.Pairwise Independent) {order : Run}
    (horder : order.Perm requests) :
    (after budget order shelf).stored? directory tree id =
      (after budget requests shelf).stored? directory tree id := by
  have huseOrder : ∀ request ∈ order, request.2.isUse = true := fun request hrequest =>
    huse request (horder.mem_iff.1 hrequest)
  have hindependentOrder : order.Pairwise Independent :=
    (horder.pairwise_iff fun h => h.symm).2 hindependent
  by_cases hmade : ∃ request ∈ requests, request.2.fresh? request.1 = some (tree, id)
  · obtain ⟨request, hrequest, hfresh⟩ := hmade
    exact (stored?_after_made hcurrent huseOrder hindependentOrder (horder.mem_iff.2 hrequest)
      hfresh).trans (stored?_after_made hcurrent huse hindependent hrequest hfresh).symm
  · have hnever : NeverMade tree id requests := fun request hrequest hfresh =>
      hmade ⟨request, hrequest, hfresh⟩
    have hneverOrder : NeverMade tree id order := fun request hrequest =>
      hnever request (horder.mem_iff.1 hrequest)
    rw [stored?_after_not_made hcurrent huseOrder hneverOrder,
      stored?_after_not_made hcurrent huse hnever]
    classical exact if_congr (by simp only [horder.mem_iff]) rfl rfl

end

/-! ### What the catalogue holds -/

/-- The trees and ids of all records in the catalogue of a directory. -/
def Shelf.places (directory : String) (s : Shelf) : List (Tree × String) :=
  (s.database directory).live.snapshots.keys.map (Tree.snapshots, ·) ++
    (s.database directory).live.volumes.keys.map (Tree.volumes, ·)

theorem mem_places_iff :
    (tree, id) ∈ shelf.places directory ↔ (shelf.stored? directory tree id).isSome = true := by
  cases tree <;>
    simp [Shelf.places, Shelf.stored?, Database.get?, Records.tree, Dict.mem_keys_iff]

theorem places_nodup (directory : String) (shelf : Shelf) : (shelf.places directory).Nodup := by
  have hmap : ∀ (tree : Tree) (d : Dict Bytes), (d.keys.map (tree, ·)).Nodup := fun tree d =>
    d.keys_nodup.map fun _ _ heq => congrArg Prod.snd heq
  refine List.nodup_append.2 ⟨hmap _ _, hmap _ _, ?_⟩
  rintro _ ha _ hb rfl
  obtain ⟨_, -, rfl⟩ := List.mem_map.1 ha
  obtain ⟨_, -, hne⟩ := List.mem_map.1 hb
  cases congrArg Prod.fst hne

/-- Catalogues with the same records are equal. -/
theorem Records.ext_tree {a b : Records}
    (h : ∀ tree id, (a.tree tree).get? id = (b.tree tree).get? id) : a = b := by
  obtain ⟨snapshots, volumes⟩ := a
  obtain ⟨snapshots', volumes'⟩ := b
  obtain rfl : snapshots = snapshots' := Dict.ext_get? (h .snapshots)
  obtain rfl : volumes = volumes' := Dict.ext_get? (h .volumes)
  rfl

/-- The records that requests remove, each alone. -/
def removedBy (budget : RetryBudget) (shelf : Shelf) (requests : Run) : List (Tree × String) :=
  requests.filterMap fun request =>
    if (request.2.step budget request.1 shelf).1.isOk then request.2.removes? else none

/-- The records that requests make and store, each alone. -/
def storedBy (budget : RetryBudget) (directory : String) (shelf : Shelf) (requests : Run) :
    List (Tree × String) :=
  requests.filterMap fun request => (request.2.fresh? request.1).filter fun place =>
    ((request.2.step budget request.1 shelf).2.stored? directory place.1 place.2).isSome

theorem mem_removedBy_iff (hcurrent : shelf.current = some catalogue) {requests : Run} :
    (tree, id) ∈ removedBy budget shelf requests ↔ tree = .snapshots ∧
      ∃ request ∈ requests, request.2.Deletes budget catalogue.directory id request.1 shelf := by
  have hopen : shelf.openDirectory? = some catalogue.directory := by
    rw [Shelf.openDirectory?, hcurrent]
    rfl
  rw [removedBy, List.mem_filterMap]
  constructor
  · rintro ⟨⟨around, event⟩, hrequest, hremoves⟩
    split at hremoves
    · next hok =>
      cases event with
      | deleteSnapshot key =>
        cases hremoves
        cases hanswer : ((Event.deleteSnapshot id).step budget around shelf).1 with
        | ok reply => exact ⟨rfl, _, hrequest, deletes_of_ok hopen hanswer⟩
        | error e =>
          rw [hanswer] at hok
          cases hok
      | _ => cases hremoves
    · cases hremoves
  · rintro ⟨rfl, request, hrequest, hdeletes⟩
    refine ⟨request, hrequest, ?_⟩
    rw [hdeletes.succeeds, hdeletes.isDelete]
    rfl

theorem mem_storedBy_iff {requests : Run} :
    (tree, id) ∈ storedBy budget directory shelf requests ↔
      ∃ request ∈ requests, request.2.fresh? request.1 = some (tree, id) ∧
        ((request.2.step budget request.1 shelf).2.stored? directory tree id).isSome = true := by
  simp only [storedBy, List.mem_filterMap, Option.filter_eq_some_iff]

theorem storedBy_nodup {requests : Run} (h : requests.Pairwise Independent) :
    (storedBy budget directory shelf requests).Nodup := by
  refine List.pairwise_filterMap.2 (h.imp fun {a b} hab place ha place' hb heq => ?_)
  obtain ⟨hmadeA, -⟩ := Option.filter_eq_some_iff.1 ha
  obtain ⟨hmadeB, -⟩ := Option.filter_eq_some_iff.1 hb
  exact (hab.leavesAlone_made hmadeB).1 (heq ▸ hmadeA)

/-- **Records.** When the ids of independent requests are new, the catalogue holds afterwards what it
held before without what was removed, and what was stored, once each. -/
theorem places_after {requests : Run} (hcurrent : shelf.current = some catalogue)
    (huse : ∀ request ∈ requests, request.2.isUse = true)
    (hindependent : requests.Pairwise Independent)
    (hnew : ∀ place ∈ madeIn requests,
      shelf.stored? catalogue.directory place.1 place.2 = none) :
    ((after budget requests shelf).places catalogue.directory).Perm
      ((shelf.places catalogue.directory).filter (· ∉ removedBy budget shelf requests) ++
        storedBy budget catalogue.directory shelf requests) := by
  have hmadeIn : ∀ {place : Tree × String} {request : Surroundings × Event}, request ∈ requests →
      request.2.fresh? request.1 = some place → place ∈ madeIn requests :=
    fun hrequest hfresh => List.mem_filterMap.2 ⟨_, hrequest, hfresh⟩
  have hnodup : ((shelf.places catalogue.directory).filter (· ∉ removedBy budget shelf requests) ++
      storedBy budget catalogue.directory shelf requests).Nodup := by
    refine List.nodup_append.2
      ⟨(places_nodup _ _).filter _, storedBy_nodup hindependent, ?_⟩
    rintro ⟨tree, id⟩ hold _ hmade rfl
    obtain ⟨request, hrequest, hfresh, -⟩ := mem_storedBy_iff.1 hmade
    have hthere := mem_places_iff.1 (List.mem_filter.1 hold).1
    rw [hnew _ (hmadeIn hrequest hfresh)] at hthere
    cases hthere
  refine (List.perm_ext_iff_of_nodup (places_nodup _ _) hnodup).2 fun ⟨tree, id⟩ => ?_
  rw [mem_places_iff, List.mem_append, List.mem_filter, mem_places_iff, mem_storedBy_iff,
    decide_eq_true_iff, mem_removedBy_iff hcurrent]
  by_cases hmade : ∃ request ∈ requests, request.2.fresh? request.1 = some (tree, id)
  · obtain ⟨request, hrequest, hfresh⟩ := hmade
    have hfinal : (after budget requests shelf).stored? catalogue.directory tree id =
        (request.2.step budget request.1 shelf).2.stored? catalogue.directory tree id :=
      stored?_after_made hcurrent huse hindependent hrequest hfresh
    have hbefore : ¬ (shelf.stored? catalogue.directory tree id).isSome = true := by
      rw [hnew _ (hmadeIn hrequest hfresh)]
      exact Bool.false_ne_true
    constructor
    · intro hthere
      rw [hfinal] at hthere
      exact .inr ⟨request, hrequest, hfresh, hthere⟩
    · rintro (⟨hold, -⟩ | ⟨other, hother, hsame, hthere⟩)
      · exact absurd hold hbefore
      · rwa [stored?_after_made hcurrent huse hindependent hother hsame]
  · have hnever : NeverMade tree id requests := fun request hrequest hfresh =>
      hmade ⟨request, hrequest, hfresh⟩
    rw [stored?_after_not_made hcurrent huse hnever]
    constructor
    · intro hthere
      split at hthere
      · cases hthere
      · next hkept => exact .inl ⟨hthere, hkept⟩
    · rintro (⟨hold, hkept⟩ | ⟨request, hrequest, hfresh, -⟩)
      · rwa [if_neg hkept]
      · exact absurd ⟨request, hrequest, hfresh⟩ hmade

/-- **Commutation.** Any number of requests to an open catalogue, of which none makes what another
names and none removes what another restores from, can be executed in any order: each is answered
what it would be answered alone, and the catalogue that stays open and all databases hold the same
records.  A record whose id was answered is there as if it had been made alone.  When the new ids
were not there before, the catalogue holds what it held, without what was deleted, and each new
record once. -/
theorem requests_commute (budget : RetryBudget) {shelf : Shelf} {catalogue : OpenCatalogue}
    (hcurrent : shelf.current = some catalogue) {requests : Run}
    (huse : ∀ request ∈ requests, request.2.isUse = true)
    (hindependent : requests.Pairwise Independent) {order : Run} (horder : order.Perm requests) :
    answers budget order shelf =
      order.map (fun request => (request.2.step budget request.1 shelf).1) ∧
    (after budget order shelf).current = some catalogue ∧
    (∀ directory, ((after budget order shelf).database directory).live =
      ((after budget requests shelf).database directory).live) ∧
    (∀ request ∈ requests, ∀ tree id reply, request.2.fresh? request.1 = some (tree, id) →
      (request.2.step budget request.1 shelf).1 = .ok reply →
      (after budget order shelf).stored? catalogue.directory tree id =
          (request.2.step budget request.1 shelf).2.stored? catalogue.directory tree id ∧
        (after budget order shelf).stored? catalogue.directory tree id ≠ none) ∧
    ((∀ place ∈ madeIn requests, shelf.stored? catalogue.directory place.1 place.2 = none) →
      ((after budget order shelf).places catalogue.directory).Perm
        ((shelf.places catalogue.directory).filter (· ∉ removedBy budget shelf requests) ++
          storedBy budget catalogue.directory shelf requests)) := by
  have huseOrder : ∀ request ∈ order, request.2.isUse = true := fun request hrequest =>
    huse request (horder.mem_iff.1 hrequest)
  have hindependentOrder : order.Pairwise Independent :=
    (horder.pairwise_iff fun h => h.symm).2 hindependent
  have hlive : ∀ directory, ((after budget order shelf).database directory).live =
      ((after budget requests shelf).database directory).live := fun directory =>
    Records.ext_tree fun _ _ => stored?_after_perm hcurrent huse hindependent horder
  refine ⟨answers_of_independent hcurrent huseOrder hindependentOrder,
    (current_after_of_isUse huseOrder).trans hcurrent, hlive,
    fun request hrequest tree id reply hfresh hanswer => ?_, fun hnew => ?_⟩
  · have hmade : (after budget order shelf).stored? catalogue.directory tree id =
        (request.2.step budget request.1 shelf).2.stored? catalogue.directory tree id :=
      stored?_after_made hcurrent huseOrder hindependentOrder (horder.mem_iff.2 hrequest) hfresh
    refine ⟨hmade, ?_⟩
    rw [hmade]
    exact stored?_of_fresh hfresh (congrArg (Option.map OpenCatalogue.directory) hcurrent) hanswer
  · have hplaces : (after budget order shelf).places catalogue.directory =
        (after budget requests shelf).places catalogue.directory := by
      unfold Shelf.places
      rw [hlive]
    rw [hplaces]
    exact places_after hcurrent huse hindependent hnew

/-- Two snapshots of a volume, a deletion of an older one and a question, the other way round. -/
theorem requests_commute_reversed :
    let during (draw : UInt64) : Surroundings :=
      ⟨fun path _ => .opened path, fun _ => none, draw, "now"⟩
    let shelf : Shelf :=
      { current := some ⟨"a", "a", "local"⟩
        databases := Dict.ofPairs
          [("a", { live := { snapshots := Dict.ofPairs [("snap-old", [])] } })] }
    let requests : Run :=
      [(during 1, .createSnapshot ⟨"vol-1", "zone", ∅⟩), (during 2, .deleteSnapshot "snap-old"),
        (during 3, .volumeInfo "vol-1"), (during 4, .createSnapshot ⟨"vol-1", "zone", ∅⟩)]
    (∀ request ∈ requests, request.2.isUse = true) ∧ requests.Pairwise Independent ∧
      ((after {} requests.reverse shelf).places "a").Perm
        [(.snapshots, newId "snap" 1), (.snapshots, newId "snap" 4)] := by
  intro during shelf requests
  have hold : "snap-old" ≠ newId "snap" 1 ∧ "snap-old" ≠ newId "snap" 4 := by decide +kernel
  have hindependent : requests.Pairwise Independent := by
    simp [requests, during, independent_iff, spares_iff, Event.fresh?, Event.reads?,
      Event.removes?, hold]
  have hnew : ∀ place ∈ madeIn requests, shelf.stored? "a" place.1 place.2 = none := by
    decide +kernel
  have hplaces := (requests_commute {} (rfl : shelf.current = some ⟨"a", "a", "local"⟩)
    (by simp [requests, Event.isUse]) hindependent requests.reverse_perm).2.2.2.2 hnew
  refine ⟨by simp [requests, Event.isUse], hindependent, ?_⟩
  refine hplaces.trans ?_
  decide +kernel

end RestorePlugins.Catalogue
