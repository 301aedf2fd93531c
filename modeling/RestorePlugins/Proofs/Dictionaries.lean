import Mathlib.Data.List.Nodup
import RestorePlugins.Entries

namespace RestorePlugins

/-!
# Laws of dictionaries

A dictionary is what its look-ups say, and the order in which entries were put in is forgotten.

* `find?_eq_some_iff` — where keys differ, the look-up of a key finds just the entry with that key.
* `insert_of_find?` — putting in what a key holds already changes nothing.
* `find?_foldl_insert`, `Dict.get?_ofPairs_eq_some_iff` — of the pairs that are put in under one
  key the last one stays.
* `Dict.ext_get?` — dictionaries with the same look-ups are equal.
* `Dict.ofPairs_perm`, `Dict.ofPairs_of_perm` — pairs with different keys make one dictionary in any
  order, and so do the entries of a dictionary.
-/

variable {α : Type}

/-! ### Look-ups in lists of entries -/

namespace Entries

/-- Ascending keys differ. -/
theorem Ascending.nodup_keys {entries : List (String × α)} (h : Ascending entries) :
    (entries.map Prod.fst).Nodup := by
  refine List.pairwise_map.2 (List.Pairwise.imp ?_ h)
  intro a b hlt heq
  exact String.lt_irrefl a.1 (heq ▸ hlt)

/-- A look-up finds an entry of the list. -/
theorem mem_of_find? {key : String} {value : α} {entries : List (String × α)}
    (h : find? key entries = some value) : (key, value) ∈ entries := by
  induction entries with
  | nil => cases h
  | cons entry rest ih =>
    rw [find?] at h
    split at h
    · next hkey =>
      cases h
      exact hkey ▸ List.mem_cons_self
    · exact List.mem_cons_of_mem _ (ih h)

/-- Where keys differ, a look-up finds just the entry with the key. -/
theorem find?_eq_some_iff {key : String} {value : α} {entries : List (String × α)}
    (h : (entries.map Prod.fst).Nodup) :
    find? key entries = some value ↔ (key, value) ∈ entries := by
  refine ⟨mem_of_find?, fun hmem => ?_⟩
  induction entries with
  | nil => cases hmem
  | cons entry rest ih =>
    rw [List.map_cons, List.nodup_cons] at h
    rcases List.mem_cons.1 hmem with rfl | hrest
    · rw [find?, if_pos rfl]
    · have hne : entry.1 ≠ key := fun heq => h.1 (heq ▸ List.mem_map_of_mem hrest)
      rw [find?, if_neg hne]
      exact ih h.2 hrest

/-- Where keys differ, look-ups do not depend on the order of the entries. -/
theorem find?_perm {a b : List (String × α)} (hperm : a.Perm b) (h : (a.map Prod.fst).Nodup)
    (key : String) : find? key a = find? key b := by
  have hb : (b.map Prod.fst).Nodup := (hperm.map Prod.fst).nodup_iff.1 h
  refine Option.ext fun value => ?_
  rw [find?_eq_some_iff h, find?_eq_some_iff hb, hperm.mem_iff]

/-- Putting in what a key holds already changes nothing. -/
theorem insert_of_find? {key : String} {value : α} {entries : List (String × α)}
    (h : Ascending entries) (hfound : find? key entries = some value) :
    insert key value entries = entries := by
  induction entries with
  | nil => cases hfound
  | cons entry rest ih =>
    obtain ⟨hhead, hrest⟩ := List.pairwise_cons.1 h
    rw [find?] at hfound
    split at hfound
    · next hkey =>
      cases hfound
      subst hkey
      rw [insert, if_neg (String.lt_irrefl _), if_pos rfl]
    · next hkey =>
      have hlt : entry.1 < key := hhead (key, value) (mem_of_find? hfound)
      rw [insert, if_neg (String.lt_asymm hlt), if_neg hkey, ih hrest hfound]

theorem find?_append (key : String) (front back : List (String × α)) :
    find? key (front ++ back) = (find? key front).or (find? key back) := by
  induction front with
  | nil => rfl
  | cons entry front ih =>
    rw [List.cons_append, find?, find?, ih]
    split <;> rfl

/-- A look-up finds nothing just if no entry has the key. -/
theorem find?_eq_none_iff {key : String} {entries : List (String × α)} :
    find? key entries = none ↔ ∀ entry ∈ entries, entry.1 ≠ key := by
  induction entries with
  | nil => simp
  | cons entry rest ih =>
    rw [find?, List.forall_mem_cons, ← ih]
    by_cases hkey : entry.1 = key <;> simp [hkey]

/-- A look-up finds the first entry with the key. -/
theorem find?_eq_some_iff_append {key : String} {value : α} {entries : List (String × α)} :
    find? key entries = some value ↔
      ∃ front back, entries = front ++ (key, value) :: back ∧ ∀ entry ∈ front, entry.1 ≠ key := by
  induction entries with
  | nil => simp [find?]
  | cons entry rest ih =>
    rw [find?]
    by_cases hkey : entry.1 = key
    · rw [if_pos hkey]
      constructor
      · intro h
        obtain rfl := Option.some.inj h
        refine ⟨[], rest, ?_, fun _ hmem => absurd hmem List.not_mem_nil⟩
        rw [← hkey, List.nil_append]
      · rintro ⟨front, back, hsplit, hfront⟩
        -- The entry is the first one, so nothing without the key stands before it.
        cases front with
        | nil =>
          cases hsplit
          rfl
        | cons first front =>
          cases hsplit
          exact absurd hkey (hfront _ List.mem_cons_self)
    · rw [if_neg hkey, ih]
      constructor
      · rintro ⟨front, back, rfl, hfront⟩
        exact ⟨entry :: front, back, rfl, List.forall_mem_cons.2 ⟨hkey, hfront⟩⟩
      · rintro ⟨front, back, hsplit, hfront⟩
        cases front with
        | nil =>
          cases hsplit
          exact absurd rfl hkey
        | cons first front =>
          cases hsplit
          exact ⟨front, back, rfl, (List.forall_mem_cons.1 hfront).2⟩

/-- Of the pairs that are put in under one key the last one stays. -/
theorem find?_foldl_insert (key : String) (pairs entries : List (String × α)) :
    find? key (pairs.foldl (fun acc pair => insert pair.1 pair.2 acc) entries) =
      (find? key pairs.reverse).or (find? key entries) := by
  induction pairs generalizing entries with
  | nil => rfl
  | cons pair pairs ih =>
    rw [List.foldl_cons, ih, find?_insert, List.reverse_cons, find?_append, Option.or_assoc]
    congr 1
    rw [find?, find?_nil]
    split <;> rfl

end Entries

/-! ### Dictionaries -/

namespace Dict

/-- The entries of a dictionary are what its look-ups find. -/
theorem mem_entries_iff {d : Dict α} {key : String} {value : α} :
    (key, value) ∈ d.entries ↔ d.get? key = some value :=
  (Entries.find?_eq_some_iff d.ascending.nodup_keys).symm

/-- The keys of a dictionary are those under which a look-up finds something. -/
theorem mem_keys_iff {d : Dict α} {key : String} : key ∈ d.keys ↔ (d.get? key).isSome = true := by
  rw [Option.isSome_iff_exists, keys, List.mem_map]
  constructor
  · rintro ⟨entry, hentry, rfl⟩
    exact ⟨entry.2, mem_entries_iff.1 hentry⟩
  · rintro ⟨value, hvalue⟩
    exact ⟨(key, value), mem_entries_iff.2 hvalue, rfl⟩

theorem keys_nodup (d : Dict α) : d.keys.Nodup := d.ascending.nodup_keys

theorem keys_ascending (d : Dict α) : d.keys.Pairwise (· < ·) := by
  have h : d.entries.Pairwise fun a b => a.1 < b.1 := d.ascending
  exact List.pairwise_map.2 h

/-- **Look-ups.** Dictionaries with the same look-ups are equal. -/
theorem ext_get? {a b : Dict α} (h : ∀ key, a.get? key = b.get? key) : a = b := by
  have hmem : ∀ entry, entry ∈ a.entries ↔ entry ∈ b.entries := fun (key, value) => by
    rw [mem_entries_iff, mem_entries_iff, h]
  have hperm : a.entries.Perm b.entries :=
    (List.perm_ext_iff_of_nodup (List.Nodup.of_map _ a.keys_nodup)
      (List.Nodup.of_map _ b.keys_nodup)).2 hmem
  have hascending : ∀ d : Dict α, d.entries.Pairwise fun a b => a.1 < b.1 := fun d => d.ascending
  refine ext (hperm.eq_of_pairwise (fun x y _ _ hxy hyx => ?_) (hascending a) (hascending b))
  exact absurd (String.lt_trans hxy hyx) (String.lt_irrefl _)

theorem get?_ofPairs (key : String) (pairs : List (String × α)) :
    (ofPairs pairs).get? key = Entries.find? key pairs.reverse := by
  show Entries.find? key (pairs.foldl (fun acc pair => Entries.insert pair.1 pair.2 acc) []) = _
  rw [Entries.find?_foldl_insert, Entries.find?_nil, Option.or_none]

/-- **The last pair wins.** A dictionary of pairs holds for a key the value of its last pair. -/
theorem get?_ofPairs_eq_some_iff {key : String} {value : α} {pairs : List (String × α)} :
    (ofPairs pairs).get? key = some value ↔
      ∃ before after, pairs = before ++ (key, value) :: after ∧ ∀ pair ∈ after, pair.1 ≠ key := by
  rw [get?_ofPairs, Entries.find?_eq_some_iff_append]
  constructor
  · rintro ⟨front, back, hsplit, hfront⟩
    refine ⟨back.reverse, front.reverse, ?_, fun pair hmem => hfront pair (List.mem_reverse.1 hmem)⟩
    rw [← List.reverse_inj, hsplit]
    simp
  · rintro ⟨before, after, rfl, hafter⟩
    refine ⟨after.reverse, before.reverse, by simp, fun pair hmem => ?_⟩
    exact hafter pair (List.mem_reverse.1 hmem)

/-- A dictionary of pairs has the keys of the pairs and no other. -/
theorem mem_keys_ofPairs_iff {key : String} {pairs : List (String × α)} :
    key ∈ (ofPairs pairs).keys ↔ ∃ pair ∈ pairs, pair.1 = key := by
  rw [mem_keys_iff, get?_ofPairs, Option.isSome_iff_ne_none, ne_eq, Entries.find?_eq_none_iff]
  simp

/-- **Order.** Pairs with different keys make the same dictionary in any order. -/
theorem ofPairs_perm {pairs others : List (String × α)} (h : pairs.Perm others)
    (hdistinct : (pairs.map Prod.fst).Nodup) : ofPairs pairs = ofPairs others := by
  refine ext_get? fun key => ?_
  have hreverse : pairs.reverse.Perm others.reverse :=
    (pairs.reverse_perm.trans h).trans others.reverse_perm.symm
  rw [get?_ofPairs, get?_ofPairs]
  exact Entries.find?_perm hreverse
    ((pairs.reverse_perm.symm.map Prod.fst).nodup_iff.1 hdistinct) key

/-- The entries of a dictionary make it again in any order. -/
theorem ofPairs_of_perm {d : Dict α} {pairs : List (String × α)} (h : pairs.Perm d.entries) :
    ofPairs pairs = d := by
  rw [← ofPairs_perm h.symm d.keys_nodup]
  refine ext_get? fun key => ?_
  rw [get?_ofPairs]
  exact Entries.find?_perm d.entries.reverse_perm
    ((d.entries.reverse_perm.symm.map Prod.fst).nodup_iff.1 d.keys_nodup) key

/-- Puts pairs in one after the other. -/
def insertAll (pairs : List (String × α)) (d : Dict α) : Dict α :=
  pairs.foldl (fun d pair => d.insert pair.1 pair.2) d

theorem entries_insertAll (pairs : List (String × α)) (d : Dict α) :
    (d.insertAll pairs).entries =
      pairs.foldl (fun acc pair => Entries.insert pair.1 pair.2 acc) d.entries := by
  induction pairs generalizing d with
  | nil => rfl
  | cons pair pairs ih => exact ih (d.insert pair.1 pair.2)

/-- Pairs that are put into nothing make their dictionary. -/
theorem insertAll_empty (pairs : List (String × α)) : (∅ : Dict α).insertAll pairs = ofPairs pairs :=
  ext (entries_insertAll pairs ∅)

end Dict

end RestorePlugins
