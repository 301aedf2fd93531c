namespace RestorePlugins

/-!
# Entries in key order

Dictionaries, object fields and database trees are all lists of entries in ascending key order,
one entry a key.  Keys compare by code point, which is the order of their UTF-8 bytes.

* `Entries.insert`, `Entries.find?`, `Entries.erase` — the operations on a bare list.
* `find?_insert`, `find?_erase` — what each operation does to every look-up.
* `insert_comm` — insertions under different keys may change places.
* `Entries.Ascending` — the order, kept by every operation.
* `Dict α` — a list of entries with its order.
-/

/-! ### Bare lists of entries -/

namespace Entries

variable {α β : Type}

/-- Keys ascend strictly, so each key has one entry. -/
def Ascending (entries : List (String × α)) : Prop :=
  entries.Pairwise fun a b => a.1 < b.1

/-- Puts a value under a key, in place of the value that was there. -/
def insert (key : String) (value : α) : List (String × α) → List (String × α)
  | [] => [(key, value)]
  | entry :: rest =>
    if key < entry.1 then (key, value) :: entry :: rest
    else if entry.1 = key then (key, value) :: rest
    else entry :: insert key value rest

/-- The value under a key. -/
def find? (key : String) : List (String × α) → Option α
  | [] => none
  | entry :: rest => if entry.1 = key then some entry.2 else find? key rest

/-- Takes a key out. -/
def erase (key : String) (entries : List (String × α)) : List (String × α) :=
  entries.filter fun entry => decide (entry.1 ≠ key)

/-- Puts pairs in one after the other; of two with one key the later stays. -/
def ofPairs (pairs : List (String × α)) : List (String × α) :=
  pairs.foldl (fun entries pair => insert pair.1 pair.2 entries) []

@[simp] theorem find?_nil (key : String) : find? key ([] : List (String × α)) = none := rfl

/-- After an insertion the key holds the value and every other key what it held. -/
theorem find?_insert (key other : String) (value : α) (entries : List (String × α)) :
    find? other (insert key value entries) =
      if key = other then some value else find? other entries := by
  induction entries with
  | nil => simp [insert, find?]
  | cons entry rest ih =>
    unfold insert
    split
    · simp [find?]
    · split
      · next heq => by_cases h : key = other <;> simp_all [find?]
      · next hne =>
        by_cases h : entry.1 = other
        · have : key ≠ other := fun hk => hne (h.trans hk.symm)
          simp [find?, h, this]
        · simp [find?, h, ih]

@[simp] theorem find?_insert_self (key : String) (value : α) (entries : List (String × α)) :
    find? key (insert key value entries) = some value := by
  simp [find?_insert]

/-- After an erasure the key holds nothing and every other key what it held. -/
theorem find?_erase (key other : String) (entries : List (String × α)) :
    find? other (erase key entries) = if key = other then none else find? other entries := by
  induction entries with
  | nil => simp [erase]
  | cons entry rest ih =>
    simp only [erase, List.filter_cons] at ih ⊢
    by_cases h : entry.1 = key
    · by_cases hk : key = other
      · simp_all
      · have : entry.1 ≠ other := h ▸ hk
        simp_all [find?]
    · by_cases ho : entry.1 = other
      · have : key ≠ other := fun hk => h (ho.trans hk.symm)
        simp_all [find?]
      · by_cases hk : key = other <;> simp_all [find?]

/-- Of two insertions under one key the later one stays. -/
@[simp] theorem insert_insert_self (key : String) (first second : α)
    (entries : List (String × α)) :
    insert key second (insert key first entries) = insert key second entries := by
  induction entries with
  | nil => simp [insert]
  | cons entry rest ih =>
    by_cases hlt : key < entry.1
    · simp [insert, hlt]
    · by_cases heq : entry.1 = key
      · simp [insert, heq]
      · simp [insert, hlt, heq, ih]

/-- Of two different keys one comes before the other. -/
theorem lt_of_not_lt_of_ne {a b : String} (h : ¬ a < b) (hne : b ≠ a) : b < a :=
  Decidable.byContradiction fun hnot =>
    hne (String.le_antisymm (String.not_lt.1 h) (String.not_lt.1 hnot))

/-- Insertions under two keys may change places, where the first key comes first. -/
theorem insert_comm_of_lt {a b : String} (h : a < b) (x y : α) (entries : List (String × α)) :
    insert a x (insert b y entries) = insert b y (insert a x entries) := by
  have hba : ¬ b < a := String.lt_asymm h
  have hne : a ≠ b := fun heq => String.lt_irrefl b (heq ▸ h)
  induction entries with
  | nil => simp [insert, h, hba, hne]
  | cons entry rest ih =>
    by_cases hae : a < entry.1
    · -- `a` goes in front of the entry in both orders, and `b` somewhere behind `a`.
      have hea : entry.1 ≠ a := fun heq => String.lt_irrefl a (heq ▸ hae)
      by_cases hbe : b < entry.1
      · simp [insert, hae, hbe, h, hba, hne]
      · by_cases heb : entry.1 = b
        · simp [insert, heb, h, hba, hne]
        · simp [insert, hae, hbe, heb, hba, hne]
    · by_cases hea : entry.1 = a
      · subst hea
        simp [insert, hba, hne]
      · have hlt : entry.1 < a := lt_of_not_lt_of_ne hae hea
        have hlb : entry.1 < b := String.lt_trans hlt h
        have hbe : ¬ b < entry.1 := String.lt_asymm hlb
        have heb : entry.1 ≠ b := fun heq => String.lt_irrefl b (heq ▸ hlb)
        simp [insert, hae, hea, hbe, heb, ih]

/-- Insertions under different keys may change places. -/
theorem insert_comm {a b : String} (h : a ≠ b) (x y : α) (entries : List (String × α)) :
    insert a x (insert b y entries) = insert b y (insert a x entries) := by
  by_cases hlt : a < b
  · exact insert_comm_of_lt hlt x y entries
  · exact (insert_comm_of_lt (lt_of_not_lt_of_ne hlt h.symm) y x entries).symm

/-- Every entry after an insertion is the new one or was there before. -/
theorem mem_insert {key : String} {value : α} {entries : List (String × α)} {x : String × α}
    (h : x ∈ insert key value entries) : x = (key, value) ∨ x ∈ entries := by
  induction entries with
  | nil => simpa [insert] using h
  | cons entry rest ih =>
    unfold insert at h
    split at h
    · simpa using h
    · split at h
      · rcases List.mem_cons.1 h with h | h
        · exact .inl h
        · exact .inr (List.mem_cons_of_mem _ h)
      · rcases List.mem_cons.1 h with h | h
        · exact .inr (by simp [h])
        · exact (ih h).imp_right (List.mem_cons_of_mem _)

/-- Insertion keeps the order. -/
theorem ascending_insert {entries : List (String × α)} (h : Ascending entries) (key : String)
    (value : α) : Ascending (insert key value entries) := by
  induction entries with
  | nil => simp [insert, Ascending]
  | cons entry rest ih =>
    obtain ⟨hhead, hrest⟩ := List.pairwise_cons.1 h
    unfold insert
    split
    · next hlt =>
      refine List.pairwise_cons.2 ⟨fun x hx => ?_, h⟩
      rcases List.mem_cons.1 hx with rfl | hx
      · exact hlt
      · exact String.lt_trans hlt (hhead x hx)
    · split
      · next heq => exact List.pairwise_cons.2 ⟨fun x hx => heq ▸ hhead x hx, hrest⟩
      · next hnlt hne =>
        refine List.pairwise_cons.2 ⟨fun x hx => ?_, ih hrest⟩
        rcases mem_insert hx with rfl | hx
        · exact lt_of_not_lt_of_ne hnlt hne
        · exact hhead x hx

/-- Erasure keeps the order. -/
theorem ascending_erase {entries : List (String × α)} (h : Ascending entries) (key : String) :
    Ascending (erase key entries) := h.filter _

theorem ascending_foldl_insert (pairs entries : List (String × α)) (h : Ascending entries) :
    Ascending (pairs.foldl (fun acc pair => insert pair.1 pair.2 acc) entries) := by
  induction pairs generalizing entries with
  | nil => exact h
  | cons pair rest ih => exact ih _ (ascending_insert h pair.1 pair.2)

/-- Whatever the order of the pairs, their entries ascend. -/
theorem ascending_ofPairs (pairs : List (String × α)) : Ascending (ofPairs pairs) :=
  ascending_foldl_insert pairs [] List.Pairwise.nil

end Entries

/-! ### Dictionaries -/

/-- A finite map from texts, as its entries in key order. -/
structure Dict (α : Type) where
  /-- The entries. -/
  entries : List (String × α)
  /-- They ascend by key. -/
  ascending : Entries.Ascending entries

namespace Dict

variable {α : Type}

@[ext] theorem ext {a b : Dict α} (h : a.entries = b.entries) : a = b := by
  cases a; cases b; cases h; rfl

instance [DecidableEq α] : DecidableEq (Dict α) := fun a b =>
  if h : a.entries = b.entries then isTrue (ext h) else isFalse fun hab => h (hab ▸ rfl)

/-- The dictionary without entries. -/
def empty : Dict α := ⟨[], List.Pairwise.nil⟩

instance : EmptyCollection (Dict α) := ⟨empty⟩

instance : Inhabited (Dict α) := ⟨empty⟩

/-- Puts a value under a key. -/
def insert (key : String) (value : α) (d : Dict α) : Dict α :=
  ⟨Entries.insert key value d.entries, Entries.ascending_insert d.ascending key value⟩

/-- Takes a key out. -/
def erase (key : String) (d : Dict α) : Dict α :=
  ⟨Entries.erase key d.entries, Entries.ascending_erase d.ascending key⟩

/-- The value under a key. -/
def get? (key : String) (d : Dict α) : Option α := Entries.find? key d.entries

/-- Puts pairs in one after the other; of two with one key the later stays. -/
def ofPairs (pairs : List (String × α)) : Dict α :=
  ⟨Entries.ofPairs pairs, Entries.ascending_ofPairs pairs⟩

/-- The keys in order. -/
def keys (d : Dict α) : List String := d.entries.map Prod.fst

@[simp] theorem get?_empty (key : String) : (empty : Dict α).get? key = none := rfl

theorem get?_insert (key other : String) (value : α) (d : Dict α) :
    (d.insert key value).get? other = if key = other then some value else d.get? other :=
  Entries.find?_insert ..

theorem get?_erase (key other : String) (d : Dict α) :
    (d.erase key).get? other = if key = other then none else d.get? other :=
  Entries.find?_erase ..

end Dict

end RestorePlugins
