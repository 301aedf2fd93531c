import RestorePlugins.Json.Record
import RestorePlugins.Proofs.Json.Accepted

namespace RestorePlugins.Json

/-!
# What arrays and objects hold

The text of an array holds the texts of its items, and that of an object holds members, each a key
and the text of a value.  Blanks stand before each of them, and commas between them.

* `Separates` — what stands before an item or a member.
* `HoldsItems`, `HoldsMembers` — the texts between the brackets of an array and the braces of an
  object; how keys are spelled is left open.
* `nextItem_of_separates`, `separates_of_nextItem` — a reader goes on with an item just where one
  stands, and likewise for `nextKey` and members.
* `Reads` — a reader reads just the texts of a grammar.
-/

/-! ### Layouts -/

/-- What stands before an item: blanks, and behind another item a comma between blanks. -/
inductive Separates : Bool → Bytes → Prop
  | first {blanks : Bytes} (h : Blanks blanks) : Separates true blanks
  | next {front back : Bytes} (hfront : Blanks front) (hback : Blanks back) :
      Separates false (front ++ 0x2c :: back)

/-- Bytes hold the texts of items, from the first item on or behind other items. -/
inductive HoldsItems : Bool → List Bytes → Bytes → Prop
  | nil {first : Bool} {blanks : Bytes} (h : Blanks blanks) : HoldsItems first [] blanks
  | cons {first : Bool} {text : Bytes} {texts : List Bytes} {sep rest : Bytes}
      (hsep : Separates first sep) (hrest : HoldsItems false texts rest) :
      HoldsItems first (text :: texts) (sep ++ (text ++ rest))

/-- Bytes hold keys and the texts of their values, from the first member on or behind others. -/
inductive HoldsMembers {κ : Type} (Key : κ → Bytes → Prop) : Bool → List (κ × Bytes) → Bytes → Prop
  | nil {first : Bool} {blanks : Bytes} (h : Blanks blanks) : HoldsMembers Key first [] blanks
  | cons {first : Bool} {key : κ} {text : Bytes} {members : List (κ × Bytes)}
      {sep name mid front rest : Bytes} (hsep : Separates first sep) (hkey : Key key name)
      (hmid : Blanks mid) (hfront : Blanks front) (hrest : HoldsMembers Key false members rest) :
      HoldsMembers Key first ((key, text) :: members)
        (sep ++ 0x22 :: (name ++ 0x22 :: (mid ++ 0x3a :: (front ++ (text ++ rest)))))

/-- What separates items ends a number. -/
theorem Separates.endsNumber {sep : Bytes} (h : Separates false sep) (rest : Bytes) :
    EndsNumber (sep ++ rest) := by
  cases h with
  | next hfront =>
    rw [List.append_assoc]
    exact endsNumber_blanks hfront (endsNumber_cons (by decide))

theorem Separates.append {first : Bool} {sep blanks : Bytes} (h : Separates first sep)
    (hblanks : Blanks blanks) : Separates first (sep ++ blanks) := by
  cases h with
  | first hfront => exact .first (hfront.append hblanks)
  | next hfront hback =>
    rw [List.append_assoc, List.cons_append]
    exact .next hfront (hback.append hblanks)

theorem HoldsItems.endsNumber {texts : List Bytes} {body : Bytes}
    (h : HoldsItems false texts body) (rest : Bytes) : EndsNumber (body ++ 0x5d :: rest) := by
  cases h with
  | nil hblanks => exact endsNumber_blanks hblanks (endsNumber_cons (by decide))
  | cons hsep =>
    rw [List.append_assoc]
    exact hsep.endsNumber _

theorem HoldsMembers.endsNumber {κ : Type} {Key : κ → Bytes → Prop} {members : List (κ × Bytes)}
    {body : Bytes} (h : HoldsMembers Key false members body) (rest : Bytes) :
    EndsNumber (body ++ 0x7d :: rest) := by
  cases h with
  | nil hblanks => exact endsNumber_blanks hblanks (endsNumber_cons (by decide))
  | cons hsep =>
    rw [List.append_assoc]
    exact hsep.endsNumber _

theorem HoldsItems.length_le {first : Bool} {texts : List Bytes} {body : Bytes}
    (h : HoldsItems first texts body) (hpos : ∀ text ∈ texts, 0 < text.length) :
    texts.length ≤ body.length := by
  induction h with
  | nil => exact Nat.zero_le _
  | cons _ _ ih =>
    obtain ⟨htext, htexts⟩ := List.forall_mem_cons.1 hpos
    have hrest := ih htexts
    simp only [List.length_append, List.length_cons]
    omega

theorem HoldsMembers.length_le {κ : Type} {Key : κ → Bytes → Prop} {first : Bool}
    {members : List (κ × Bytes)} {body : Bytes} (h : HoldsMembers Key first members body) :
    members.length ≤ body.length := by
  induction h with
  | nil => exact Nat.zero_le _
  | cons _ _ _ _ _ ih =>
    simp only [List.length_append, List.length_cons]
    omega

/-! ### Going on with an item -/

/-- A byte behind blanks, with the blanks. -/
theorem exists_blanks_of_skipBlanks {b : UInt8} {bs tail : Bytes}
    (h : skipBlanks bs = b :: tail) : ∃ blanks, Blanks blanks ∧ bs = blanks ++ b :: tail := by
  obtain ⟨blanks, hblanks, hbs⟩ := exists_blanks bs
  exact ⟨blanks, hblanks, by rw [← h]; exact hbs⟩

theorem nextItem_of_separates {first : Bool} {sep : Bytes} (h : Separates first sep) {b : UInt8}
    (hb : Begins b) (tail : Bytes) : nextItem first (sep ++ b :: tail) = .ok (true, b :: tail) := by
  cases h with
  | first hblanks =>
    simp [nextItem, skipBlanks_append hblanks, skipBlanks_cons hb.1, hb.2]
  | next hfront hback =>
    simp [nextItem, skipBlanks_append hfront, skipBlanks_append hback,
      skipBlanks_cons (b := 0x2c) (by decide), skipBlanks_cons hb.1, hb.2]

theorem nextItem_blanks {blanks : Bytes} (h : Blanks blanks) (first : Bool) (rest : Bytes) :
    nextItem first (blanks ++ 0x5d :: rest) = .ok (false, 0x5d :: rest) := by
  simp [nextItem, skipBlanks_append h, skipBlanks_cons (b := 0x5d) (by decide)]

theorem separates_of_nextItem {first : Bool} {bs after : Bytes}
    (h : nextItem first bs = .ok (true, after)) : ∃ sep, Separates first sep ∧ bs = sep ++ after := by
  unfold nextItem at h
  split at h
  · cases h
  · cases h
  · next b rest _ hbs =>
    obtain ⟨blanks, hblanks, rfl⟩ := exists_blanks_of_skipBlanks hbs
    split at h
    · next hfirst =>
      cases h
      exact ⟨blanks, hfirst ▸ .first hblanks, rfl⟩
    · next hfirst =>
      split at h
      · next hcomma =>
        split at h
        · cases h
        · cases h
        · cases h
          obtain ⟨back, hback, hrest⟩ := exists_blanks rest
          refine ⟨blanks ++ 0x2c :: back, ?_, ?_⟩
          · rw [Bool.eq_false_iff.2 hfirst]
            exact .next hblanks hback
          · rw [hcomma, List.append_assoc, List.cons_append, ← hrest]
      · cases h

theorem bracket_of_nextItem {first : Bool} {bs after : Bytes}
    (h : nextItem first bs = .ok (false, after)) :
    ∃ blanks rest, Blanks blanks ∧ bs = blanks ++ 0x5d :: rest ∧ after = 0x5d :: rest := by
  unfold nextItem at h
  split at h
  · cases h
  · next rest hbs =>
    obtain ⟨blanks, hblanks, rfl⟩ := exists_blanks_of_skipBlanks hbs
    cases h
    exact ⟨blanks, rest, hblanks, rfl, rfl⟩
  · split at h
    · cases h
    · split at h
      · split at h <;> cases h
      · cases h

/-! ### Going on with a member -/

theorem nextKey_of_separates {first : Bool} {sep : Bytes} (h : Separates first sep)
    (tail : Bytes) : nextKey first (sep ++ 0x22 :: tail) = .ok (true, tail) := by
  cases h with
  | first hblanks =>
    simp [nextKey, skipBlanks_append hblanks, skipBlanks_cons (b := 0x22) (by decide)]
  | next hfront hback =>
    simp [nextKey, skipBlanks_append hfront, skipBlanks_append hback,
      skipBlanks_cons (b := 0x2c) (by decide), skipBlanks_cons (b := 0x22) (by decide)]

theorem nextKey_blanks {blanks : Bytes} (h : Blanks blanks) (first : Bool) (rest : Bytes) :
    nextKey first (blanks ++ 0x7d :: rest) = .ok (false, 0x7d :: rest) := by
  simp [nextKey, skipBlanks_append h, skipBlanks_cons (b := 0x7d) (by decide)]

theorem separates_of_nextKey {first : Bool} {bs after : Bytes}
    (h : nextKey first bs = .ok (true, after)) :
    ∃ sep, Separates first sep ∧ bs = sep ++ 0x22 :: after := by
  unfold nextKey at h
  split at h
  · cases h
  · cases h
  · next b rest _ hbs =>
    obtain ⟨blanks, hblanks, rfl⟩ := exists_blanks_of_skipBlanks hbs
    split at h
    · next hfirst =>
      split at h
      · next hquote =>
        cases h
        exact ⟨blanks, hfirst ▸ .first hblanks, by rw [hquote]⟩
      · cases h
    · next hfirst =>
      split at h
      · next hcomma =>
        split at h
        · cases h
        · next tail hrest =>
          cases h
          obtain ⟨back, hback, rfl⟩ := exists_blanks_of_skipBlanks hrest
          refine ⟨blanks ++ 0x2c :: back, ?_, ?_⟩
          · rw [Bool.eq_false_iff.2 hfirst]
            exact .next hblanks hback
          · rw [hcomma, List.append_assoc, List.cons_append]
        · cases h
        · cases h
      · cases h

theorem brace_of_nextKey {first : Bool} {bs after : Bytes}
    (h : nextKey first bs = .ok (false, after)) :
    ∃ blanks rest, Blanks blanks ∧ bs = blanks ++ 0x7d :: rest ∧ after = 0x7d :: rest := by
  unfold nextKey at h
  split at h
  · cases h
  · next rest hbs =>
    obtain ⟨blanks, hblanks, rfl⟩ := exists_blanks_of_skipBlanks hbs
    cases h
    exact ⟨blanks, rest, hblanks, rfl, rfl⟩
  · split at h
    · split at h <;> cases h
    · split at h
      · split at h <;> cases h
      · cases h

theorem colon_of_readColon {bs rest : Bytes} (h : readColon bs = .ok rest) :
    ∃ mid, Blanks mid ∧ bs = mid ++ 0x3a :: rest := by
  unfold readColon at h
  split at h
  · next hbs =>
    cases h
    exact exists_blanks_of_skipBlanks hbs
  · cases h
  · cases h

/-! ### Readers and grammars -/

/-- A reader reads just the texts of a grammar: what it reads stands there behind blanks, and a text
of the grammar is read as its value where nothing goes on with a number. -/
structure Reads {α : Type} (read : Bytes → Except Fault (α × Bytes)) (Text : α → Bytes → Prop) :
    Prop where
  sound : ∀ {bs rest : Bytes} {a : α}, read bs = .ok (a, rest) →
    ∃ blanks text, Blanks blanks ∧ Text a text ∧ bs = blanks ++ (text ++ rest)
  complete : ∀ {blanks text rest : Bytes} {a : α}, Blanks blanks → Text a text → EndsNumber rest →
    read (blanks ++ (text ++ rest)) = .ok (a, rest)

end RestorePlugins.Json
