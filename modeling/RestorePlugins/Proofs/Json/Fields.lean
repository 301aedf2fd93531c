import RestorePlugins.Json.Record
import RestorePlugins.Proofs.Json.Skipping

namespace RestorePlugins.Json

/-!
# What values are read from

A value of a field may be spelled in other ways than it is written: with escapes, with blanks, a map
with its keys in any order or repeated, and a variant as an object that maps its name to null.

* `FieldKind.Spells` — the texts of a value of a kind.
* `FieldKind.reads` — a reader of a kind reads just these texts.
* `FieldKind.Spells.valueText` — they are values, so a field that has one may as well be unknown.
* `FieldKind.spells_write` — the text that is written for a value is among them.
-/

/-! ### Grammars -/

/-- A text between quotes. -/
def SpellsQuoted (s : String) (text : Bytes) : Prop :=
  ∃ body, SpellsText s body ∧ text = 0x22 :: (body ++ [0x22])

/-- A signed integer of sixty-four bits in decimal digits, or null. -/
def SpellsInteger : Option Int64 → Bytes → Prop
  | none, text => text = utf8 "null"
  | some i, text => text = decimalInt i.toInt

/-- An array of texts. -/
def SpellsTexts (items : List String) (text : Bytes) : Prop :=
  ∃ texts body, HoldsItems true texts body ∧ List.Forall₂ SpellsQuoted items texts ∧
    text = 0x5b :: (body ++ [0x5d])

/-- A member of an object of texts. -/
def SpellsEntry (entry : String × String) (member : String × Bytes) : Prop :=
  entry.1 = member.1 ∧ SpellsQuoted entry.2 member.2

/-- An object of texts; of two entries with one key the later counts. -/
def SpellsTextMap (d : Dict String) (text : Bytes) : Prop :=
  ∃ entries members body, HoldsMembers SpellsText true members body ∧
    List.Forall₂ SpellsEntry entries members ∧ d = Dict.ofPairs entries ∧
    text = 0x7b :: (body ++ [0x7d])

/-- The name of a variant, or an object that maps it to null. -/
def SpellsVariant (name : String) (text : Bytes) : Prop :=
  SpellsQuoted name text ∨
    ∃ body, HoldsMembers SpellsText true [(name, utf8 "null")] body ∧
      text = 0x7b :: (body ++ [0x7d])

/-- Bytes spell a value of a kind. -/
def FieldKind.Spells : (kind : FieldKind) → kind.Value → Bytes → Prop
  | .text, s, bs => SpellsQuoted s bs
  | .integer, i, bs => SpellsInteger i bs
  | .texts, items, bs => SpellsTexts items bs
  | .textMap, d, bs => SpellsTextMap d bs
  | .choice _, name, bs => SpellsVariant name.1 bs

/-! ### Texts -/

theorem SpellsQuoted.begins {s : String} {text : Bytes} (h : SpellsQuoted s text) :
    ∃ b tail, text = b :: tail ∧ Begins b := by
  obtain ⟨body, -, rfl⟩ := h
  exact ⟨0x22, _, rfl, by decide⟩

/-- A text value is read from its spellings. -/
theorem reads_text (expected : String) : Reads (readTextValue expected) SpellsQuoted where
  sound := by
    intro bs rest s h
    unfold readTextValue at h
    split at h
    · cases h
    · next hbs =>
      obtain ⟨blanks, hblanks, rfl⟩ := exists_blanks_of_skipBlanks hbs
      obtain ⟨body, rfl, hbody⟩ := spellsText_of_readText h
      exact ⟨blanks, 0x22 :: (body ++ [0x22]), hblanks, ⟨body, hbody, rfl⟩, by simp⟩
    · cases h
  complete := by
    intro blanks text rest s hblanks htext _
    obtain ⟨body, hbody, rfl⟩ := htext
    simp [readTextValue, skipBlanks_append hblanks, skipBlanks_cons (b := 0x22) (by decide),
      readText_of_spells hbody]

/-- What stands in the second of two related lists is related to something. -/
theorem exists_of_forall₂ {α β : Type} {R : α → β → Prop} {xs : List α} {ys : List β}
    (h : List.Forall₂ R xs ys) {y : β} (hy : y ∈ ys) : ∃ x, R x y := by
  induction h with
  | nil => exact absurd hy List.not_mem_nil
  | cons hr _ ih =>
    rcases List.mem_cons.1 hy with rfl | hy
    · exact ⟨_, hr⟩
    · exact ih hy

/-! ### Integers -/

theorem toInt_ofInt_of_isInt64 {i : Int} (h : isInt64 i = true) : (Int64.ofInt i).toInt = i := by
  simp only [isInt64, Bool.and_eq_true, decide_eq_true_eq] at h
  exact Int64.toInt_ofInt_of_le h.1 h.2

/-- An integer that is read stands there in decimal digits. -/
theorem decimalInt_of_readInt64 {positive : Bool} {bs rest : Bytes} {i : Int64}
    (h : readInt64 positive bs = .ok (i, rest)) :
    signBytes positive ++ bs = decimalInt i.toInt ++ rest := by
  obtain ⟨⟨number, after⟩, hnumber, hnext⟩ := exists_of_bind h
  cases number with
  | float x => cases hnext
  | int n =>
    dsimp only at hnext
    split at hnext
    · next hrange =>
      obtain ⟨rfl, rfl⟩ := Prod.mk.inj (Except.ok.inj hnext)
      rw [toInt_ofInt_of_isInt64 hrange]
      exact decimalInt_of_readNumber hnumber
    · cases hnext

/-- An integer of sixty-four signed bits is read back. -/
theorem readInt64_of_readNumber {positive : Bool} {bs rest : Bytes} {i : Int64}
    (h : readNumber positive bs = .ok (.int i.toInt, rest)) :
    readInt64 positive bs = .ok (i, rest) := by
  have hrange : isInt64 i.toInt = true := by
    simp only [isInt64, Bool.and_eq_true, decide_eq_true_eq]
    exact ⟨i.le_toInt, i.toInt_lt⟩
  simp [readInt64, h, hrange, bind, Except.bind]

theorem readOptionalInt_write (iops : Option Int64) {rest : Bytes} (hends : EndsNumber rest) :
    readOptionalInt (FieldKind.integer.write iops ++ rest) = .ok (iops, rest) := by
  cases iops with
  | none =>
    have htext : FieldKind.integer.write none = 0x6e :: utf8 "ull" := by decide
    rw [htext, List.cons_append, readOptionalInt, skipBlanks_cons (b := 0x6e) (by decide)]
    simp [readWord_append, bind, Except.bind]
  | some i =>
    have hlow := i.le_toInt
    have hhigh := i.toInt_lt
    show readOptionalInt (decimalInt i.toInt ++ rest) = .ok (some i, rest)
    rcases readNumber_decimalInt hlow (by simp only [maxSignificand]; omega) hends with
      ⟨bs, htext, hread⟩ | ⟨b, tail, htext, hdigit, hread⟩
    · simp [htext, readOptionalInt, skipBlanks_cons (b := 0x2d) (by decide),
        readInt64_of_readNumber hread, bind, Except.bind]
    · obtain ⟨hblank, hn, -, -, hminus, -⟩ := digit_ne hdigit
      simp [htext, readOptionalInt, skipBlanks_cons hblank, hn, hminus, hdigit,
        readInt64_of_readNumber hread, bind, Except.bind]

/-- An integer or null is read from its digits or its word. -/
theorem reads_integer : Reads readOptionalInt SpellsInteger where
  sound := by
    intro bs rest value h
    unfold readOptionalInt at h
    split at h
    · cases h
    · next b tail hbs =>
      obtain ⟨blanks, hblanks, rfl⟩ := exists_blanks_of_skipBlanks hbs
      suffices ∃ text, SpellsInteger value text ∧ b :: tail = text ++ rest by
        obtain ⟨text, htext, heq⟩ := this
        exact ⟨blanks, text, hblanks, htext, by rw [heq]⟩
      split at h
      · next hb =>
        obtain ⟨after, hword, hnext⟩ := exists_of_bind h
        cases hnext
        exact ⟨utf8 "null", rfl, by rw [eq_of_readWord hword, hb]; rfl⟩
      split at h
      · next hb =>
        obtain ⟨⟨i, after⟩, hint, hnext⟩ := exists_of_bind h
        cases hnext
        exact ⟨decimalInt i.toInt, rfl, by rw [hb]; exact decimalInt_of_readInt64 hint⟩
      split at h
      · obtain ⟨⟨i, after⟩, hint, hnext⟩ := exists_of_bind h
        cases hnext
        exact ⟨decimalInt i.toInt, rfl, decimalInt_of_readInt64 hint⟩
      · cases h
  complete := by
    intro blanks text rest value hblanks htext hends
    have hwritten : text = FieldKind.integer.write value := by
      cases value <;> exact htext
    have hread := readOptionalInt_write value hends
    rw [← hwritten] at hread
    rwa [readOptionalInt, skipBlanks_append hblanks, ← readOptionalInt]

/-! ### Arrays of texts -/

/-- Spelled items are read up to the bracket. -/
theorem readTexts_of_items {items : List String} {texts : List Bytes}
    (hall : List.Forall₂ SpellsQuoted items texts) {first : Bool} {body : Bytes}
    (h : HoldsItems first texts body) (rest : Bytes) :
    ∀ fuel, items.length < fuel →
      readTexts fuel first (body ++ 0x5d :: rest) = .ok (items, rest) := by
  induction hall generalizing first body with
  | nil =>
    intro fuel hfuel
    obtain ⟨fuel, rfl⟩ : ∃ n, fuel = n + 1 := ⟨fuel - 1, by omega⟩
    cases h with
    | nil hblanks => simp [readTexts, nextItem_blanks hblanks, bind, Except.bind]
  | @cons item text items texts hitem _ ih =>
    intro fuel hfuel
    rw [List.length_cons] at hfuel
    obtain ⟨fuel, rfl⟩ : ∃ n, fuel = n + 1 := ⟨fuel - 1, by omega⟩
    cases h with
    | @cons _ _ _ sep body hsep hrest =>
      have hread := (reads_text "a string").complete blanks_nil hitem (hrest.endsNumber rest)
      have hmore := ih hrest fuel (by omega)
      obtain ⟨b, tail, rfl, hb⟩ := hitem.begins
      have hnext := nextItem_of_separates hsep hb (tail ++ (body ++ 0x5d :: rest))
      simp only [List.nil_append, List.cons_append] at hread
      simp [readTexts, hnext, hread, hmore, bind, Except.bind]

/-- Items that are read are spelled. -/
theorem items_of_readTexts (fuel : Nat) {first : Bool} {bs rest : Bytes} {items : List String}
    (h : readTexts fuel first bs = .ok (items, rest)) :
    ∃ texts body, HoldsItems first texts body ∧ List.Forall₂ SpellsQuoted items texts ∧
      bs = body ++ 0x5d :: rest := by
  induction fuel generalizing first bs items with
  | zero => cases h
  | succ fuel ih =>
    obtain ⟨⟨more, after⟩, hnext, hlast⟩ := exists_of_bind h
    cases more with
    | false =>
      cases hlast
      obtain ⟨blanks, tail, hblanks, rfl, rfl⟩ := bracket_of_nextItem hnext
      exact ⟨[], blanks, .nil hblanks, .nil, rfl⟩
    | true =>
      obtain ⟨sep, hsep, rfl⟩ := separates_of_nextItem hnext
      obtain ⟨⟨item, afterItem⟩, hitem, hothers⟩ := exists_of_bind hlast
      obtain ⟨blanks, text, hblanks, htext, rfl⟩ := (reads_text "a string").sound hitem
      obtain ⟨⟨others, afterAll⟩, hmore, hdone⟩ := exists_of_bind hothers
      cases hdone
      obtain ⟨texts, body, hitems, hall, rfl⟩ := ih hmore
      exact ⟨text :: texts, (sep ++ blanks) ++ (text ++ body), .cons (hsep.append hblanks) hitems,
        .cons htext hall, by simp⟩

/-! ### Objects of texts -/

/-- Spelled entries are read up to the brace and put in. -/
theorem readTextMap_of_members {entries : List (String × String)} {members : List (String × Bytes)}
    (hall : List.Forall₂ SpellsEntry entries members) {first : Bool} {body : Bytes}
    (h : HoldsMembers SpellsText first members body) (rest : Bytes) :
    ∀ (fuel : Nat) (d : Dict String), entries.length < fuel →
      readTextMap fuel first d (body ++ 0x7d :: rest) = .ok (d.insertAll entries, rest) := by
  induction hall generalizing first body with
  | nil =>
    intro fuel d hfuel
    obtain ⟨fuel, rfl⟩ : ∃ n, fuel = n + 1 := ⟨fuel - 1, by omega⟩
    cases h with
    | nil hblanks => simp [readTextMap, nextKey_blanks hblanks, Dict.insertAll, bind, Except.bind]
  | @cons entry member entries members hentry _ ih =>
    intro fuel d hfuel
    rw [List.length_cons] at hfuel
    obtain ⟨fuel, rfl⟩ : ∃ n, fuel = n + 1 := ⟨fuel - 1, by omega⟩
    obtain ⟨key, value⟩ := entry
    obtain ⟨hkey, hvalue⟩ := hentry
    cases h with
    | cons hsep hname hmid hfront hrest =>
      obtain rfl : key = _ := hkey
      have hread := (reads_text "a string").complete hfront hvalue (hrest.endsNumber rest)
      have hmore := ih hrest fuel (d.insert key value) (by omega)
      simp [readTextMap, nextKey_of_separates hsep, readText_of_spells hname,
        readColon_append hmid, hread, hmore, Dict.insertAll, bind, Except.bind]

/-- Entries that are read and put in are spelled. -/
theorem members_of_readTextMap (fuel : Nat) {first : Bool} {bs rest : Bytes} {d whole : Dict String}
    (h : readTextMap fuel first d bs = .ok (whole, rest)) :
    ∃ entries members body, HoldsMembers SpellsText first members body ∧
      List.Forall₂ SpellsEntry entries members ∧ whole = d.insertAll entries ∧
      bs = body ++ 0x7d :: rest := by
  induction fuel generalizing first bs d with
  | zero => cases h
  | succ fuel ih =>
    obtain ⟨⟨more, after⟩, hnext, hlast⟩ := exists_of_bind h
    cases more with
    | false =>
      cases hlast
      obtain ⟨blanks, tail, hblanks, rfl, rfl⟩ := brace_of_nextKey hnext
      exact ⟨[], [], blanks, .nil hblanks, .nil, rfl, rfl⟩
    | true =>
      obtain ⟨sep, hsep, rfl⟩ := separates_of_nextKey hnext
      obtain ⟨⟨key, afterKey⟩, hkey, hbehind⟩ := exists_of_bind hlast
      obtain ⟨name, rfl, hname⟩ := spellsText_of_readText hkey
      obtain ⟨afterColon, hcolon, hmember⟩ := exists_of_bind hbehind
      obtain ⟨mid, hblanks, rfl⟩ := colon_of_readColon hcolon
      obtain ⟨⟨value, afterValue⟩, hvalue, hothers⟩ := exists_of_bind hmember
      obtain ⟨front, text, hfront, htext, rfl⟩ := (reads_text "a string").sound hvalue
      obtain ⟨entries, members, body, hmembers, hall, rfl, rfl⟩ := ih hothers
      exact ⟨(key, value) :: entries, (key, text) :: members, _,
        .cons hsep hname hblanks hfront hmembers, .cons ⟨rfl, htext⟩ hall, rfl, by simp⟩

theorem reads_texts : Reads FieldKind.texts.read SpellsTexts where
  sound := by
    intro bs rest items h
    simp only [FieldKind.read, FieldKind.Value] at h
    split at h
    · cases h
    · next hbs =>
      obtain ⟨blanks, hblanks, rfl⟩ := exists_blanks_of_skipBlanks hbs
      obtain ⟨texts, body, hitems, hall, rfl⟩ := items_of_readTexts _ h
      exact ⟨blanks, 0x5b :: (body ++ [0x5d]), hblanks, ⟨texts, body, hitems, hall, rfl⟩, by simp⟩
    · cases h
  complete := by
    intro blanks text rest items hblanks htext _
    obtain ⟨texts, body, hitems, hall, rfl⟩ := htext
    have hlength := hitems.length_le fun text htext => by
      obtain ⟨item, hitem⟩ := exists_of_forall₂ hall htext
      obtain ⟨b, tail, rfl, -⟩ := hitem.begins
      exact Nat.succ_pos _
    have hcount := hall.length_eq
    have hread := readTexts_of_items hall hitems rest ((body ++ 0x5d :: rest).length + 1)
      (by rw [List.length_append]; omega)
    simp only [FieldKind.read, skipBlanks_append hblanks, List.cons_append, List.append_assoc,
      List.nil_append, skipBlanks_cons (b := 0x5b) (by decide)]
    exact hread

theorem reads_textMap : Reads FieldKind.textMap.read SpellsTextMap where
  sound := by
    intro bs rest d h
    simp only [FieldKind.read, FieldKind.Value] at h
    split at h
    · cases h
    · next hbs =>
      obtain ⟨blanks, hblanks, rfl⟩ := exists_blanks_of_skipBlanks hbs
      obtain ⟨entries, members, body, hmembers, hall, rfl, rfl⟩ := members_of_readTextMap _ h
      exact ⟨blanks, 0x7b :: (body ++ [0x7d]), hblanks,
        ⟨entries, members, body, hmembers, hall, Dict.insertAll_empty entries, rfl⟩, by simp⟩
    · cases h
  complete := by
    intro blanks text rest d hblanks htext _
    obtain ⟨entries, members, body, hmembers, hall, rfl, rfl⟩ := htext
    have hlength := hmembers.length_le
    have hcount := hall.length_eq
    have hread := readTextMap_of_members hall hmembers rest ((body ++ 0x7d :: rest).length + 1) ∅
      (by rw [List.length_append]; omega)
    rw [Dict.insertAll_empty] at hread
    simp only [FieldKind.read, skipBlanks_append hblanks, List.cons_append, List.append_assoc,
      List.nil_append, skipBlanks_cons (b := 0x7b) (by decide)]
    exact hread

/-! ### Variants -/

theorem reads_variant (names : List String) :
    Reads (readVariant names) fun name => SpellsQuoted name.1 where
  sound := by
    intro bs rest name h
    obtain ⟨⟨s, after⟩, hread, hnext⟩ := exists_of_bind h
    dsimp only at hnext
    split at hnext
    · cases hnext
      exact (reads_text "variant identifier").sound hread
    · cases hnext
  complete := by
    intro blanks text rest name hblanks htext hends
    have hread := (reads_text "variant identifier").complete hblanks htext hends
    simp [readVariant, hread, name.2, bind, Except.bind]

/-- A null that is read stands there. -/
theorem null_of_readUnit {bs rest : Bytes} (h : readUnit bs = .ok rest) :
    ∃ blanks, Blanks blanks ∧ bs = blanks ++ (utf8 "null" ++ rest) := by
  unfold readUnit at h
  split at h
  · cases h
  · next hbs =>
    obtain ⟨blanks, hblanks, rfl⟩ := exists_blanks_of_skipBlanks hbs
    exact ⟨blanks, hblanks, by rw [eq_of_readWord h]; rfl⟩
  · cases h

theorem readUnit_null {blanks : Bytes} (h : Blanks blanks) (rest : Bytes) :
    readUnit (blanks ++ (utf8 "null" ++ rest)) = .ok rest := by
  have hnull : utf8 "null" = 0x6e :: utf8 "ull" := by decide
  rw [readUnit, skipBlanks_append h, hnull, List.cons_append, skipBlanks_cons (by decide)]
  exact readWord_append _ rest

/-- A variant is read from its name or an object that maps its name to null. -/
theorem reads_choice (names : List String) :
    Reads (readChoice names) fun name => SpellsVariant name.1 where
  sound := by
    intro bs rest name h
    unfold readChoice at h
    split at h
    · cases h
    · next hbs =>
      obtain ⟨front, hfront, rfl⟩ := exists_blanks_of_skipBlanks hbs
      obtain ⟨blanks, text, hblanks, htext, heq⟩ := (reads_variant names).sound h
      exact ⟨front ++ blanks, text, hfront.append hblanks, .inl htext, by simp [heq]⟩
    · next hbs =>
      obtain ⟨front, hfront, rfl⟩ := exists_blanks_of_skipBlanks hbs
      obtain ⟨⟨variant, afterName⟩, hname, hbehind⟩ := exists_of_bind h
      obtain ⟨sep, quoted, hsep, ⟨body, hbody, rfl⟩, rfl⟩ := (reads_variant names).sound hname
      obtain ⟨afterColon, hcolon, hunit⟩ := exists_of_bind hbehind
      obtain ⟨mid, hmid, rfl⟩ := colon_of_readColon hcolon
      obtain ⟨afterNull, hnull, hlast⟩ := exists_of_bind hunit
      obtain ⟨blanks, hblanks, rfl⟩ := null_of_readUnit hnull
      split at hlast
      · next hbrace =>
        cases hlast
        obtain ⟨back, hback, rfl⟩ := exists_blanks_of_skipBlanks hbrace
        refine ⟨front, _, hfront, .inr ⟨_, .cons (.first hsep) hbody hmid hblanks (.nil hback), rfl⟩,
          by simp⟩
      · cases hlast
      · cases hlast
    · cases h
  complete := by
    intro blanks text rest name hblanks htext hends
    rcases htext with htext | ⟨body, hmembers, rfl⟩
    · have hread := (reads_variant names).complete blanks_nil htext hends
      obtain ⟨body, -, rfl⟩ := htext
      rw [List.nil_append, List.cons_append] at hread
      simp only [readChoice, skipBlanks_append hblanks, List.cons_append,
        skipBlanks_cons (b := 0x22) (by decide), hread]
    · cases hmembers with
      | @cons _ _ _ _ sep word mid front back hsep hname hmid hfront hback =>
        cases hsep with
        | first hsep =>
        cases hback with
        | nil hback =>
          have hends : EndsNumber
              (mid ++ 0x3a :: (front ++ (utf8 "null" ++ (back ++ 0x7d :: rest)))) :=
            endsNumber_blanks hmid (endsNumber_cons (by decide))
          have hread := (reads_variant names).complete hsep ⟨word, hname, rfl⟩ hends
          simp only [List.append_assoc, List.cons_append, List.nil_append] at hread
          simp [readChoice, skipBlanks_append hblanks, skipBlanks_cons (b := 0x7b) (by decide),
            hread, readColon_append hmid, readUnit_null hfront, skipBlanks_append hback,
            skipBlanks_cons (b := 0x7d) (by decide), bind, Except.bind]

/-! ### Values of any kind -/

/-- **Kinds.** A reader of a kind reads just the texts of its values. -/
theorem FieldKind.reads (kind : FieldKind) : Reads kind.read kind.Spells := by
  cases kind with
  | text => exact reads_text "a string"
  | integer => exact reads_integer
  | texts => exact reads_texts
  | textMap => exact reads_textMap
  | choice names => exact reads_choice names

/-- A text spells at most one value of a kind. -/
theorem FieldKind.Spells.unique {kind : FieldKind} {value other : kind.Value} {text : Bytes}
    (h : kind.Spells value text) (hother : kind.Spells other text) : value = other := by
  have hread := kind.reads.complete blanks_nil h endsNumber_nil
  rw [kind.reads.complete blanks_nil hother endsNumber_nil] at hread
  exact (Prod.mk.inj (Except.ok.inj hread)).1.symm

theorem SpellsQuoted.valueText {s : String} {text : Bytes} (h : SpellsQuoted s text) :
    ValueText text := by
  obtain ⟨body, hbody, rfl⟩ := h
  exact .text hbody.plainText

/-- The digits of a number are its whole part. -/
theorem wholePart_decimal (n : Nat) : WholePart (decimal n) := by
  obtain ⟨b, digits, hb, -⟩ := exists_digit_decimal n
  refine ⟨⟨by rw [hb]; exact List.cons_ne_nil _ _, fun _ h => isDigit_of_mem_decimal h⟩, ?_⟩
  intro more hmore
  rcases Nat.eq_zero_or_pos n with rfl | hpos
  · rw [decimal_zero] at hmore
    exact (List.cons.inj hmore).2.symm
  · obtain ⟨c, others, hc, hne⟩ := decimal_eq_cons hpos
    rw [hc] at hmore
    exact absurd (List.cons.inj hmore).1 hne

theorem numberText_decimalInt (i : Int) : NumberText (decimalInt i) := by
  have hwhole := wholePart_decimal i.natAbs
  by_cases hneg : i < 0
  · have htext := NumberText.mk false hwhole (.inl rfl) (.inl rfl)
    rw [List.append_nil, List.append_nil] at htext
    rw [decimalInt, if_pos hneg]
    exact htext
  · have htext := NumberText.mk true hwhole (.inl rfl) (.inl rfl)
    rw [List.append_nil, List.append_nil] at htext
    rw [decimalInt, if_neg hneg]
    exact htext

/-- Members with spelled keys can be passed over. -/
theorem HoldsMembers.plain {first : Bool} {members : List (String × Bytes)} {body : Bytes}
    (h : HoldsMembers SpellsText first members body) :
    HoldsMembers (fun _ => PlainText) first (members.map fun member => ((), member.2)) body := by
  induction h with
  | nil hblanks => exact .nil hblanks
  | cons hsep hkey hmid hfront _ ih => exact .cons hsep hkey.plainText hmid hfront ih

theorem valueText_of_members {members : List (String × Bytes)} {body : Bytes}
    (h : HoldsMembers SpellsText true members body)
    (hall : ∀ member ∈ members, ValueText member.2) : ValueText (0x7b :: (body ++ [0x7d])) := by
  refine .obj h.plain fun member hmember => ?_
  obtain ⟨other, hother, rfl⟩ := List.mem_map.1 hmember
  exact hall other hother

/-- The text of a value of a kind is a value. -/
theorem FieldKind.Spells.valueText {kind : FieldKind} {value : kind.Value} {text : Bytes}
    (h : kind.Spells value text) : ValueText text := by
  cases kind with
  | text => exact SpellsQuoted.valueText h
  | integer =>
    cases value with
    | none =>
      obtain rfl : text = utf8 "null" := h
      exact .null
    | some i =>
      obtain rfl : text = decimalInt i.toInt := h
      exact .number (numberText_decimalInt i.toInt)
  | texts =>
    obtain ⟨texts, body, hitems, hall, rfl⟩ := h
    refine .arr hitems fun text htext => ?_
    obtain ⟨item, hitem⟩ := exists_of_forall₂ hall htext
    exact hitem.valueText
  | textMap =>
    obtain ⟨entries, members, body, hmembers, hall, -, rfl⟩ := h
    refine valueText_of_members hmembers fun member hmember => ?_
    obtain ⟨entry, hentry⟩ := exists_of_forall₂ hall hmember
    exact hentry.2.valueText
  | choice names =>
    rcases h with hname | ⟨body, hmembers, rfl⟩
    · exact hname.valueText
    · refine valueText_of_members hmembers fun member hmember => ?_
      obtain rfl := List.mem_singleton.1 hmember
      exact .null

/-! ### Written values -/

theorem spellsQuoted_quote (s : String) : SpellsQuoted s (quote s) :=
  ⟨escapeBytes (utf8 s), spellsText_escapeBytes s, rfl⟩

/-- One text of a list: behind other items it follows a comma. -/
def listed (first : Bool) (item : Bytes) : Bytes := if first then item else 0x2c :: item

/-- Texts with commas between them, at the front of a list or behind other items. -/
def joined (first : Bool) : List Bytes → Bytes
  | [] => []
  | item :: rest => listed first item ++ joined false rest

theorem commaList_eq_joined (items : List Bytes) : commaList items = joined true items := by
  induction items with
  | nil => rfl
  | cons item rest ih =>
    cases rest with
    | nil => simp [commaList, joined, listed]
    | cons next rest =>
      show item ++ 0x2c :: commaList (next :: rest) = item ++ joined false (next :: rest)
      rw [ih]
      rfl

/-- A listed text follows what separates it. -/
theorem exists_separates_listed (first : Bool) (text : Bytes) :
    ∃ sep, Separates first sep ∧ listed first text = sep ++ text := by
  cases first with
  | true => exact ⟨[], .first blanks_nil, rfl⟩
  | false => exact ⟨[0x2c], .next blanks_nil blanks_nil, rfl⟩

theorem holdsItems_joined (first : Bool) (texts : List Bytes) :
    HoldsItems first texts (joined first texts) := by
  induction texts generalizing first with
  | nil => exact .nil blanks_nil
  | cons text texts ih =>
    obtain ⟨sep, hsep, heq⟩ := exists_separates_listed first text
    rw [joined, heq, List.append_assoc]
    exact .cons hsep (ih false)

/-- The text of a member as it is written. -/
def writtenMember (member : String × Bytes) : Bytes := quote member.1 ++ 0x3a :: member.2

theorem holdsMembers_joined (first : Bool) (members : List (String × Bytes)) :
    HoldsMembers SpellsText first members (joined first (members.map writtenMember)) := by
  induction members generalizing first with
  | nil => exact .nil blanks_nil
  | cons member members ih =>
    obtain ⟨key, text⟩ := member
    obtain ⟨sep, hsep, heq⟩ := exists_separates_listed first (writtenMember (key, text))
    rw [List.map_cons, joined, heq, writtenMember, quote_append, List.append_assoc, List.cons_append,
      List.append_assoc, List.cons_append, List.cons_append]
    exact .cons hsep (spellsText_escapeBytes key) blanks_nil blanks_nil (ih false)

/-- **Written values.** The text that is written for a value spells it. -/
theorem FieldKind.spells_write (kind : FieldKind) (value : kind.Value) :
    kind.Spells value (kind.write value) := by
  cases kind with
  | text => exact spellsQuoted_quote value
  | integer => cases value <;> rfl
  | texts =>
    refine ⟨value.map quote, joined true (value.map quote), holdsItems_joined true _, ?_, ?_⟩
    · exact List.forall₂_map_right_iff.2 (List.forall₂_same.2 fun s _ => spellsQuoted_quote s)
    · simp only [FieldKind.write, commaList_eq_joined]
  | textMap =>
    have hmembers := holdsMembers_joined true (value.entries.map fun e => (e.1, quote e.2))
    rw [List.map_map] at hmembers
    refine ⟨value.entries, _, _, hmembers, ?_, (Dict.ofPairs_of_perm (.refl _)).symm, ?_⟩
    · exact List.forall₂_map_right_iff.2
        (List.forall₂_same.2 fun e _ => ⟨rfl, spellsQuoted_quote e.2⟩)
    · simp only [FieldKind.write, commaList_eq_joined]
      rfl
  | choice names => exact .inl (spellsQuoted_quote value.1)

end RestorePlugins.Json
