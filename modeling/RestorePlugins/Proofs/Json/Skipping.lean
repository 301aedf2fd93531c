import RestorePlugins.Json.Skip
import RestorePlugins.Proofs.Json.Containers

namespace RestorePlugins.Json

/-!
# Which values are passed over

The value of an unknown field is passed over.  It has to be a JSON value, but its texts may hold any
bytes and halves of pairs, its numbers are of any size, and its arrays and objects nest at will.

* `PlainText`, `NumberText`, `ValueText` — the texts, numbers and values that are passed over.
* `ValueText.passedOver`, `valueText_of_skipValue` — just such values are passed over.
* `ValueText.unique` — where a value ends is settled by the bytes.
-/

/-! ### Texts -/

/-- Bytes between quotes: escapes, and any bytes but quotes, backslashes and control characters. -/
inductive PlainText : Bytes → Prop
  | nil : PlainText []
  | plain {b : UInt8} {rest : Bytes} (hquote : b ≠ 0x22) (hbackslash : b ≠ 0x5c)
      (hcontrol : ¬ b < 0x20) (hrest : PlainText rest) : PlainText (b :: rest)
  | letter {c : Char} {l : UInt8} {rest : Bytes} (h : (c, l) ∈ letterEscapes)
      (hrest : PlainText rest) : PlainText (0x5c :: l :: rest)
  | unit {n : Nat} {digits rest : Bytes} (h : SpellsUnit n digits) (hrest : PlainText rest) :
      PlainText (0x5c :: 0x75 :: (digits ++ rest))

theorem PlainText.append {front back : Bytes} (h : PlainText front) (hback : PlainText back) :
    PlainText (front ++ back) := by
  induction h with
  | nil => exact hback
  | plain hquote hbackslash hcontrol _ ih => exact .plain hquote hbackslash hcontrol ih
  | letter h _ ih => exact .letter h ih
  | unit h _ ih =>
    rw [List.cons_append, List.cons_append, List.append_assoc]
    exact .unit h ih

/-- Bytes that stand for themselves. -/
theorem plainText_of_plain {bytes : Bytes}
    (h : ∀ b ∈ bytes, b ≠ 0x22 ∧ b ≠ 0x5c ∧ ¬ b < 0x20) : PlainText bytes := by
  induction bytes with
  | nil => exact .nil
  | cons b bytes ih =>
    obtain ⟨hquote, hbackslash, hcontrol⟩ := h b List.mem_cons_self
    exact .plain hquote hbackslash hcontrol (ih fun c hc => h c (List.mem_cons_of_mem b hc))

theorem SpellsChar.plainText {c : Char} {bytes : Bytes} (h : SpellsChar c bytes) :
    PlainText bytes := by
  cases h with
  | plain hquote hbackslash hcontrol =>
    exact plainText_of_plain fun _ => plain_of_mem_utf8EncodeChar hquote hbackslash hcontrol
  | letter h => exact .letter h .nil
  | unit h =>
    have hunit := PlainText.unit h .nil
    rwa [List.append_nil] at hunit
  | pair hfirst hsecond =>
    have hunit := PlainText.unit hsecond .nil
    rw [List.append_nil] at hunit
    exact .unit hfirst hunit

/-- A spelled text can be passed over. -/
theorem SpellsText.plainText {s : String} {body : Bytes} (h : SpellsText s body) :
    PlainText body := by
  unfold SpellsText at h
  generalize s.toList = chars at h
  induction h with
  | nil => exact .nil
  | cons hc _ ih => exact hc.plainText.append ih

theorem skipEscape_letter {c : Char} {l : UInt8} (h : (c, l) ∈ letterEscapes) (rest : Bytes) :
    skipEscape (l :: rest) = .ok rest := by
  have hall : ∀ entry ∈ letterEscapes, entry.2 ≠ 0x75 ∧ (shortEscape? entry.2).isSome = true := by
    decide
  obtain ⟨hne, hshort⟩ := hall _ h
  obtain ⟨e, he⟩ := Option.isSome_iff_exists.1 hshort
  unfold skipEscape
  split
  · simp_all
  · simp_all
  · simp_all

/-- What is passed over as an escape is one. -/
theorem plainText_of_skipEscape {bs rest : Bytes} (h : skipEscape bs = .ok rest) :
    ∃ text, bs = text ++ rest ∧ ∀ back, PlainText back → PlainText (0x5c :: (text ++ back)) := by
  have hletters : ∀ k < 256, ∀ e ∈ shortEscape? (UInt8.ofNat k),
      ∃ entry ∈ letterEscapes, entry.2 = UInt8.ofNat k := by
    decide +kernel
  unfold skipEscape at h
  split at h
  · cases h
  · obtain ⟨⟨unit, after⟩, hunit, hnext⟩ := exists_of_bind h
    obtain ⟨digits, rfl, hdigits⟩ := spellsUnit_of_readFourHex hunit
    cases hnext
    exact ⟨0x75 :: digits, rfl, fun back hback => .unit hdigits hback⟩
  · next b tail _ =>
    split at h
    · next e he =>
      cases h
      obtain ⟨⟨c, l⟩, hentry, hl⟩ :=
        hletters b.toNat b.toNat_lt e (by rw [UInt8.ofNat_toNat]; exact he)
      rw [UInt8.ofNat_toNat] at hl
      obtain rfl : l = b := hl
      exact ⟨[l], rfl, fun back hback => .letter hentry hback⟩
    · cases h

/-- A text is passed over up to its quote; the count of its bytes bounds the steps. -/
theorem skipText_of_plainText {body : Bytes} (h : PlainText body) (rest : Bytes) :
    ∀ fuel, body.length < fuel → skipText fuel (body ++ 0x22 :: rest) = .ok rest := by
  induction h with
  | nil =>
    intro fuel hfuel
    obtain ⟨fuel, rfl⟩ : ∃ n, fuel = n + 1 := ⟨fuel - 1, by omega⟩
    simp [skipText]
  | plain hquote hbackslash hcontrol _ ih =>
    intro fuel hfuel
    obtain ⟨fuel, rfl⟩ : ∃ n, fuel = n + 1 := ⟨fuel - 1, by omega⟩
    rw [List.length_cons] at hfuel
    simp [skipText, hquote, hbackslash, hcontrol, ih fuel (by omega)]
  | letter h _ ih =>
    intro fuel hfuel
    obtain ⟨fuel, rfl⟩ : ∃ n, fuel = n + 1 := ⟨fuel - 1, by omega⟩
    simp only [List.length_cons] at hfuel
    simp [skipText, skipEscape_letter h, ih fuel (by omega), bind, Except.bind]
  | unit h _ ih =>
    intro fuel hfuel
    obtain ⟨fuel, rfl⟩ : ∃ n, fuel = n + 1 := ⟨fuel - 1, by omega⟩
    simp only [List.length_cons, List.length_append] at hfuel
    simp [skipText, skipEscape, readFourHex_of_spells h, ih fuel (by omega), bind, Except.bind]

/-- What is passed over as a text is one. -/
theorem plainText_of_skipText (fuel : Nat) {bs rest : Bytes} (h : skipText fuel bs = .ok rest) :
    ∃ body, bs = body ++ 0x22 :: rest ∧ PlainText body := by
  induction fuel generalizing bs with
  | zero => cases h
  | succ fuel ih =>
    cases bs with
    | nil => cases h
    | cons b tail =>
      rw [skipText] at h
      split at h
      · next hquote =>
        cases h
        exact ⟨[], by rw [hquote]; rfl, .nil⟩
      · next hquote =>
        split at h
        · next hbackslash =>
          obtain ⟨after, hescape, hnext⟩ := exists_of_bind h
          obtain ⟨text, rfl, htext⟩ := plainText_of_skipEscape hescape
          obtain ⟨body, rfl, hbody⟩ := ih hnext
          exact ⟨0x5c :: (text ++ body), by rw [hbackslash]; simp, htext body hbody⟩
        · next hbackslash =>
          split at h
          · cases h
          · next hcontrol =>
            obtain ⟨body, rfl, hbody⟩ := ih h
            exact ⟨b :: body, rfl, .plain hquote hbackslash hcontrol hbody⟩

/-! ### Numbers -/

/-- Decimal digits, at least one. -/
def IsDigits (bs : Bytes) : Prop := bs ≠ [] ∧ ∀ b ∈ bs, isDigit b = true

/-- The whole part of a number, without zeros in front. -/
def WholePart (bs : Bytes) : Prop := IsDigits bs ∧ ∀ digits, bs = 0x30 :: digits → digits = []

/-- The fraction of a number, if it has one. -/
def FractionPart (bs : Bytes) : Prop := bs = [] ∨ ∃ digits, IsDigits digits ∧ bs = 0x2e :: digits

/-- The exponent of a number, if it has one. -/
def ExponentPart (bs : Bytes) : Prop :=
  bs = [] ∨ ∃ mark sign digits, (mark = 0x65 ∨ mark = 0x45) ∧
    (sign = [] ∨ sign = [0x2b] ∨ sign = [0x2d]) ∧ IsDigits digits ∧ bs = mark :: (sign ++ digits)

/-- Bytes spell a number. -/
inductive NumberText : Bytes → Prop
  | mk (positive : Bool) {whole fraction exponent : Bytes} (hwhole : WholePart whole)
      (hfraction : FractionPart fraction) (hexponent : ExponentPart exponent) :
      NumberText (signBytes positive ++ (whole ++ (fraction ++ exponent)))

/-- All digits at the front are dropped. -/
theorem dropWhile_digits {digits : Bytes} (hdigits : ∀ b ∈ digits, isDigit b = true) {rest : Bytes}
    (hrest : startsWithDigit rest = false) : (digits ++ rest).dropWhile isDigit = rest := by
  rw [List.dropWhile_append_of_pos hdigits]
  cases rest with
  | nil => rfl
  | cons b rest =>
    have hb : isDigit b = false := hrest
    rw [List.dropWhile_cons_of_neg (by simp [hb])]

/-- Digits and what is behind them. -/
theorem exists_digits (bs : Bytes) : ∃ digits, bs = digits ++ bs.dropWhile isDigit ∧
    (∀ b ∈ digits, isDigit b = true) ∧ (startsWithDigit bs = true → digits ≠ []) := by
  refine ⟨bs.takeWhile isDigit, List.takeWhile_append_dropWhile.symm,
    fun b hb => List.all_eq_true.1 List.all_takeWhile b hb, fun hstarts => ?_⟩
  cases bs with
  | nil => cases hstarts
  | cons b bs =>
    have hb : isDigit b = true := hstarts
    rw [List.takeWhile_cons_of_pos hb]
    exact List.cons_ne_nil _ _

theorem IsDigits.startsWithDigit {digits : Bytes} (h : IsDigits digits) (rest : Bytes) :
    startsWithDigit (digits ++ rest) = true := by
  cases digits with
  | nil => exact absurd rfl h.1
  | cons b digits => exact h.2 b List.mem_cons_self

theorem skipExponent_of_exponent {sign digits rest : Bytes}
    (hsign : sign = [] ∨ sign = [0x2b] ∨ sign = [0x2d]) (hdigits : IsDigits digits)
    (hends : EndsNumber rest) : skipExponent (sign ++ (digits ++ rest)) = .ok rest := by
  cases digits with
  | nil => exact absurd rfl hdigits.1
  | cons b digits =>
    obtain ⟨hb, hmore⟩ := List.forall_mem_cons.1 hdigits.2
    have hne : b ≠ 0x2b ∧ b ≠ 0x2d := by
      constructor <;> (rintro rfl; revert hb; decide)
    have hrest := dropWhile_digits hmore hends.startsWithDigit
    rcases hsign with rfl | rfl | rfl
    · simp [skipExponent, hne.1, hne.2, hb, hrest]
    · simp [skipExponent, hb, hrest]
    · simp [skipExponent, hb, hrest]

/-- A digit and those behind it. -/
theorem exists_digits_of_digit {b : UInt8} (hb : isDigit b = true) (tail : Bytes) :
    ∃ digits, IsDigits digits ∧ b :: tail = digits ++ tail.dropWhile isDigit := by
  obtain ⟨digits, htail, hdigits, -⟩ := exists_digits tail
  refine ⟨b :: digits, ⟨List.cons_ne_nil _ _, List.forall_mem_cons.2 ⟨hb, hdigits⟩⟩, ?_⟩
  rw [List.cons_append, ← htail]

theorem exponent_of_skipExponent {bs rest : Bytes} (h : skipExponent bs = .ok rest) :
    ∃ sign digits, (sign = [] ∨ sign = [0x2b] ∨ sign = [0x2d]) ∧ IsDigits digits ∧
      bs = sign ++ (digits ++ rest) := by
  unfold skipExponent at h
  dsimp only at h
  split at h
  · cases h
  · next b tail htail =>
    split at h
    · next hb =>
      cases h
      obtain ⟨digits, hdigits, heq⟩ := exists_digits_of_digit hb tail
      split at htail
      · exact ⟨[0x2b], digits, .inr (.inl rfl), hdigits, by rw [htail, heq]; rfl⟩
      · exact ⟨[0x2d], digits, .inr (.inr rfl), hdigits, by rw [htail, heq]; rfl⟩
      · exact ⟨[], digits, .inl rfl, hdigits, by rw [htail, heq]; rfl⟩
    · cases h

/-- An exponent is passed over behind its mark. -/
theorem skipExponent_drop {exponent rest : Bytes} (h : ExponentPart exponent)
    (hends : EndsNumber rest) :
    (exponent = [] ∧ startsExponent (exponent ++ rest) = false) ∨
      startsExponent (exponent ++ rest) = true ∧
        skipExponent ((exponent ++ rest).drop 1) = .ok rest := by
  rcases h with rfl | ⟨mark, sign, digits, hmark, hsign, hdigits, rfl⟩
  · exact .inl ⟨rfl, hends.startsExponent⟩
  · refine .inr ⟨?_, ?_⟩
    · rcases hmark with rfl | rfl <;> rfl
    · rw [List.cons_append, List.drop_one, List.tail_cons, List.append_assoc]
      exact skipExponent_of_exponent hsign hdigits hends

/-- What is passed over as an exponent behind its mark is one. -/
theorem exponentPart_of_skipExponent {bs rest : Bytes} (hstarts : startsExponent bs = true)
    (h : skipExponent (bs.drop 1) = .ok rest) :
    ∃ exponent, ExponentPart exponent ∧ bs = exponent ++ rest := by
  cases bs with
  | nil => cases hstarts
  | cons mark tail =>
    simp only [startsExponent, Bool.or_eq_true, beq_iff_eq] at hstarts
    obtain ⟨sign, digits, hsign, hdigits, htail⟩ := exponent_of_skipExponent h
    rw [List.drop_one, List.tail_cons] at htail
    refine ⟨mark :: (sign ++ digits), .inr ⟨mark, sign, digits, hstarts, hsign, hdigits, rfl⟩, ?_⟩
    rw [htail, List.cons_append, List.append_assoc]

/-- What stands behind the whole part or the fraction of a number goes on with no digit. -/
theorem startsWithDigit_exponent {exponent rest : Bytes} (h : ExponentPart exponent)
    (hends : EndsNumber rest) : startsWithDigit (exponent ++ rest) = false := by
  rcases h with rfl | ⟨mark, sign, digits, rfl | rfl, -, -, rfl⟩
  · exact hends.startsWithDigit
  · rfl
  · rfl

/-- An exponent is no fraction. -/
theorem exponent_ne_point {exponent rest : Bytes} (h : ExponentPart exponent)
    (hends : EndsNumber rest) (tail : Bytes) : exponent ++ rest ≠ 0x2e :: tail := by
  rcases h with rfl | ⟨mark, sign, digits, hmark, -, -, rfl⟩
  · exact fun heq => (hends _ _ heq).2.1 rfl
  · rintro heq
    obtain rfl := (List.cons.inj heq).1
    revert hmark
    decide

theorem skipFraction_of_fraction {digits exponent rest : Bytes} (hdigits : IsDigits digits)
    (hexponent : ExponentPart exponent) (hends : EndsNumber rest) :
    skipFraction (digits ++ (exponent ++ rest)) = .ok rest := by
  have hdrop := dropWhile_digits hdigits.2 (startsWithDigit_exponent hexponent hends)
  have hstarts := hdigits.startsWithDigit (exponent ++ rest)
  rcases skipExponent_drop hexponent hends with ⟨rfl, hnone⟩ | ⟨hmark, hskip⟩
  · simp only [skipFraction, hdrop, hstarts, hnone]
    rfl
  · simp only [skipFraction, hdrop, hstarts, hmark, hskip]
    rfl

theorem fraction_of_skipFraction {bs rest : Bytes} (h : skipFraction bs = .ok rest) :
    ∃ digits exponent, IsDigits digits ∧ ExponentPart exponent ∧
      bs = digits ++ (exponent ++ rest) := by
  unfold skipFraction at h
  dsimp only at h
  obtain ⟨digits, hbs, hdigits, hne⟩ := exists_digits bs
  split at h
  · cases h
  · next hstarts =>
    have hsome : IsDigits digits := ⟨hne (by simpa using hstarts), hdigits⟩
    split at h
    · next hmark =>
      obtain ⟨exponent, hexponent, hrest⟩ := exponentPart_of_skipExponent hmark h
      exact ⟨digits, exponent, hsome, hexponent, by rw [← hrest]; exact hbs⟩
    · cases h
      exact ⟨digits, [], hsome, .inl rfl, hbs⟩

/-- A number is passed over behind its sign. -/
theorem skipNumber_of_number {whole fraction exponent rest : Bytes} (hwhole : WholePart whole)
    (hfraction : FractionPart fraction) (hexponent : ExponentPart exponent)
    (hends : EndsNumber rest) :
    skipNumber (whole ++ (fraction ++ (exponent ++ rest))) = .ok rest := by
  obtain ⟨⟨hne, hdigits⟩, hzero⟩ := hwhole
  cases whole with
  | nil => exact absurd rfl hne
  | cons b digits =>
    obtain ⟨hb, hmore⟩ := List.forall_mem_cons.1 hdigits
    have hstops : startsWithDigit (fraction ++ (exponent ++ rest)) = false := by
      rcases hfraction with rfl | ⟨places, -, rfl⟩
      · rw [List.nil_append]
        exact startsWithDigit_exponent hexponent hends
      · rfl
    have hlone :
        ¬ (b = 0x30 ∧ startsWithDigit (digits ++ (fraction ++ (exponent ++ rest))) = true) := by
      rintro ⟨rfl, hdigit⟩
      rw [hzero digits rfl, List.nil_append, hstops] at hdigit
      cases hdigit
    have hdrop := dropWhile_digits hmore hstops
    simp only [List.cons_append, skipNumber, if_neg hlone, hb, Bool.not_true, Bool.false_eq_true,
      if_false, hdrop]
    rcases hfraction with rfl | ⟨places, hplaces, rfl⟩
    · rw [List.nil_append]
      split
      · next places hplaces => exact absurd hplaces (exponent_ne_point hexponent hends places)
      · rcases skipExponent_drop hexponent hends with ⟨rfl, hnone⟩ | ⟨hmark, hskip⟩
        · rw [if_neg (by rw [hnone]; decide)]
          rfl
        · rw [if_pos hmark, hskip]
    · exact skipFraction_of_fraction hplaces hexponent hends

theorem number_of_skipNumber {bs rest : Bytes} (h : skipNumber bs = .ok rest) :
    ∃ whole fraction exponent, WholePart whole ∧ FractionPart fraction ∧ ExponentPart exponent ∧
      bs = whole ++ (fraction ++ (exponent ++ rest)) := by
  cases bs with
  | nil => cases h
  | cons b tail =>
    rw [skipNumber] at h
    split at h
    · cases h
    · next hzero =>
      split at h
      · cases h
      · next hb =>
        have hdigit : isDigit b = true := by simpa using hb
        obtain ⟨digits, htail, hdigits, -⟩ := exists_digits tail
        have hwhole : WholePart (b :: digits) := by
          refine ⟨⟨List.cons_ne_nil _ _, List.forall_mem_cons.2 ⟨hdigit, hdigits⟩⟩, ?_⟩
          -- A zero is the only digit of its number: another one is refused behind it.
          intro more hmore
          obtain ⟨rfl, -⟩ := List.cons.inj hmore
          cases digits with
          | nil => exact (List.cons.inj hmore).2.symm
          | cons d digits =>
            refine absurd ⟨rfl, ?_⟩ hzero
            rw [htail]
            exact hdigits d List.mem_cons_self
        dsimp only at h
        split at h
        · next places hplaces =>
          obtain ⟨fraction, exponent, hfraction, hexponent, hrest⟩ := fraction_of_skipFraction h
          refine ⟨b :: digits, 0x2e :: fraction, exponent, hwhole,
            .inr ⟨fraction, hfraction, rfl⟩, hexponent, ?_⟩
          rw [List.cons_append, List.cons_append, ← hrest, ← hplaces, ← htail]
        · split at h
          · next hmark =>
            obtain ⟨exponent, hexponent, hrest⟩ := exponentPart_of_skipExponent hmark h
            refine ⟨b :: digits, [], exponent, hwhole, .inl rfl, hexponent, ?_⟩
            rw [List.nil_append, List.cons_append, ← hrest, ← htail]
          · cases h
            refine ⟨b :: digits, [], [], hwhole, .inl rfl, .inl rfl, ?_⟩
            rw [List.nil_append, List.nil_append, List.cons_append, ← htail]

/-! ### Values -/

/-- Bytes spell a value: a word, a number, a text, an array or an object. -/
inductive ValueText : Bytes → Prop
  | null : ValueText (utf8 "null")
  | true : ValueText (utf8 "true")
  | false : ValueText (utf8 "false")
  | number {text : Bytes} (h : NumberText text) : ValueText text
  | text {body : Bytes} (h : PlainText body) : ValueText (0x22 :: (body ++ [0x22]))
  | arr {texts : List Bytes} {body : Bytes} (h : HoldsItems true texts body)
      (hall : ∀ text ∈ texts, ValueText text) : ValueText (0x5b :: (body ++ [0x5d]))
  | obj {members : List (Unit × Bytes)} {body : Bytes}
      (h : HoldsMembers (fun _ => PlainText) true members body)
      (hall : ∀ member ∈ members, ValueText member.2) : ValueText (0x7b :: (body ++ [0x7d]))

/-- A number begins with its sign or a digit. -/
theorem NumberText.begins {text : Bytes} (h : NumberText text) :
    ∃ b tail, text = b :: tail ∧ (b = 0x2d ∨ isDigit b = true) := by
  cases h with
  | @mk positive whole _ _ hwhole =>
    obtain ⟨⟨hne, hdigits⟩, -⟩ := hwhole
    cases positive with
    | false => exact ⟨0x2d, _, rfl, .inl rfl⟩
    | true =>
      cases whole with
      | nil => exact absurd rfl hne
      | cons b whole => exact ⟨b, _, rfl, .inr (hdigits b List.mem_cons_self)⟩

theorem ValueText.begins {text : Bytes} (h : ValueText text) :
    ∃ b tail, text = b :: tail ∧ Begins b := by
  cases h with
  | null => exact ⟨0x6e, utf8 "ull", by decide, by decide⟩
  | true => exact ⟨0x74, utf8 "rue", by decide, by decide⟩
  | false => exact ⟨0x66, utf8 "alse", by decide, by decide⟩
  | number h =>
    obtain ⟨b, tail, rfl, rfl | hdigit⟩ := h.begins
    · exact ⟨0x2d, tail, rfl, by decide⟩
    · obtain ⟨hblank, -, -, -, -, hbracket⟩ := digit_ne hdigit
      exact ⟨b, tail, rfl, hblank, hbracket⟩
  | text => exact ⟨0x22, _, rfl, by decide⟩
  | arr => exact ⟨0x5b, _, rfl, by decide⟩
  | obj => exact ⟨0x7b, _, rfl, by decide⟩

theorem ValueText.length_pos {text : Bytes} (h : ValueText text) : 0 < text.length := by
  obtain ⟨b, tail, rfl, -⟩ := h.begins
  exact Nat.succ_pos _

/-! ### Values are passed over -/

/-- A text is passed over where it stands, with no more steps than it has bytes. -/
def PassedOver (text : Bytes) : Prop :=
  ∀ (fuel : Nat) {blanks rest : Bytes}, Blanks blanks → text.length ≤ fuel → EndsNumber rest →
    skipValue fuel (blanks ++ (text ++ rest)) = .ok rest

/-- The blanks in front and the first byte of a value take one step. -/
theorem passedOver_cons {b : UInt8} {tail : Bytes} (hb : isBlank b = false)
    (h : ∀ (fuel : Nat) {rest : Bytes}, tail.length ≤ fuel → EndsNumber rest →
      skipValue (fuel + 1) (b :: (tail ++ rest)) = .ok rest) : PassedOver (b :: tail) := by
  intro fuel blanks rest hblanks hfuel hends
  rw [List.length_cons] at hfuel
  obtain ⟨fuel, rfl⟩ : ∃ n, fuel = n + 1 := ⟨fuel - 1, by omega⟩
  have hstep := h fuel (by omega) hends
  rw [skipValue, skipBlanks_cons hb] at hstep
  rwa [skipValue, skipBlanks_append hblanks, List.cons_append, skipBlanks_cons hb]

theorem passedOver_number {text : Bytes} (h : NumberText text) : PassedOver text := by
  cases h with
  | @mk positive whole _ _ hwhole hfraction hexponent =>
    have hskip {rest : Bytes} (hends : EndsNumber rest) :=
      skipNumber_of_number hwhole hfraction hexponent hends
    obtain ⟨⟨hne, hdigits⟩, -⟩ := hwhole
    cases positive with
    | false =>
      refine passedOver_cons (by decide) fun fuel rest _ hends => ?_
      simp [skipValue, skipBlanks_cons (b := 0x2d) (by decide), hskip hends]
    | true =>
      cases whole with
      | nil => exact absurd rfl hne
      | cons b whole =>
        have hdigit := hdigits b List.mem_cons_self
        obtain ⟨hblank, hn, ht, hf, hminus, -⟩ := digit_ne hdigit
        refine passedOver_cons hblank fun fuel rest _ hends => ?_
        have hnumber := hskip hends
        rw [List.cons_append] at hnumber
        simp [skipValue, skipBlanks_cons hblank, hn, ht, hf, hminus, hdigit, hnumber]

/-- Further items are passed over up to the bracket. -/
theorem skipMoreItems_of_items {texts : List Bytes} (hall : ∀ text ∈ texts, ValueText text)
    (hpass : ∀ text ∈ texts, PassedOver text) {body : Bytes} (h : HoldsItems false texts body)
    (rest : Bytes) :
    ∀ fuel, body.length < fuel → skipMoreItems fuel (body ++ 0x5d :: rest) = .ok rest := by
  induction texts generalizing body with
  | nil =>
    intro fuel hfuel
    obtain ⟨fuel, rfl⟩ : ∃ n, fuel = n + 1 := ⟨fuel - 1, by omega⟩
    cases h with
    | nil hblanks =>
      simp [skipMoreItems, skipBlanks_append hblanks, skipBlanks_cons (b := 0x5d) (by decide)]
  | cons text texts ih =>
    intro fuel hfuel
    obtain ⟨hvalue, hvalues⟩ := List.forall_mem_cons.1 hall
    obtain ⟨htext, htexts⟩ := List.forall_mem_cons.1 hpass
    have hpos := hvalue.length_pos
    cases h with
    | cons hsep hrest =>
      cases hsep with
      | next hfront hback =>
        simp only [List.length_append, List.length_cons] at hfuel
        obtain ⟨fuel, rfl⟩ : ∃ n, fuel = n + 1 := ⟨fuel - 1, by omega⟩
        have hitem := htext fuel hback (by omega) (hrest.endsNumber rest)
        have hmore := ih hvalues htexts hrest fuel (by omega)
        simp [skipMoreItems, skipBlanks_append hfront, skipBlanks_cons (b := 0x2c) (by decide),
          hitem, hmore, bind, Except.bind]

/-- The items of an array are passed over up to the bracket. -/
theorem skipItems_of_items {texts : List Bytes} (hall : ∀ text ∈ texts, ValueText text)
    (hpass : ∀ text ∈ texts, PassedOver text) {body : Bytes} (h : HoldsItems true texts body)
    (rest : Bytes) (fuel : Nat) (hfuel : body.length < fuel) :
    skipItems fuel (body ++ 0x5d :: rest) = .ok rest := by
  obtain ⟨fuel, rfl⟩ : ∃ n, fuel = n + 1 := ⟨fuel - 1, by omega⟩
  cases h with
  | nil hblanks =>
    simp [skipItems, skipBlanks_append hblanks, skipBlanks_cons (b := 0x5d) (by decide)]
  | cons hsep hrest =>
    obtain ⟨hvalue, hvalues⟩ := List.forall_mem_cons.1 hall
    obtain ⟨htext, htexts⟩ := List.forall_mem_cons.1 hpass
    obtain ⟨b, tail, rfl, hblank, hbracket⟩ := hvalue.begins
    cases hsep with
    | first hblanks =>
      simp only [List.length_append, List.length_cons] at hfuel
      have hitem := htext fuel blanks_nil (by rw [List.length_cons]; omega) (hrest.endsNumber rest)
      have hmore := skipMoreItems_of_items hvalues htexts hrest rest fuel (by omega)
      simp only [List.cons_append, List.nil_append] at hitem
      simp [skipItems, skipBlanks_append hblanks, skipBlanks_cons hblank, hbracket, hitem, hmore,
        bind, Except.bind]

/-- A member is passed over: its key, the colon and its value. -/
theorem skipField_of_member {name mid front back text rest : Bytes} (hback : Blanks back)
    (hname : PlainText name) (hmid : Blanks mid) (hfront : Blanks front) (htext : PassedOver text)
    (hends : EndsNumber rest) (fuel : Nat) (hfuel : text.length < fuel) :
    skipField fuel (back ++ 0x22 :: (name ++ 0x22 :: (mid ++ 0x3a :: (front ++ (text ++ rest))))) =
      .ok rest := by
  obtain ⟨fuel, rfl⟩ : ∃ n, fuel = n + 1 := ⟨fuel - 1, by omega⟩
  have hkey := skipText_of_plainText hname (mid ++ 0x3a :: (front ++ (text ++ rest)))
    ((name ++ 0x22 :: (mid ++ 0x3a :: (front ++ (text ++ rest)))).length + 1)
    (by rw [List.length_append]; omega)
  have hvalue := htext fuel hfront (by omega) hends
  simp only [skipField, skipBlanks_append hback, skipBlanks_cons (b := 0x22) (by decide), hkey,
    readColon_append hmid, bind, Except.bind, hvalue]

/-- Further members are passed over up to the brace. -/
theorem skipMoreFields_of_members {members : List (Unit × Bytes)}
    (hpass : ∀ member ∈ members, PassedOver member.2) {body : Bytes}
    (h : HoldsMembers (fun _ => PlainText) false members body) (rest : Bytes) :
    ∀ fuel, body.length < fuel → skipMoreFields fuel (body ++ 0x7d :: rest) = .ok rest := by
  induction members generalizing body with
  | nil =>
    intro fuel hfuel
    obtain ⟨fuel, rfl⟩ : ∃ n, fuel = n + 1 := ⟨fuel - 1, by omega⟩
    cases h with
    | nil hblanks =>
      simp [skipMoreFields, skipBlanks_append hblanks, skipBlanks_cons (b := 0x7d) (by decide)]
  | cons member members ih =>
    intro fuel hfuel
    obtain ⟨htext, htexts⟩ := List.forall_mem_cons.1 hpass
    cases h with
    | cons hsep hkey hmid hfront hrest =>
      cases hsep with
      | next hblanks hback =>
        simp only [List.length_append, List.length_cons] at hfuel
        obtain ⟨fuel, rfl⟩ : ∃ n, fuel = n + 1 := ⟨fuel - 1, by omega⟩
        have hfield := skipField_of_member hback hkey hmid hfront htext (hrest.endsNumber rest) fuel
          (by dsimp only; omega)
        have hmore := ih htexts hrest fuel (by omega)
        simp [skipMoreFields, skipBlanks_append hblanks, skipBlanks_cons (b := 0x2c) (by decide),
          hfield, hmore, bind, Except.bind]

/-- The members of an object are passed over up to the brace. -/
theorem skipFields_of_members {members : List (Unit × Bytes)}
    (hpass : ∀ member ∈ members, PassedOver member.2) {body : Bytes}
    (h : HoldsMembers (fun _ => PlainText) true members body) (rest : Bytes) (fuel : Nat)
    (hfuel : body.length < fuel) : skipFields fuel (body ++ 0x7d :: rest) = .ok rest := by
  obtain ⟨fuel, rfl⟩ : ∃ n, fuel = n + 1 := ⟨fuel - 1, by omega⟩
  cases h with
  | nil hblanks =>
    simp [skipFields, skipBlanks_append hblanks, skipBlanks_cons (b := 0x7d) (by decide)]
  | cons hsep hkey hmid hfront hrest =>
    obtain ⟨htext, htexts⟩ := List.forall_mem_cons.1 hpass
    cases hsep with
    | first hblanks =>
      simp only [List.length_append, List.length_cons] at hfuel
      have hfield := skipField_of_member blanks_nil hkey hmid hfront htext (hrest.endsNumber rest) fuel (by dsimp only; omega)
      have hmore := skipMoreFields_of_members htexts hrest rest fuel (by omega)
      rw [List.nil_append] at hfield
      simp [skipFields, skipBlanks_append hblanks, skipBlanks_cons (b := 0x22) (by decide), hfield,
        hmore, bind, Except.bind]

/-- **Values are passed over.** -/
theorem ValueText.passedOver {text : Bytes} (h : ValueText text) : PassedOver text := by
  induction h with
  | null =>
    show PassedOver (0x6e :: utf8 "ull")
    refine passedOver_cons (by decide) fun fuel rest _ _ => ?_
    rw [skipValue, skipBlanks_cons (by decide)]
    exact readWord_append _ rest
  | true =>
    show PassedOver (0x74 :: utf8 "rue")
    refine passedOver_cons (by decide) fun fuel rest _ _ => ?_
    rw [skipValue, skipBlanks_cons (by decide)]
    exact readWord_append _ rest
  | false =>
    show PassedOver (0x66 :: utf8 "alse")
    refine passedOver_cons (by decide) fun fuel rest _ _ => ?_
    rw [skipValue, skipBlanks_cons (by decide)]
    exact readWord_append _ rest
  | number h => exact passedOver_number h
  | text h =>
    refine passedOver_cons (by decide) fun fuel rest _ _ => ?_
    have htext := skipText_of_plainText h rest
    rw [List.append_assoc, List.cons_append, List.nil_append, skipValue,
      skipBlanks_cons (by decide)]
    exact htext _ (by rw [List.length_append]; omega)
  | arr h hall ih =>
    refine passedOver_cons (by decide) fun fuel rest hfuel _ => ?_
    rw [List.length_append, List.length_singleton] at hfuel
    have hitems := skipItems_of_items hall ih h rest fuel (by omega)
    rwa [List.append_assoc, List.cons_append, List.nil_append, skipValue,
      skipBlanks_cons (by decide)]
  | obj h hall ih =>
    refine passedOver_cons (by decide) fun fuel rest hfuel _ => ?_
    rw [List.length_append, List.length_singleton] at hfuel
    have hmembers := skipFields_of_members ih h rest fuel (by omega)
    rwa [List.append_assoc, List.cons_append, List.nil_append, skipValue,
      skipBlanks_cons (by decide)]

/-- **Where a value ends.** Bytes begin with at most one value that ends there. -/
theorem ValueText.unique {text other rest back : Bytes} (h : ValueText text)
    (hother : ValueText other) (hends : EndsNumber rest) (hback : EndsNumber back)
    (heq : text ++ rest = other ++ back) : text = other ∧ rest = back := by
  have hfirst := h.passedOver (text.length + other.length) blanks_nil (by omega) hends
  have hsecond := hother.passedOver (text.length + other.length) blanks_nil (by omega) hback
  obtain rfl : rest = back := by
    rw [heq, hsecond] at hfirst
    exact (Except.ok.inj hfirst).symm
  exact ⟨List.append_cancel_right heq, rfl⟩

/-! ### What is passed over is a value -/

/-- The word that is read stood there. -/
theorem eq_of_readWord {word bs rest : Bytes} (h : readWord word bs = .ok rest) :
    bs = word ++ rest := by
  induction word generalizing bs with
  | nil => exact Except.ok.inj h
  | cons w word ih =>
    cases bs with
    | nil => cases h
    | cons b tail =>
      rw [readWord] at h
      split at h
      · next hb => rw [hb, ih h, List.cons_append]
      · cases h

mutual

/-- **What is passed over is a value.** -/
theorem valueText_of_skipValue : ∀ (fuel : Nat) {bs rest : Bytes}, skipValue fuel bs = .ok rest →
    ∃ blanks text, Blanks blanks ∧ ValueText text ∧ bs = blanks ++ (text ++ rest)
  | 0, _, _, h => by cases h
  | fuel + 1, bs, rest, h => by
    rw [skipValue] at h
    split at h
    · cases h
    · next b tail hbs =>
      obtain ⟨blanks, hblanks, rfl⟩ := exists_blanks_of_skipBlanks hbs
      -- The first byte tells which kind of value stands here.
      suffices ∃ text, ValueText text ∧ b :: tail = text ++ rest by
        obtain ⟨text, htext, heq⟩ := this
        exact ⟨blanks, text, hblanks, htext, by rw [heq]⟩
      split at h
      · next hb => exact ⟨utf8 "null", .null, by rw [eq_of_readWord h, hb]; rfl⟩
      split at h
      · next hb => exact ⟨utf8 "true", .true, by rw [eq_of_readWord h, hb]; rfl⟩
      split at h
      · next hb => exact ⟨utf8 "false", .false, by rw [eq_of_readWord h, hb]; rfl⟩
      split at h
      · next hb =>
        obtain ⟨whole, fraction, exponent, hwhole, hfraction, hexponent, rfl⟩ :=
          number_of_skipNumber h
        refine ⟨_, .number (.mk false hwhole hfraction hexponent), ?_⟩
        rw [hb]
        simp [signBytes]
      split at h
      · obtain ⟨whole, fraction, exponent, hwhole, hfraction, hexponent, heq⟩ :=
          number_of_skipNumber h
        refine ⟨_, .number (.mk true hwhole hfraction hexponent), ?_⟩
        rw [heq]
        simp [signBytes]
      split at h
      · next hb =>
        obtain ⟨body, rfl, hbody⟩ := plainText_of_skipText _ h
        exact ⟨0x22 :: (body ++ [0x22]), .text hbody, by rw [hb]; simp⟩
      split at h
      · next hb =>
        obtain ⟨texts, body, hitems, hall, rfl⟩ := items_of_skipItems fuel h
        exact ⟨0x5b :: (body ++ [0x5d]), .arr hitems hall, by rw [hb]; simp⟩
      split at h
      · next hb =>
        obtain ⟨members, body, hmembers, hall, rfl⟩ := members_of_skipFields fuel h
        exact ⟨0x7b :: (body ++ [0x7d]), .obj hmembers hall, by rw [hb]; simp⟩
      · cases h

theorem items_of_skipItems : ∀ (fuel : Nat) {bs rest : Bytes}, skipItems fuel bs = .ok rest →
    ∃ texts body, HoldsItems true texts body ∧ (∀ text ∈ texts, ValueText text) ∧
      bs = body ++ 0x5d :: rest
  | 0, _, _, h => by cases h
  | fuel + 1, bs, rest, h => by
    rw [skipItems] at h
    split at h
    · cases h
    · next hbs =>
      cases h
      obtain ⟨blanks, hblanks, rfl⟩ := exists_blanks_of_skipBlanks hbs
      exact ⟨[], blanks, .nil hblanks, fun _ h => (List.not_mem_nil h).elim, rfl⟩
    · obtain ⟨front, hfront, hbs⟩ := exists_blanks bs
      obtain ⟨after, hvalue, hnext⟩ := exists_of_bind h
      obtain ⟨blanks, text, hblanks, htext, heq⟩ := valueText_of_skipValue fuel hvalue
      obtain ⟨texts, body, hitems, hall, rfl⟩ := items_of_skipMoreItems fuel hnext
      refine ⟨text :: texts, (front ++ blanks) ++ (text ++ body),
        .cons (.first (hfront.append hblanks)) hitems, List.forall_mem_cons.2 ⟨htext, hall⟩, ?_⟩
      rw [hbs, heq]
      simp

theorem items_of_skipMoreItems : ∀ (fuel : Nat) {bs rest : Bytes},
    skipMoreItems fuel bs = .ok rest → ∃ texts body, HoldsItems false texts body ∧
      (∀ text ∈ texts, ValueText text) ∧ bs = body ++ 0x5d :: rest
  | 0, _, _, h => by cases h
  | fuel + 1, bs, rest, h => by
    rw [skipMoreItems] at h
    split at h
    · cases h
    · next hbs =>
      cases h
      obtain ⟨blanks, hblanks, rfl⟩ := exists_blanks_of_skipBlanks hbs
      exact ⟨[], blanks, .nil hblanks, fun _ h => (List.not_mem_nil h).elim, rfl⟩
    · next hbs =>
      obtain ⟨front, hfront, rfl⟩ := exists_blanks_of_skipBlanks hbs
      obtain ⟨after, hvalue, hnext⟩ := exists_of_bind h
      obtain ⟨blanks, text, hblanks, htext, rfl⟩ := valueText_of_skipValue fuel hvalue
      obtain ⟨texts, body, hitems, hall, rfl⟩ := items_of_skipMoreItems fuel hnext
      refine ⟨text :: texts, (front ++ 0x2c :: blanks) ++ (text ++ body),
        .cons (.next hfront hblanks) hitems, List.forall_mem_cons.2 ⟨htext, hall⟩, ?_⟩
      simp
    · cases h

theorem members_of_skipFields : ∀ (fuel : Nat) {bs rest : Bytes}, skipFields fuel bs = .ok rest →
    ∃ (members : List (Unit × Bytes)) (body : Bytes),
      HoldsMembers (fun _ => PlainText) true members body ∧
      (∀ member ∈ members, ValueText member.2) ∧ bs = body ++ 0x7d :: rest
  | 0, _, _, h => by cases h
  | fuel + 1, bs, rest, h => by
    rw [skipFields] at h
    split at h
    · cases h
    · next hbs =>
      cases h
      obtain ⟨blanks, hblanks, rfl⟩ := exists_blanks_of_skipBlanks hbs
      exact ⟨[], blanks, .nil hblanks, fun _ h => (List.not_mem_nil h).elim, rfl⟩
    · obtain ⟨before, hbefore, hbs⟩ := exists_blanks bs
      obtain ⟨after, hfield, hnext⟩ := exists_of_bind h
      obtain ⟨blanks, name, mid, front, text, hblanks, hname, hmid, hfront, htext, heq⟩ :=
        member_of_skipField fuel hfield
      obtain ⟨members, body, hmembers, hall, rfl⟩ := members_of_skipMoreFields fuel hnext
      refine ⟨((), text) :: members, _,
        .cons (.first (hbefore.append hblanks)) hname hmid hfront hmembers,
        List.forall_mem_cons.2 ⟨htext, hall⟩, ?_⟩
      rw [hbs, heq]
      simp

theorem members_of_skipMoreFields : ∀ (fuel : Nat) {bs rest : Bytes},
    skipMoreFields fuel bs = .ok rest → ∃ (members : List (Unit × Bytes)) (body : Bytes),
      HoldsMembers (fun _ => PlainText) false members body ∧
      (∀ member ∈ members, ValueText member.2) ∧ bs = body ++ 0x7d :: rest
  | 0, _, _, h => by cases h
  | fuel + 1, bs, rest, h => by
    rw [skipMoreFields] at h
    split at h
    · cases h
    · next hbs =>
      cases h
      obtain ⟨blanks, hblanks, rfl⟩ := exists_blanks_of_skipBlanks hbs
      exact ⟨[], blanks, .nil hblanks, fun _ h => (List.not_mem_nil h).elim, rfl⟩
    · next hbs =>
      obtain ⟨before, hbefore, rfl⟩ := exists_blanks_of_skipBlanks hbs
      obtain ⟨after, hfield, hnext⟩ := exists_of_bind h
      obtain ⟨blanks, name, mid, front, text, hblanks, hname, hmid, hfront, htext, rfl⟩ :=
        member_of_skipField fuel hfield
      obtain ⟨members, body, hmembers, hall, rfl⟩ := members_of_skipMoreFields fuel hnext
      refine ⟨((), text) :: members, _,
        .cons (.next hbefore hblanks) hname hmid hfront hmembers,
        List.forall_mem_cons.2 ⟨htext, hall⟩, ?_⟩
      simp
    · cases h

theorem member_of_skipField : ∀ (fuel : Nat) {bs rest : Bytes}, skipField fuel bs = .ok rest →
    ∃ blanks name mid front text, Blanks blanks ∧ PlainText name ∧ Blanks mid ∧ Blanks front ∧
      ValueText text ∧
      bs = blanks ++ 0x22 :: (name ++ 0x22 :: (mid ++ 0x3a :: (front ++ (text ++ rest))))
  | 0, _, _, h => by cases h
  | fuel + 1, bs, rest, h => by
    rw [skipField] at h
    split at h
    · cases h
    · next hbs =>
      obtain ⟨blanks, hblanks, rfl⟩ := exists_blanks_of_skipBlanks hbs
      obtain ⟨afterKey, hkey, hnext⟩ := exists_of_bind h
      obtain ⟨name, rfl, hname⟩ := plainText_of_skipText _ hkey
      obtain ⟨afterColon, hcolon, hlast⟩ := exists_of_bind hnext
      obtain ⟨mid, hmid, rfl⟩ := colon_of_readColon hcolon
      obtain ⟨front, text, hfront, htext, rfl⟩ := valueText_of_skipValue fuel hlast
      exact ⟨blanks, name, mid, front, text, hblanks, hname, hmid, hfront, htext, rfl⟩
    · cases h

end

end RestorePlugins.Json
