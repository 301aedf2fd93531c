import RestorePlugins.Proofs.Json.Spelling

namespace RestorePlugins.Json

/-!
# Texts and integers that are read are spelled

* `exists_of_bind`, `exists_blanks` — how a reader that succeeds is taken apart.
* `utf8EncodeChar_eq_cons` — only the first byte of a character begins one.
* `spellsText_of_readText` — a text that is read stands there in one of its spellings.
* `decimalInt_of_readNumber` — an integer that is read stands there in decimal digits.
-/

/-- A chain of readers that succeeds begins with one that does. -/
theorem exists_of_bind {ε α β : Type} {first : Except ε α} {next : α → Except ε β} {b : β}
    (h : (first >>= next) = .ok b) : ∃ a, first = .ok a ∧ next a = .ok b := by
  cases first with
  | error e => cases h
  | ok a => exact ⟨a, rfl, h⟩

/-- What stands before the first byte that is no blank. -/
theorem exists_blanks (bs : Bytes) : ∃ blanks, Blanks blanks ∧ bs = blanks ++ skipBlanks bs :=
  ⟨bs.takeWhile isBlank, fun b hb => List.all_eq_true.1 List.all_takeWhile b hb,
    List.takeWhile_append_dropWhile.symm⟩

/-! ### Escapes -/

theorem isHexDigit_of_hexByteValue? {b : UInt8} {n : Nat} (h : hexByteValue? b = some n) :
    IsHexDigit b n := by
  have hall : ∀ k < 256, ∀ m ∈ hexByteValue? (UInt8.ofNat k), IsHexDigit (UInt8.ofNat k) m := by
    decide +kernel
  have hdigit := hall b.toNat b.toNat_lt n
  rw [UInt8.ofNat_toNat] at hdigit
  exact hdigit h

/-- Code units that are read are spelled. -/
theorem spellsUnit_of_readFourHex {bs rest : Bytes} {unit : Nat}
    (h : readFourHex bs = .ok (unit, rest)) :
    ∃ digits, bs = digits ++ rest ∧ SpellsUnit unit digits := by
  unfold readFourHex at h
  split at h
  · next a b c d tail =>
    split at h
    · next n hn =>
      cases h
      simp only [fourHex?, Option.bind_eq_bind, Option.bind_eq_some_iff, Option.pure_def,
        Option.some.injEq] at hn
      obtain ⟨x, hx, y, hy, z, hz, w, hw, rfl⟩ := hn
      exact ⟨[a, b, c, d], rfl, .digits (isHexDigit_of_hexByteValue? hx)
        (isHexDigit_of_hexByteValue? hy) (isHexDigit_of_hexByteValue? hz)
        (isHexDigit_of_hexByteValue? hw)⟩
    · cases h
  · cases h

theorem IsHexDigit.lt {b : UInt8} {n : Nat} (h : IsHexDigit b n) : n < 16 := by
  rcases h with ⟨hlow, -⟩ | ⟨-, hhigh, -⟩ <;> omega

theorem SpellsUnit.lt {unit : Nat} {digits : Bytes} (h : SpellsUnit unit digits) :
    unit < 0x10000 := by
  cases h with
  | digits ha hb hc hd =>
    have hx := ha.lt
    have hy := hb.lt
    have hz := hc.lt
    have hw := hd.lt
    omega

/-- A number outside of the pairs is the code unit of its character. -/
theorem toNat_ofNat_of_valid {n : Nat} (h : n < 0xd800 ∨ 0xdfff < n ∧ n < 0x110000) :
    (Char.ofNat n).toNat = n := by
  have hvalid : n.isValidChar := h
  rw [Char.ofNat, dif_pos hvalid]
  rfl

/-- The second half of a pair that is read is spelled. -/
theorem spellsUnit_of_readLowSurrogate {high : Nat} {bs bytes rest : Bytes}
    (h : readLowSurrogate high bs = .ok (bytes, rest)) :
    ∃ low digits, bs = 0x5c :: 0x75 :: (digits ++ rest) ∧ SpellsUnit low digits ∧
      (0xdc00 ≤ low ∧ low ≤ 0xdfff) ∧
      bytes = codePointBytes (0x10000 + (high - 0xd800) * 0x400 + (low - 0xdc00)) := by
  unfold readLowSurrogate at h
  split at h
  · cases h
  · cases h
  · next tail =>
    obtain ⟨⟨low, after⟩, hunit, hnext⟩ := exists_of_bind h
    obtain ⟨digits, rfl, hdigits⟩ := spellsUnit_of_readFourHex hunit
    dsimp only at hnext
    split at hnext
    · next hlow =>
      obtain ⟨rfl, rfl⟩ := Prod.mk.inj (Except.ok.inj hnext)
      simp only [isLowSurrogate, Bool.and_eq_true, decide_eq_true_eq] at hlow
      exact ⟨low, digits, rfl, hdigits, hlow, rfl⟩
    · cases hnext
  · cases h
  · cases h

/-- An escape that is read by code units is spelled. -/
theorem spellsChar_of_readUnicodeEscape {bs bytes rest : Bytes}
    (h : readUnicodeEscape bs = .ok (bytes, rest)) :
    ∃ c text, bs = text ++ rest ∧ SpellsChar c (0x5c :: 0x75 :: text) ∧
      bytes = String.utf8EncodeChar c := by
  obtain ⟨⟨unit, after⟩, hunit, hnext⟩ := exists_of_bind h
  obtain ⟨digits, rfl, hdigits⟩ := spellsUnit_of_readFourHex hunit
  have hmax := hdigits.lt
  dsimp only at hnext
  split at hnext
  · cases hnext
  · next hnotLow =>
    simp only [isLowSurrogate, Bool.and_eq_true, decide_eq_true_eq] at hnotLow
    split at hnext
    · next hhigh =>
      simp only [isHighSurrogate, Bool.and_eq_true, decide_eq_true_eq] at hhigh
      obtain ⟨low, second, rfl, hsecond, hlow, hbytes⟩ := spellsUnit_of_readLowSurrogate hnext
      have hvalue := toNat_ofNat_of_valid
        (n := 0x10000 + (unit - 0xd800) * 0x400 + (low - 0xdc00)) (by omega)
      refine ⟨Char.ofNat (0x10000 + (unit - 0xd800) * 0x400 + (low - 0xdc00)),
        digits ++ 0x5c :: 0x75 :: second, ?_, .pair hdigits hsecond hhigh hlow hvalue, hbytes⟩
      rw [List.append_assoc, List.cons_append, List.cons_append]
    · next hnotHigh =>
      cases hnext
      simp only [isHighSurrogate, Bool.and_eq_true, decide_eq_true_eq] at hnotHigh
      have hvalue : (Char.ofNat unit).toNat = unit := toNat_ofNat_of_valid (by omega)
      refine ⟨Char.ofNat unit, digits, rfl, .unit ?_, rfl⟩
      rwa [hvalue]

/-- An escape that is read is spelled. -/
theorem spellsChar_of_readEscape {bs bytes rest : Bytes}
    (h : readEscape bs = .ok (bytes, rest)) :
    ∃ c text, bs = text ++ rest ∧ SpellsChar c (0x5c :: text) ∧
      bytes = String.utf8EncodeChar c := by
  have hletters : ∀ k < 256, ∀ e ∈ shortEscape? (UInt8.ofNat k), ∃ entry ∈ letterEscapes,
      entry.2 = UInt8.ofNat k ∧ String.utf8EncodeChar entry.1 = [e] := by
    decide +kernel
  unfold readEscape at h
  split at h
  · cases h
  · obtain ⟨c, text, rfl, hc, hbytes⟩ := spellsChar_of_readUnicodeEscape h
    exact ⟨c, 0x75 :: text, rfl, hc, hbytes⟩
  · next b tail _ =>
    split at h
    · next e he =>
      cases h
      obtain ⟨⟨c, l⟩, hentry, hl, hbytes⟩ :=
        hletters b.toNat b.toNat_lt e (by rw [UInt8.ofNat_toNat]; exact he)
      rw [UInt8.ofNat_toNat] at hl
      obtain rfl : l = b := hl
      exact ⟨c, [l], rfl, .letter hentry, hbytes.symm⟩
    · cases h

/-! ### Characters -/

/-- A byte that goes on with a character. -/
def Continues (b : UInt8) : Prop := 128 ≤ b.toNat ∧ b.toNat < 192

/-- The first byte of a character goes on with none, and all others do. -/
theorem utf8EncodeChar_eq_cons (c : Char) : ∃ b more, String.utf8EncodeChar c = b :: more ∧
    ¬ Continues b ∧ ∀ next ∈ more, Continues next := by
  have hmax : c.val.toNat < 0x110000 := by
    rcases c.valid with hv | hv
    · exact Nat.lt_trans hv (by decide)
    · exact hv.2
  unfold String.utf8EncodeChar
  generalize c.val.toNat = n at hmax
  dsimp only
  have hlast : Continues (UInt8.ofNat (n % 64 + 128)) := by
    simp only [Continues, UInt8.toNat_ofNat']
    omega
  have hthird : Continues (UInt8.ofNat (n / 64 % 64 + 128)) := by
    simp only [Continues, UInt8.toNat_ofNat']
    omega
  have hsecond : Continues (UInt8.ofNat (n / 4096 % 64 + 128)) := by
    simp only [Continues, UInt8.toNat_ofNat']
    omega
  split_ifs
  all_goals
    refine ⟨_, _, rfl, ?_, by
      simp only [List.forall_mem_cons, List.not_mem_nil, false_implies, implies_true, and_true,
        hsecond, hthird, hlast]⟩
    simp only [Continues, UInt8.toNat_ofNat']
    omega

/-- Of two texts that begin alike the first characters are the same, and so is what follows. -/
theorem utf8EncodeChar_append_inj {c d : Char} {x y : Bytes}
    (h : String.utf8EncodeChar c ++ x = String.utf8EncodeChar d ++ y) : c = d ∧ x = y := by
  have hchar : c = d := by
    have hless : ∀ {a b : Char}, a.val.toNat < b.val.toNat → a < b := fun hlt =>
      Char.lt_def.2 (UInt32.lt_iff_toNat_lt.2 hlt)
    rcases Nat.lt_trichotomy c.val.toNat d.val.toNat with hlt | heq | hgt
    · have hbefore := utf8EncodeChar_lt (hless hlt) x y
      rw [h] at hbefore
      exact absurd hbefore (List.lt_irrefl _)
    · exact Char.toNat_inj.1 heq
    · have hbefore := utf8EncodeChar_lt (hless hgt) y x
      rw [h] at hbefore
      exact absurd hbefore (List.lt_irrefl _)
  subst hchar
  exact ⟨rfl, List.append_cancel_left h⟩

/-- The bytes of a character that stands for itself begin with none of the bytes that do not. -/
theorem spellsChar_plain {c : Char} {b : UInt8} {more : Bytes}
    (hbytes : String.utf8EncodeChar c = b :: more) (hquote : b ≠ 0x22) (hbackslash : b ≠ 0x5c)
    (hcontrol : ¬ b < 0x20) : SpellsChar c (b :: more) := by
  have hfacts : c.toNat ≠ 0x22 ∧ c.toNat ≠ 0x5c ∧ 0x20 ≤ c.toNat := by
    rcases utf8EncodeChar_cases c with ⟨hsmall, hself⟩ | ⟨hbig, -⟩
    · rw [hself] at hbytes
      obtain ⟨rfl, -⟩ := List.cons.inj hbytes
      simp only [ne_eq, ← UInt8.toNat_inj, UInt8.lt_iff_toNat_lt, UInt8.reduceToNat,
        UInt8.toNat_ofNat'] at hquote hbackslash hcontrol
      omega
    · omega
  rw [← hbytes]
  exact .plain hfacts.1 hfacts.2.1 hfacts.2.2

/-! ### Texts -/

/-- What the reader of a text does with the bytes in front of it, and what it reads. -/
inductive EscapedStep (fuel : Nat) (rest : Bytes) : Bytes → Bytes → Prop
  /-- A quote ends the text. -/
  | quote : EscapedStep fuel rest (0x22 :: rest) []
  /-- An escape stands for a character. -/
  | escape {c : Char} {text tail bytes : Bytes} (hspells : SpellsChar c (0x5c :: text))
      (hmore : readEscapedWith fuel tail = .ok (bytes, rest)) :
      EscapedStep fuel rest (0x5c :: (text ++ tail)) (String.utf8EncodeChar c ++ bytes)
  /-- Any other byte stands for itself, unless it is a control character. -/
  | plain {b : UInt8} {tail bytes : Bytes} (hquote : b ≠ 0x22) (hbackslash : b ≠ 0x5c)
      (hcontrol : ¬ b < 0x20) (hmore : readEscapedWith fuel tail = .ok (bytes, rest)) :
      EscapedStep fuel rest (b :: tail) (b :: bytes)

theorem escapedStep_of_read {fuel : Nat} {bs bytes rest : Bytes}
    (h : readEscapedWith (fuel + 1) bs = .ok (bytes, rest)) : EscapedStep fuel rest bs bytes := by
  cases bs with
  | nil => cases h
  | cons b tail =>
    rw [readEscapedWith] at h
    split at h
    · next hquote =>
      cases h
      subst hquote
      exact .quote
    · next hquote =>
      split at h
      · next hbackslash =>
        subst hbackslash
        obtain ⟨⟨escaped, after⟩, hescape, hnext⟩ := exists_of_bind h
        obtain ⟨⟨more, last⟩, hmore, hlast⟩ := exists_of_bind hnext
        cases hlast
        obtain ⟨c, text, rfl, hspells, rfl⟩ := spellsChar_of_readEscape hescape
        exact .escape hspells hmore
      · next hbackslash =>
        split at h
        · cases h
        · next hcontrol =>
          obtain ⟨⟨more, last⟩, hmore, hlast⟩ := exists_of_bind h
          cases hlast
          exact .plain hquote hbackslash hcontrol hmore

/-- Bytes that are read up to a quote, and that go on with a character and have whole characters
behind it, stand there as the rest of that character and a spelling of the others.  An escape is a
whole character, so it never stands within one. -/
theorem spellsChars_of_readEscapedWith (fuel : Nat) {bs bytes rest : Bytes}
    (h : readEscapedWith fuel bs = .ok (bytes, rest)) {part : Bytes} {chars : List Char}
    (hpart : ∀ b ∈ part, Continues b)
    (hbytes : bytes = part ++ chars.flatMap String.utf8EncodeChar) :
    ∃ body, bs = part ++ (body ++ 0x22 :: rest) ∧ SpellsChars chars body := by
  induction fuel generalizing bs bytes part chars with
  | zero => cases h
  | succ fuel ih =>
    cases escapedStep_of_read h with
    | quote =>
      -- The text ends, so nothing is left of its characters.
      obtain ⟨rfl, hchars⟩ := List.append_eq_nil_iff.1 hbytes.symm
      cases chars with
      | nil => exact ⟨[], rfl, .nil⟩
      | cons c chars =>
        exact absurd (List.append_eq_nil_iff.1 hchars).1 (utf8EncodeChar_ne_nil c)
    | @escape e text tail more hspells hmore =>
      obtain ⟨first, others, hfirst, hbegins, -⟩ := utf8EncodeChar_eq_cons e
      cases part with
      | cons q part =>
        rw [hfirst] at hbytes
        obtain ⟨rfl, -⟩ := List.cons.inj hbytes
        exact absurd (hpart first List.mem_cons_self) hbegins
      | nil =>
        cases chars with
        | nil => exact absurd (List.append_eq_nil_iff.1 hbytes).1 (utf8EncodeChar_ne_nil e)
        | cons c chars =>
          rw [List.nil_append, List.flatMap_cons] at hbytes
          obtain ⟨rfl, hmoreBytes⟩ := utf8EncodeChar_append_inj hbytes
          have hnone : ∀ b ∈ ([] : Bytes), Continues b := by simp
          obtain ⟨body, rfl, hbody⟩ := ih hmore hnone hmoreBytes
          exact ⟨0x5c :: text ++ body, by simp, .cons hspells hbody⟩
    | @plain b tail more hquote hbackslash hcontrol hmore =>
      cases part with
      | cons q part =>
        obtain ⟨rfl, hmoreBytes⟩ := List.cons.inj hbytes
        obtain ⟨body, rfl, hbody⟩ :=
          ih hmore (fun x hx => hpart x (List.mem_cons_of_mem _ hx)) hmoreBytes
        exact ⟨body, rfl, hbody⟩
      | nil =>
        cases chars with
        | nil => cases hbytes
        | cons c chars =>
          obtain ⟨first, others, hfirst, -, hcontinue⟩ := utf8EncodeChar_eq_cons c
          rw [List.nil_append, List.flatMap_cons, hfirst] at hbytes
          obtain ⟨rfl, hmoreBytes⟩ := List.cons.inj hbytes
          obtain ⟨body, rfl, hbody⟩ := ih hmore hcontinue hmoreBytes
          exact ⟨b :: others ++ body, by simp,
            .cons (spellsChar_plain hfirst hquote hbackslash hcontrol) hbody⟩

/-- **Texts.** A text that is read behind its opening quote is spelled there. -/
theorem spellsText_of_readText {bs rest : Bytes} {s : String} (h : readText bs = .ok (s, rest)) :
    ∃ body, bs = body ++ 0x22 :: rest ∧ SpellsText s body := by
  obtain ⟨⟨bytes, after⟩, hread, hnext⟩ := exists_of_bind h
  dsimp only at hnext
  split at hnext
  · next text htext =>
    cases hnext
    have hbytes : bytes = [] ++ s.toList.flatMap String.utf8EncodeChar := by
      rw [List.nil_append, ← utf8_eq_flatMap, utf8_of_utf8Text? htext]
    exact spellsChars_of_readEscapedWith _ hread (by simp) hbytes
  · cases hnext

/-! ### Digits -/

theorem digitByte_digitValue {b : UInt8} (h : isDigit b = true) :
    digitValue b < 10 ∧ digitByte (digitValue b) = b := by
  have hall : ∀ k < 256, isDigit (UInt8.ofNat k) = true → digitValue (UInt8.ofNat k) < 10 ∧
      digitByte (digitValue (UInt8.ofNat k)) = UInt8.ofNat k := by
    decide +kernel
  have hdigit := hall b.toNat b.toNat_lt
  rw [UInt8.ofNat_toNat] at hdigit
  exact hdigit h

theorem decimal_digitValue {b : UInt8} (h : isDigit b = true) : decimal (digitValue b) = [b] := by
  obtain ⟨hlt, hbyte⟩ := digitByte_digitValue h
  rw [decimal, if_pos hlt, hbyte]

/-- A digit goes on with a positive number. -/
theorem decimal_push {n d : Nat} (hn : 0 < n) (hd : d < 10) :
    decimal (n * 10 + d) = decimal n ++ [digitByte d] := by
  have hten : ¬ n * 10 + d < 10 := by omega
  have hfront : (n * 10 + d) / 10 = n := by omega
  have hlast : (n * 10 + d) % 10 = d := by omega
  rw [decimal, if_neg hten, hfront, hlast]

/-- The digits behind a positive number stand behind its own digits. -/
theorem decimal_ofDigits {front : Nat} (hfront : 0 < front) {digits : Bytes}
    (hdigits : ∀ b ∈ digits, isDigit b = true) :
    decimal (ofDigits front digits) = decimal front ++ digits := by
  induction digits generalizing front with
  | nil => rw [List.append_nil]; rfl
  | cons b digits ih =>
    obtain ⟨hlt, hbyte⟩ := digitByte_digitValue (hdigits b List.mem_cons_self)
    have hnext : 0 < front * 10 + digitValue b := by omega
    have hmore := ih hnext
      fun c hc => hdigits c (List.mem_cons_of_mem b hc)
    show decimal (ofDigits (front * 10 + digitValue b) digits) = _
    rw [hmore, decimal_push hfront hlt, hbyte, List.append_assoc, List.singleton_append]

/-- The digits that are taken stand at the front. -/
theorem exists_digits_of_takeDigits (front taken : Nat) (bs : Bytes) :
    ∃ digits, bs = digits ++ (takeDigits front taken bs).2.2 ∧
      (∀ b ∈ digits, isDigit b = true) ∧ (takeDigits front taken bs).1 = ofDigits front digits := by
  induction bs generalizing front taken with
  | nil => exact ⟨[], rfl, by simp, rfl⟩
  | cons b bs ih =>
    rw [takeDigits]
    split
    · next htake =>
      obtain ⟨digits, hbs, hdigits, hvalue⟩ := ih (front * 10 + digitValue b) (taken + 1)
      simp only [Bool.and_eq_true] at htake
      refine ⟨b :: digits, ?_, List.forall_mem_cons.2 ⟨htake.1, hdigits⟩, hvalue⟩
      rw [List.cons_append, ← hbs]
    · exact ⟨[], rfl, by simp, rfl⟩

/-! ### Integers -/

/-- A fraction or an exponent makes no integer. -/
theorem finish_ne_int (positive : Bool) (significand : Nat) (power : Int) (bs rest : Bytes)
    (i : Int) : finish positive significand power bs ≠ .ok (.int i, rest) := by
  intro h
  unfold finish at h
  split at h <;> cases h

theorem readExponent_ne_int (positive : Bool) (significand : Nat) (start : Int) (bs rest : Bytes)
    (i : Int) : readExponent positive significand start bs ≠ .ok (.int i, rest) := by
  intro h
  unfold readExponent at h
  dsimp only at h
  split at h
  · cases h
  · split at h
    · cases h
    · split at h
      · exact finish_ne_int _ _ _ _ _ _ h
      · -- The exponent is too large to be told apart, behind either sign or none.
        split at h
        all_goals
          split at h
          · cases h
          · exact finish_ne_int _ _ _ _ _ _ h

theorem readFraction_ne_int (positive : Bool) (significand : Nat) (start : Int) (bs rest : Bytes)
    (i : Int) : readFraction positive significand start bs ≠ .ok (.int i, rest) := by
  intro h
  unfold readFraction at h
  dsimp only at h
  split at h
  · cases h
  · split at h
    · exact readExponent_ne_int _ _ _ _ _ _ h
    · exact finish_ne_int _ _ _ _ _ _ h

/-- An integer has neither a fraction nor an exponent, and no digits that do not count. -/
theorem readTail_eq_int {positive : Bool} {n power : Nat} {bs rest : Bytes} {i : Int}
    (h : readTail positive n power bs = .ok (.int i, rest)) :
    power = 0 ∧ bs = rest ∧ (positive = true ∧ i = n ∨ positive = false ∧ 0 < n ∧ i = -n) := by
  unfold readTail at h
  split at h
  · exact absurd h (readFraction_ne_int _ _ _ _ _ _)
  · split at h
    · exact absurd h (readExponent_ne_int _ _ _ _ _ _)
    · split at h
      · exact absurd h (finish_ne_int _ _ _ _ _ _)
      · next hpower =>
        split at h
        · next hpositive =>
          cases h
          exact ⟨by omega, rfl, .inl ⟨hpositive, rfl⟩⟩
        · next hnegative =>
          split at h
          · exact absurd h (finish_ne_int _ _ _ _ _ _)
          · next hrange =>
            cases h
            exact ⟨by omega, rfl, .inr ⟨by simpa using hnegative, by omega, rfl⟩⟩

/-- The bytes in front of a number of a given sign. -/
def signBytes (positive : Bool) : Bytes := if positive then [] else [0x2d]

/-- A number with its sign, where a negative one is not zero. -/
theorem decimalInt_of_sign {positive : Bool} {n : Nat} {i : Int}
    (h : positive = true ∧ i = n ∨ positive = false ∧ 0 < n ∧ i = -n) :
    decimalInt i = signBytes positive ++ decimal n := by
  rcases h with ⟨rfl, rfl⟩ | ⟨rfl, hpos, rfl⟩
  · have hsign : ¬ (n : Int) < 0 := by omega
    rw [decimalInt, if_neg hsign]
    rfl
  · have hsign : -(n : Int) < 0 := by omega
    rw [decimalInt, if_pos hsign, Int.natAbs_neg]
    rfl

/-- **Integers.** An integer that is read behind its sign stands there in decimal digits. -/
theorem decimalInt_of_readNumber {positive : Bool} {bs rest : Bytes} {i : Int}
    (h : readNumber positive bs = .ok (.int i, rest)) :
    signBytes positive ++ bs = decimalInt i ++ rest := by
  cases bs with
  | nil => cases h
  | cons b tail =>
    rw [readNumber] at h
    split at h
    · next hzero =>
      split at h
      · cases h
      · obtain ⟨-, rfl, hvalue⟩ := readTail_eq_int h
        rw [decimalInt_of_sign hvalue, decimal_zero, hzero, List.append_assoc]
        rfl
    · next hzero =>
      split at h
      · next hdigit =>
        obtain ⟨digits, htail, hdigits, hnumber⟩ :=
          exists_digits_of_takeDigits (digitValue b) 1 tail
        dsimp only at h
        obtain ⟨hfurther, hrest, hvalue⟩ := readTail_eq_int h
        -- No digit was left, so what was not taken is what follows the number.
        have hleft : (takeDigits (digitValue b) 1 tail).2.2 = rest := by
          have happend := List.takeWhile_append_dropWhile (p := isDigit)
            (l := (takeDigits (digitValue b) 1 tail).2.2)
          rw [List.length_eq_zero_iff.1 hfurther, hrest] at happend
          exact happend.symm
        have hfirst : 0 < digitValue b := by
          obtain ⟨-, hbyte⟩ := digitByte_digitValue hdigit
          rcases Nat.eq_zero_or_pos (digitValue b) with hnone | hpos
          · rw [hnone] at hbyte
            exact absurd hbyte.symm hzero
          · exact hpos
        rw [hnumber] at hvalue
        rw [decimalInt_of_sign hvalue, decimal_ofDigits hfirst hdigits, decimal_digitValue hdigit,
          htail, hleft]
        simp
      · cases h

end RestorePlugins.Json
