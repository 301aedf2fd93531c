import RestorePlugins.Json.Printer
import RestorePlugins.Json.Scan
import RestorePlugins.Proofs.Text.ByteOrder

namespace RestorePlugins.Json

/-!
# Spelled texts are read

A character of a text stands for itself, or is spelled by a letter, by its code unit or by a pair of
code units, whose digits are of either case.

* `SpellsChar`, `SpellsText` — bytes spell a character, and a text.
* `readText_of_spells` — a spelled text is read as that text, whatever stands behind it.
* `spellsText_escapeBytes` — the body of a quoted text spells it.
-/

/-! ### Spellings -/

/-- A byte is a hexadecimal digit for a number below sixteen. -/
def IsHexDigit (b : UInt8) (n : Nat) : Prop :=
  (n < 10 ∧ b = UInt8.ofNat (48 + n)) ∨
    (10 ≤ n ∧ n < 16 ∧ (b = UInt8.ofNat (87 + n) ∨ b = UInt8.ofNat (55 + n)))

instance (b : UInt8) (n : Nat) : Decidable (IsHexDigit b n) := inferInstanceAs (Decidable (_ ∨ _))

/-- Four digits spell a code unit. -/
inductive SpellsUnit : Nat → Bytes → Prop
  | digits {a b c d : UInt8} {x y z w : Nat} (ha : IsHexDigit a x) (hb : IsHexDigit b y)
      (hc : IsHexDigit c z) (hd : IsHexDigit d w) :
      SpellsUnit (((x * 16 + y) * 16 + z) * 16 + w) [a, b, c, d]

/-- The characters that a letter stands for behind a backslash. -/
def letterEscapes : List (Char × UInt8) :=
  [(Char.ofNat 0x22, 0x22), (Char.ofNat 0x5c, 0x5c), (Char.ofNat 0x2f, 0x2f),
    (Char.ofNat 0x08, 0x62), (Char.ofNat 0x0c, 0x66), (Char.ofNat 0x0a, 0x6e),
    (Char.ofNat 0x0d, 0x72), (Char.ofNat 0x09, 0x74)]

/-- Bytes spell a character: as it is, unless it is a quote, a backslash or a control character; by a
letter; by its code unit; or by the pair of code units of a character beyond them. -/
inductive SpellsChar : Char → Bytes → Prop
  | plain {c : Char} (hquote : c.toNat ≠ 0x22) (hbackslash : c.toNat ≠ 0x5c)
      (hcontrol : 0x20 ≤ c.toNat) : SpellsChar c (String.utf8EncodeChar c)
  | letter {c : Char} {l : UInt8} (h : (c, l) ∈ letterEscapes) : SpellsChar c [0x5c, l]
  | unit {c : Char} {digits : Bytes} (h : SpellsUnit c.toNat digits) :
      SpellsChar c (0x5c :: 0x75 :: digits)
  | pair {c : Char} {high low : Nat} {first second : Bytes} (hfirst : SpellsUnit high first)
      (hsecond : SpellsUnit low second) (hhigh : 0xd800 ≤ high ∧ high ≤ 0xdbff)
      (hlow : 0xdc00 ≤ low ∧ low ≤ 0xdfff)
      (hc : c.toNat = 0x10000 + (high - 0xd800) * 0x400 + (low - 0xdc00)) :
      SpellsChar c (0x5c :: 0x75 :: (first ++ 0x5c :: 0x75 :: second))

/-- Bytes spell characters one after the other. -/
inductive SpellsChars : List Char → Bytes → Prop
  | nil : SpellsChars [] []
  | cons {c : Char} {chars : List Char} {bytes rest : Bytes} (hc : SpellsChar c bytes)
      (hrest : SpellsChars chars rest) : SpellsChars (c :: chars) (bytes ++ rest)

/-- Bytes spell a text between its quotes. -/
def SpellsText (s : String) (body : Bytes) : Prop := SpellsChars s.toList body

/-! ### Escapes are read -/

theorem hexByteValue?_of_isHexDigit {b : UInt8} {n : Nat} (h : IsHexDigit b n) :
    hexByteValue? b = some n := by
  have hdecimal : ∀ n < 10, hexByteValue? (UInt8.ofNat (48 + n)) = some n := by decide
  have hlower : ∀ n < 16, 10 ≤ n → hexByteValue? (UInt8.ofNat (87 + n)) = some n := by decide
  have hupper : ∀ n < 16, 10 ≤ n → hexByteValue? (UInt8.ofNat (55 + n)) = some n := by decide
  rcases h with ⟨hn, rfl⟩ | ⟨hlow, hn, rfl | rfl⟩
  · exact hdecimal n hn
  · exact hlower n hn hlow
  · exact hupper n hn hlow

/-- Spelled code units are read. -/
theorem readFourHex_of_spells {unit : Nat} {digits : Bytes} (h : SpellsUnit unit digits)
    (rest : Bytes) : readFourHex (digits ++ rest) = .ok (unit, rest) := by
  cases h with
  | digits ha hb hc hd =>
    simp [readFourHex, fourHex?, hexByteValue?_of_isHexDigit ha, hexByteValue?_of_isHexDigit hb,
      hexByteValue?_of_isHexDigit hc, hexByteValue?_of_isHexDigit hd]

/-- The code unit of a character belongs to no pair. -/
theorem not_surrogate (c : Char) :
    isLowSurrogate c.toNat = false ∧ isHighSurrogate c.toNat = false := by
  have hvalid : c.toNat < 0xd800 ∨ 0xdfff < c.toNat := c.valid.imp_right And.left
  constructor
  · simp only [isLowSurrogate, Bool.and_eq_false_iff, decide_eq_false_iff_not]
    omega
  · simp only [isHighSurrogate, Bool.and_eq_false_iff, decide_eq_false_iff_not]
    omega

theorem codePointBytes_toNat (c : Char) : codePointBytes c.toNat = String.utf8EncodeChar c := by
  rw [codePointBytes, Char.ofNat_toNat]

theorem readEscape_letter {c : Char} {l : UInt8} (h : (c, l) ∈ letterEscapes) (rest : Bytes) :
    readEscape (l :: rest) = .ok (String.utf8EncodeChar c, rest) := by
  have hall : ∀ entry ∈ letterEscapes, entry.2 ≠ 0x75 ∧
      shortEscape? entry.2 = some (UInt8.ofNat entry.1.toNat) ∧
      String.utf8EncodeChar entry.1 = [UInt8.ofNat entry.1.toNat] := by decide
  obtain ⟨hne, hshort, hbytes⟩ := hall _ h
  unfold readEscape
  split
  · simp_all
  · simp_all
  · simp_all

theorem readEscape_unit {c : Char} {digits : Bytes} (h : SpellsUnit c.toNat digits)
    (rest : Bytes) :
    readEscape (0x75 :: (digits ++ rest)) = .ok (String.utf8EncodeChar c, rest) := by
  obtain ⟨hlow, hhigh⟩ := not_surrogate c
  simp [readEscape, readUnicodeEscape, readFourHex_of_spells h, hlow, hhigh,
    codePointBytes_toNat, bind, Except.bind]

theorem readEscape_pair {c : Char} {high low : Nat} {first second : Bytes}
    (hfirst : SpellsUnit high first) (hsecond : SpellsUnit low second)
    (hhigh : 0xd800 ≤ high ∧ high ≤ 0xdbff) (hlow : 0xdc00 ≤ low ∧ low ≤ 0xdfff)
    (hc : c.toNat = 0x10000 + (high - 0xd800) * 0x400 + (low - 0xdc00)) (rest : Bytes) :
    readEscape (0x75 :: (first ++ 0x5c :: 0x75 :: (second ++ rest))) =
      .ok (String.utf8EncodeChar c, rest) := by
  have hnot : isLowSurrogate high = false := by
    simp only [isLowSurrogate, Bool.and_eq_false_iff, decide_eq_false_iff_not]
    omega
  have hisHigh : isHighSurrogate high = true := by
    simp only [isHighSurrogate, Bool.and_eq_true, decide_eq_true_eq]
    exact hhigh
  have hisLow : isLowSurrogate low = true := by
    simp only [isLowSurrogate, Bool.and_eq_true, decide_eq_true_eq]
    exact hlow
  simp [readEscape, readUnicodeEscape, readLowSurrogate, readFourHex_of_spells hfirst,
    readFourHex_of_spells hsecond, hnot, hisHigh, hisLow, ← hc, codePointBytes_toNat, bind,
    Except.bind]

/-! ### Characters are read -/

/-- What is read behind some bytes, with those bytes in front. -/
def behind (bytes : Bytes) (read : Except Fault (Bytes × Bytes)) : Except Fault (Bytes × Bytes) :=
  read.map fun (tail, rest) => (bytes ++ tail, rest)

/-- An escape is read, and then what stands behind it. -/
theorem readEscapedWith_escape {bs bytes rest : Bytes} (h : readEscape bs = .ok (bytes, rest))
    (fuel : Nat) :
    readEscapedWith (fuel + 1) (0x5c :: bs) = behind bytes (readEscapedWith fuel rest) := by
  simp only [readEscapedWith, h, bind, Except.bind, behind]
  cases readEscapedWith fuel rest <;> simp [Except.map]

/-- Bytes that stand for themselves are read, and then what stands behind them. -/
theorem readEscapedWith_plain {bytes : Bytes}
    (h : ∀ b ∈ bytes, b ≠ 0x22 ∧ b ≠ 0x5c ∧ ¬ b < 0x20) (fuel : Nat) (rest : Bytes) :
    readEscapedWith (fuel + bytes.length) (bytes ++ rest) =
      behind bytes (readEscapedWith fuel rest) := by
  induction bytes with
  | nil => cases hread : readEscapedWith fuel rest <;> simp [behind, Except.map, hread]
  | cons b bytes ih =>
    obtain ⟨hquote, hbackslash, hcontrol⟩ := h b List.mem_cons_self
    have hmore := ih fun other hother => h other (List.mem_cons_of_mem b hother)
    rw [List.length_cons, ← Nat.add_assoc, List.cons_append, readEscapedWith]
    simp only [hquote, hbackslash, hcontrol, if_false, hmore, bind, Except.bind, behind]
    cases readEscapedWith fuel rest <;> simp [Except.map]

/-- A character has one byte below 128, or its bytes are all at least 128. -/
theorem utf8EncodeChar_cases (c : Char) :
    (c.toNat < 128 ∧ String.utf8EncodeChar c = [UInt8.ofNat c.toNat]) ∨
      (128 ≤ c.toNat ∧ ∀ b ∈ String.utf8EncodeChar c, 128 ≤ b.toNat) := by
  unfold String.utf8EncodeChar
  show (c.val.toNat < 128 ∧ _) ∨ (128 ≤ c.val.toNat ∧ _)
  rw [show c.toNat = c.val.toNat from rfl]
  generalize c.val.toNat = n
  dsimp only
  split_ifs with h
  · exact .inl ⟨by omega, rfl⟩
  all_goals
    refine .inr ⟨by omega, ?_⟩
    simp only [List.forall_mem_cons, List.not_mem_nil, false_implies, implies_true, and_true,
      UInt8.toNat_ofNat']
    omega

/-- The bytes of a character that stands for itself do so as well. -/
theorem plain_of_mem_utf8EncodeChar {c : Char} (hquote : c.toNat ≠ 0x22) (hbackslash : c.toNat ≠ 0x5c)
    (hcontrol : 0x20 ≤ c.toNat) {b : UInt8} (hb : b ∈ String.utf8EncodeChar c) :
    b ≠ 0x22 ∧ b ≠ 0x5c ∧ ¬ b < 0x20 := by
  have hvalue : b.toNat = c.toNat ∨ 128 ≤ b.toNat := by
    rcases utf8EncodeChar_cases c with ⟨hsmall, hbytes⟩ | ⟨-, hbytes⟩
    · rw [hbytes, List.mem_singleton] at hb
      rw [hb, UInt8.toNat_ofNat']
      exact .inl (Nat.mod_eq_of_lt (by omega))
    · exact .inr (hbytes b hb)
  simp only [ne_eq, ← UInt8.toNat_inj, UInt8.lt_iff_toNat_lt, UInt8.reduceToNat]
  omega

/-- A spelled character is read, and then what stands behind it. -/
theorem readEscapedWith_of_spells {c : Char} {bytes : Bytes} (h : SpellsChar c bytes) :
    ∃ steps, steps ≤ bytes.length ∧ ∀ fuel rest, readEscapedWith (fuel + steps) (bytes ++ rest) =
      behind (String.utf8EncodeChar c) (readEscapedWith fuel rest) := by
  cases h with
  | plain hquote hbackslash hcontrol =>
    exact ⟨_, Nat.le_refl _, readEscapedWith_plain fun _ =>
      plain_of_mem_utf8EncodeChar hquote hbackslash hcontrol⟩
  | letter h =>
    exact ⟨1, by simp, fun fuel rest => readEscapedWith_escape (readEscape_letter h rest) fuel⟩
  | unit h =>
    exact ⟨1, by simp, fun fuel rest => readEscapedWith_escape (readEscape_unit h rest) fuel⟩
  | pair hfirst hsecond hhigh hlow hc =>
    refine ⟨1, by simp, fun fuel rest => ?_⟩
    rw [List.cons_append, List.cons_append, List.append_assoc]
    exact readEscapedWith_escape (readEscape_pair hfirst hsecond hhigh hlow hc rest) fuel

/-- Spelled characters with a quote behind them are read as their bytes. -/
theorem readEscapedWith_of_spellsChars {chars : List Char} {body : Bytes}
    (h : SpellsChars chars body) (rest : Bytes) : ∀ fuel, body.length < fuel →
      readEscapedWith fuel (body ++ 0x22 :: rest) =
        .ok (chars.flatMap String.utf8EncodeChar, rest) := by
  induction h with
  | nil =>
    intro fuel hfuel
    obtain ⟨fuel, rfl⟩ : ∃ n, fuel = n + 1 := ⟨fuel - 1, by omega⟩
    simp [readEscapedWith]
  | @cons c chars bytes more hc _ ih =>
    intro fuel hfuel
    obtain ⟨steps, hsteps, hread⟩ := readEscapedWith_of_spells hc
    rw [List.length_append] at hfuel
    obtain ⟨left, rfl⟩ : ∃ n, fuel = n + steps := ⟨fuel - steps, by omega⟩
    rw [List.append_assoc, hread, ih left (by omega)]
    rfl

/-! ### Texts are read -/

/-- **Texts.** A spelled text is read behind its opening quote. -/
theorem readText_of_spells {s : String} {body : Bytes} (h : SpellsText s body) (rest : Bytes) :
    readText (body ++ 0x22 :: rest) = .ok (s, rest) := by
  have hread : readEscaped (body ++ 0x22 :: rest) = .ok (utf8 s, rest) := by
    rw [utf8_eq_flatMap]
    refine readEscapedWith_of_spellsChars h rest _ ?_
    simp only [List.length_append, List.length_cons]
    omega
  simp [readText, hread, bind, Except.bind]

/-! ### Quoted texts -/

/-- The digits of a control character. -/
theorem isHexDigit_control : ∀ n < 32,
    IsHexDigit (UInt8.ofNat (48 + n / 16)) (n / 16) ∧
      IsHexDigit (UInt8.ofNat (hexDigit (n % 16)).toNat) (n % 16) := by
  decide

/-- A byte that is a character has a letter, or is another control character, or stands for itself. -/
theorem escapeByte_cases : ∀ n < 128,
    (∃ entry ∈ letterEscapes, entry.1.toNat = n ∧ escapeByte (UInt8.ofNat n) = [0x5c, entry.2]) ∨
      (n < 32 ∧ escapeByte (UInt8.ofNat n) = [0x5c, 0x75, 0x30, 0x30, UInt8.ofNat (48 + n / 16),
        UInt8.ofNat (hexDigit (n % 16)).toNat]) ∨
      ((n ≠ 0x22 ∧ n ≠ 0x5c ∧ 0x20 ≤ n) ∧ escapeByte (UInt8.ofNat n) = [UInt8.ofNat n]) := by
  decide +kernel

/-- A byte of a longer character stands for itself. -/
theorem escapeByte_of_high {b : UInt8} (h : 128 ≤ b.toNat) : escapeByte b = [b] := by
  have hall : ∀ n < 256, 128 ≤ n → escapeByte (UInt8.ofNat n) = [UInt8.ofNat n] := by
    decide +kernel
  simpa using hall b.toNat b.toNat_lt h

/-- The escape of a character of one byte spells it. -/
theorem spellsChar_escapeByte {c : Char} (h : c.toNat < 128) :
    SpellsChar c (escapeByte (UInt8.ofNat c.toNat)) := by
  rcases escapeByte_cases c.toNat h with
    ⟨⟨d, l⟩, hmem, hd, hbytes⟩ | ⟨hlt, hbytes⟩ | ⟨⟨hquote, hbackslash, hcontrol⟩, hbytes⟩
  · rw [hbytes]
    obtain rfl : d = c := Char.toNat_inj.1 hd
    exact .letter hmem
  · obtain ⟨hhigh, hlow⟩ := isHexDigit_control c.toNat hlt
    have hzero : IsHexDigit 0x30 0 := by decide
    have hunit := SpellsUnit.digits hzero hzero hhigh hlow
    rw [show ((0 * 16 + 0) * 16 + c.toNat / 16) * 16 + c.toNat % 16 = c.toNat by omega] at hunit
    rw [hbytes]
    exact .unit hunit
  · rcases utf8EncodeChar_cases c with ⟨-, hself⟩ | ⟨hbig, -⟩
    · rw [hbytes, ← hself]
      exact .plain hquote hbackslash hcontrol
    · omega

/-- The escaped bytes of a character spell it. -/
theorem spellsChar_escapeBytes (c : Char) : SpellsChar c (escapeBytes (String.utf8EncodeChar c)) := by
  rcases utf8EncodeChar_cases c with ⟨hsmall, hbytes⟩ | ⟨hbig, hbytes⟩
  · rw [hbytes, escapeBytes, List.flatMap_singleton]
    exact spellsChar_escapeByte hsmall
  · have hkept : ∀ b ∈ String.utf8EncodeChar c, escapeByte b = [b] := fun b hb =>
      escapeByte_of_high (hbytes b hb)
    rw [escapeBytes, List.flatMap_congr hkept, List.flatMap_singleton']
    exact .plain (by omega) (by omega) (by omega)

/-- **Quoted texts.** The body of a quoted text spells it. -/
theorem spellsText_escapeBytes (s : String) : SpellsText s (escapeBytes (utf8 s)) := by
  have hall : ∀ chars : List Char,
      SpellsChars chars (escapeBytes (chars.flatMap String.utf8EncodeChar)) := by
    intro chars
    induction chars with
    | nil => exact .nil
    | cons c chars ih =>
      rw [List.flatMap_cons, escapeBytes, List.flatMap_append]
      exact .cons (spellsChar_escapeBytes c) ih
  rw [utf8_eq_flatMap]
  exact hall s.toList

/-- A quoted text begins with a quote. -/
theorem quote_append (s : String) (rest : Bytes) :
    quote s ++ rest = 0x22 :: (escapeBytes (utf8 s) ++ 0x22 :: rest) := by
  simp [quote]

end RestorePlugins.Json
