namespace RestorePlugins

/-!
# Bytes and their text

Files, sockets and databases hold bytes; names and fields hold text.

* `utf8 s` — the bytes of a text.
* `utf8Text? bs` — the text of the bytes, when they are well-formed UTF-8.
* `illFormedPart bs` — the bytes from the first one on that starts no character.
* `hex`, `unhex?` — two lower-case digits a byte, and back.
-/

/-- A run of bytes, as it lies in a file or travels on a socket. -/
abbrev Bytes := List UInt8

/-- The UTF-8 form of a text. -/
def utf8 (s : String) : Bytes := s.toByteArray.data.toList

/-- The text whose UTF-8 form is `bs`, when `bs` is well-formed. -/
def utf8Text? (bs : Bytes) : Option String := String.fromUTF8? ⟨bs.toArray⟩

/-- Every text is read back from its own bytes. -/
@[simp] theorem utf8Text?_utf8 (s : String) : utf8Text? (utf8 s) = some s := by
  simp [utf8Text?, utf8, String.fromUTF8?, s.isValidUTF8, String.fromUTF8]

/-- Bytes that have a text are the bytes of that text. -/
theorem utf8_of_utf8Text? {bs : Bytes} {s : String} (h : utf8Text? bs = some s) : utf8 s = bs := by
  simp only [utf8Text?, String.fromUTF8?] at h
  split at h
  · cases h; simp [utf8, String.fromUTF8]
  · cases h

/-! ### Ill-formed bytes -/

/-- The count of bytes of the character that `bs` starts with, if it starts with one. -/
def leadingLength? (bs : Bytes) : Option Nat :=
  [1, 2, 3, 4].find? fun n => n ≤ bs.length && (utf8Text? (bs.take n)).isSome

theorem leadingLength?_le {bs : Bytes} {n : Nat} (h : leadingLength? bs = some n) :
    0 < n ∧ n ≤ bs.length := by
  have hp := List.find?_some h
  have hm := List.mem_of_find?_eq_some h
  simp only [Bool.and_eq_true, decide_eq_true_eq] at hp
  refine ⟨?_, hp.1⟩
  simp only [List.mem_cons, List.not_mem_nil, or_false] at hm
  omega

/-- The bytes from the first one on that starts no character; none if `bs` is well-formed. -/
def illFormedPart (bs : Bytes) : Bytes :=
  match _found : leadingLength? bs with
  | none => bs
  | some n => illFormedPart (bs.drop n)
termination_by bs.length
decreasing_by
  have := leadingLength?_le _found
  simp only [List.length_drop]
  omega

/-! ### Hexadecimal -/

/-- The lower-case digit of a number below sixteen. -/
def hexDigit (n : Nat) : Char := Char.ofNat (if n < 10 then n + 48 else n + 87)

/-- The number that a digit of either case stands for. -/
def hexValue? (c : Char) : Option Nat :=
  if '0' ≤ c ∧ c ≤ '9' then some (c.toNat - 48)
  else if 'a' ≤ c ∧ c ≤ 'f' then some (c.toNat - 87)
  else if 'A' ≤ c ∧ c ≤ 'F' then some (c.toNat - 55)
  else none

/-- Two digits for each byte. -/
def hexDigits (bs : Bytes) : List Char :=
  bs.flatMap fun b => [hexDigit (b.toNat / 16), hexDigit (b.toNat % 16)]

/-- The bytes as a text of hexadecimal digits. -/
def hex (bs : Bytes) : String := String.ofList (hexDigits bs)

/-- Reads pairs of digits; `none` for an odd count or another character. -/
def unhexDigits? : List Char → Option Bytes
  | [] => some []
  | a :: b :: rest => do
    let high ← hexValue? a
    let low ← hexValue? b
    let tail ← unhexDigits? rest
    return UInt8.ofNat (high * 16 + low) :: tail
  | [_] => none

/-- The bytes that a text of hexadecimal digits spells. -/
def unhex? (s : String) : Option Bytes := unhexDigits? s.toList

end RestorePlugins
