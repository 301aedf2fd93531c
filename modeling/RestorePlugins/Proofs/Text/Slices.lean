import RestorePlugins.Proofs.Json.Texts
import RestorePlugins.Proofs.Text.ByteOrder

namespace RestorePlugins

/-!
# Slices of texts

A text is cut by positions in its bytes, and a cut has to lie between two characters.

* `isBoundary`, `slice` — the positions between characters, and the bytes between two of them.
* `isBoundary_append` — where one text ends and another begins there is such a position.
* `slice_append_left`, `slice_append_right` — **the slices up to it and from it on** are the texts.
* `findIdx?_ascii` — the first byte of an ASCII character is the first such character.
-/

/-! ### Boundaries -/

/-- A byte that begins a character: all others of a character are between 128 and 191. -/
def beginsCharacter (b : UInt8) : Bool := b < 0x80 || 0xc0 ≤ b

/-- A position between two characters: the start, the end, or before a byte that begins one. -/
def isBoundary (bytes : Bytes) (position : Nat) : Bool :=
  position == 0 || position == bytes.length || (bytes[position]?.map beginsCharacter).getD false

/-- A position is inside of a character or behind the end. -/
inductive SliceFault where
  | noBoundary
  deriving DecidableEq, Repr

/-- The bytes from one position to another, both of which have to be boundaries. -/
def slice (bytes : Bytes) (first last : Nat) : Except SliceFault Bytes :=
  if first ≤ last ∧ isBoundary bytes first ∧ isBoundary bytes last then
    .ok ((bytes.drop first).take (last - first))
  else .error .noBoundary

theorem utf8_append (a b : String) : utf8 (a ++ b) = utf8 a ++ utf8 b := by
  rw [utf8_eq_flatMap, utf8_eq_flatMap, utf8_eq_flatMap, String.toList_append, List.flatMap_append]

/-- The bytes of a character begin with one that begins a character. -/
theorem exists_utf8EncodeChar_eq_cons (c : Char) :
    ∃ b rest, String.utf8EncodeChar c = b :: rest ∧ beginsCharacter b = true := by
  have hmax : c.val.toNat < 0x110000 := by
    rcases c.valid with hv | hv
    · exact Nat.lt_trans hv (by decide)
    · exact hv.2
  unfold String.utf8EncodeChar
  generalize c.val.toNat = n at hmax
  dsimp only
  split_ifs
  all_goals
    refine ⟨_, _, rfl, ?_⟩
    simp only [beginsCharacter, Bool.or_eq_true, decide_eq_true_eq, UInt8.lt_iff_toNat_lt,
      UInt8.le_iff_toNat_le, UInt8.toNat_ofNat', UInt8.reduceToNat]
    omega

/-- **Where one text ends and another begins is a boundary**, whatever characters stand there. -/
theorem isBoundary_append (a b : String) : isBoundary (utf8 a ++ utf8 b) (utf8 a).length = true := by
  rw [isBoundary]
  cases hchars : b.toList with
  | nil =>
    have hempty : utf8 b = [] := by
      rw [utf8_eq_flatMap, hchars, List.flatMap_nil]
    rw [hempty, List.append_nil, beq_self_eq_true, Bool.or_true, Bool.true_or]
  | cons c chars =>
    obtain ⟨first, rest, hbytes, hbegins⟩ := exists_utf8EncodeChar_eq_cons c
    have hutf8 : utf8 b = first :: (rest ++ chars.flatMap String.utf8EncodeChar) := by
      rw [utf8_eq_flatMap, hchars, List.flatMap_cons, hbytes, List.cons_append]
    have hat : (utf8 a ++ utf8 b)[(utf8 a).length]? = some first := by
      rw [hutf8, List.getElem?_append_right (Nat.le_refl _), Nat.sub_self, List.getElem?_cons_zero]
    rw [hat, Option.map_some, Option.getD_some, hbegins, Bool.or_true]

theorem isBoundary_zero (bytes : Bytes) : isBoundary bytes 0 = true := by
  rw [isBoundary, beq_self_eq_true, Bool.true_or, Bool.true_or]

theorem isBoundary_length (bytes : Bytes) : isBoundary bytes bytes.length = true := by
  rw [isBoundary, beq_self_eq_true, Bool.or_true, Bool.true_or]

/-! ### Slices -/

/-- The slice up to the end of the first text is that text. -/
theorem slice_append_left (a b : String) :
    slice (utf8 a ++ utf8 b) 0 (utf8 a).length = .ok (utf8 a) := by
  rw [slice, if_pos ⟨Nat.zero_le _, isBoundary_zero _, isBoundary_append a b⟩, List.drop_zero,
    Nat.sub_zero, List.take_left]

/-- The slice from the end of the first text on is the second one. -/
theorem slice_append_right (a b : String) :
    slice (utf8 a ++ utf8 b) (utf8 a).length (utf8 a ++ utf8 b).length = .ok (utf8 b) := by
  have hle : (utf8 a).length ≤ (utf8 a ++ utf8 b).length := by
    rw [List.length_append]
    omega
  have hlength : (utf8 a ++ utf8 b).length - (utf8 a).length = (utf8 b).length := by
    rw [List.length_append]
    omega
  rw [slice, if_pos ⟨hle, isBoundary_append a b, isBoundary_length _⟩, List.drop_left, hlength,
    List.take_length]

/-- A cut inside of a character is refused. -/
example : slice (utf8 "né") 0 2 = .error .noBoundary := by
  decide

/-! ### Searching -/

/-- The byte of an ASCII character is in no other character. -/
theorem eq_of_mem_utf8EncodeChar {c d : Char} (hc : c.toNat < 128)
    (h : UInt8.ofNat c.toNat ∈ String.utf8EncodeChar d) : d = c := by
  have hvalue : (UInt8.ofNat c.toNat).toNat = c.toNat := by
    rw [UInt8.toNat_ofNat']
    exact Nat.mod_eq_of_lt (by omega)
  rcases Json.utf8EncodeChar_cases d with ⟨hd, hbytes⟩ | ⟨-, hbytes⟩
  · rw [hbytes, List.mem_singleton] at h
    have hsame := congrArg UInt8.toNat h
    rw [hvalue, UInt8.toNat_ofNat', Nat.mod_eq_of_lt (by omega)] at hsame
    exact Char.toNat_inj.1 hsame.symm
  · have hbig := hbytes _ h
    omega

theorem ascii_mem_utf8_iff {c : Char} (hc : c.toNat < 128) {s : String} :
    UInt8.ofNat c.toNat ∈ utf8 s ↔ c ∈ s.toList := by
  rw [utf8_eq_flatMap, List.mem_flatMap]
  constructor
  · rintro ⟨d, hd, hmem⟩
    rw [← eq_of_mem_utf8EncodeChar hc hmem]
    exact hd
  · intro hmem
    rcases Json.utf8EncodeChar_cases c with ⟨-, hbytes⟩ | ⟨hbig, -⟩
    · exact ⟨c, hmem, by rw [hbytes]; exact List.mem_singleton_self _⟩
    · omega

/-- No byte of an ASCII character is found just if the character is not there. -/
theorem findIdx?_ascii_eq_none_iff {c : Char} (hc : c.toNat < 128) {s : String} :
    (utf8 s).findIdx? (· == UInt8.ofNat c.toNat) = none ↔ c ∉ s.toList := by
  rw [List.findIdx?_eq_none_iff, ← ascii_mem_utf8_iff hc]
  constructor
  · intro h hmem
    exact absurd (beq_self_eq_true _) (Bool.eq_false_iff.1 (h _ hmem))
  · intro h b hb
    exact beq_false_of_ne fun heq => h (heq ▸ hb)

/-- **The first byte of an ASCII character** is found behind the text before the first one. -/
theorem findIdx?_ascii {c : Char} (hc : c.toNat < 128) {s : String} (h : c ∉ s.toList)
    (back : Bytes) :
    (utf8 s ++ UInt8.ofNat c.toNat :: back).findIdx? (· == UInt8.ofNat c.toNat) =
      some (utf8 s).length := by
  rw [List.findIdx?_append, (findIdx?_ascii_eq_none_iff hc).2 h, List.findIdx?_cons,
    beq_self_eq_true, if_pos rfl, Option.map_some, Nat.zero_add]
  rfl

end RestorePlugins
