import Mathlib.Data.List.Basic
import Mathlib.Tactic.SplitIfs
import RestorePlugins.Entries
import RestorePlugins.Text.Utf8

namespace RestorePlugins

/-!
# The order of texts is that of their bytes

Keys compare by code point, and UTF-8 keeps this order: the first byte of a character tells how many
bytes it has, and the groups of six bits behind it go from the upper bits to the lower.

* `utf8EncodeChar_lt` — the bytes of a smaller character come first, whatever stands behind them.
* `utf8_lt_iff` — two texts compare as their bytes do.
-/

/-! ### Characters -/

/-- Bytes that are given as numbers compare as the numbers do. -/
theorem cons_ofNat_lt_iff {m n : Nat} {x y : Bytes} (hm : m < 256) (hn : n < 256) :
    UInt8.ofNat m :: x < UInt8.ofNat n :: y ↔ m < n ∨ (m = n ∧ x < y) := by
  have hlt : UInt8.ofNat m < UInt8.ofNat n ↔ m < n := by
    rw [UInt8.lt_iff_toNat_lt, UInt8.toNat_ofNat', UInt8.toNat_ofNat']
    omega
  have heq : UInt8.ofNat m = UInt8.ofNat n ↔ m = n := by
    rw [← UInt8.toNat_inj, UInt8.toNat_ofNat', UInt8.toNat_ofNat']
    omega
  rw [List.cons_lt_cons_iff, hlt, heq]

/-- A smaller number has smaller upper bits, or the same and smaller lower six bits. -/
theorem div_lt_or_mod_lt {m n : Nat} (h : m < n) :
    m / 64 < n / 64 ∨ (m / 64 = n / 64 ∧ m % 64 < n % 64) := by
  omega

/-- **Characters.** The bytes of a smaller character come before those of a greater one. -/
theorem utf8EncodeChar_lt {a b : Char} (h : a < b) (x y : Bytes) :
    String.utf8EncodeChar a ++ x < String.utf8EncodeChar b ++ y := by
  have hlt : a.val.toNat < b.val.toNat := UInt32.lt_iff_toNat_lt.1 (Char.lt_def.1 h)
  have hmax : b.val.toNat < 0x110000 := by
    rcases b.valid with hv | hv
    · exact Nat.lt_trans hv (by decide)
    · exact hv.2
  unfold String.utf8EncodeChar
  generalize a.val.toNat = m at hlt ⊢
  generalize b.val.toNat = n at hlt hmax ⊢
  have hfour : ∀ k, k / 262144 = k / 64 / 64 / 64 := by omega
  have hthree : ∀ k, k / 4096 = k / 64 / 64 := by omega
  simp only [hfour, hthree]
  split_ifs
  all_goals simp (disch := omega) only [List.cons_append, List.nil_append, cons_ofNat_lt_iff]
  -- Whichever lengths they have, the numbers part at their first, second, third or fourth group.
  all_goals
    rcases div_lt_or_mod_lt hlt with h | h
    · rcases div_lt_or_mod_lt h with h | h
      · rcases div_lt_or_mod_lt h with h | h <;> omega
      · omega
    · omega

theorem utf8EncodeChar_ne_nil (c : Char) : String.utf8EncodeChar c ≠ [] := by
  unfold String.utf8EncodeChar
  simp only
  split_ifs <;> simp

/-! ### Texts -/

theorem utf8_eq_flatMap (s : String) : utf8 s = s.toList.flatMap String.utf8EncodeChar := by
  unfold utf8
  rw [← String.ofList_toList (s := s), String.toByteArray_ofList]
  simp [List.utf8Encode]

theorem flatMap_utf8EncodeChar_lt {a b : List Char} (h : a < b) :
    a.flatMap String.utf8EncodeChar < b.flatMap String.utf8EncodeChar := by
  induction a generalizing b with
  | nil =>
    cases b with
    | nil => exact absurd h (List.lt_irrefl [])
    | cons d b =>
      cases hd : String.utf8EncodeChar d with
      | nil => exact absurd hd (utf8EncodeChar_ne_nil d)
      | cons first rest =>
        rw [List.flatMap_nil, List.flatMap_cons, hd]
        exact List.nil_lt_cons _ _
  | cons c a ih =>
    cases b with
    | nil => exact absurd h (List.not_lt_nil _)
    | cons d b =>
      rw [List.flatMap_cons, List.flatMap_cons]
      rcases List.cons_lt_cons_iff.1 h with hchar | ⟨rfl, hrest⟩
      · exact utf8EncodeChar_lt hchar _ _
      · exact List.append_left_lt (ih hrest)

/-- **Texts.** Two texts compare as their bytes do. -/
theorem utf8_lt_iff {a b : String} : utf8 a < utf8 b ↔ a < b := by
  have hmono : ∀ {a b : String}, a < b → utf8 a < utf8 b := by
    intro a b h
    rw [utf8_eq_flatMap, utf8_eq_flatMap]
    exact flatMap_utf8EncodeChar_lt h
  constructor
  · intro h
    by_contra hnot
    have hne : b ≠ a := fun heq => List.lt_irrefl (utf8 a) (heq ▸ h)
    exact List.lt_asymm h (hmono (Entries.lt_of_not_lt_of_ne hnot hne))
  · exact hmono

end RestorePlugins
