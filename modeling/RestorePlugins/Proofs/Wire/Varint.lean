import RestorePlugins.Wire.Varint

namespace RestorePlugins.Wire

/-!
# Written numbers, keys and lengths are read back

* `readVarint_varint`, `readKey_key`, `readBytes_withLength` — a number, a key and a run of bytes
  are read as what was written, whatever stands behind them.
* `Run` — bytes that are fields, each of which a reader takes into a value.
* `readWhile_run`, `readDelimited_run` — a loop over such bytes ends with the last value, right
  behind them.
-/

/-! ### Numbers -/

/-- A number of the bits that are left after some bytes is read back. -/
theorem readVarintFrom_varint (n before : Nat) (rest : Bytes) (hbefore : before ≤ 9)
    (h : n < Nat.pow 2 (64 - 7 * before)) :
    readVarintFrom before (varint n ++ rest) = .ok (n, rest) := by
  rw [varint]
  split
  · next hsmall =>
    have hb : (UInt8.ofNat n).toNat = n := by
      rw [UInt8.toNat_ofNat', Nat.mod_eq_of_lt (by omega)]
    have hlt : UInt8.ofNat n < 0x80 := UInt8.lt_iff_toNat_lt.2 (by rw [hb]; exact hsmall)
    have hlast : ¬ (before = 9 ∧ 2 ≤ UInt8.ofNat n) := by
      rintro ⟨rfl, htwo⟩
      have := UInt8.le_iff_toNat_le.1 htwo
      rw [hb] at this
      simp at h this
      omega
    simp [readVarintFrom, hlt, hb, hlast]
  · next hbig =>
    have hb : (UInt8.ofNat (n % 128 + 128)).toNat = n % 128 + 128 := by
      rw [UInt8.toNat_ofNat', Nat.mod_eq_of_lt (by omega)]
    have hge : ¬ UInt8.ofNat (n % 128 + 128) < 0x80 := by
      rw [UInt8.lt_iff_toNat_lt, hb]
      simp
    -- Nine bytes carry sixty-three bits, so a number that goes on does not begin in the tenth.
    have hnine : before ≠ 9 := by
      rintro rfl
      simp at h
      omega
    have hpower : Nat.pow 2 (64 - 7 * before) = 128 * Nat.pow 2 (64 - 7 * (before + 1)) := by
      rw [show 64 - 7 * before = 7 + (64 - 7 * (before + 1)) by omega]
      exact Nat.pow_add 2 7 _
    have hhigh := readVarintFrom_varint (n / 128) (before + 1) rest (by omega) (by omega)
    have hvalue : (n % 128 + 128) % 128 + 128 * (n / 128) = n := by omega
    simp only [List.cons_append, readVarintFrom, hge, if_false, hnine, hhigh, bind, Except.bind, hb,
      hvalue]
termination_by n

/-- **Numbers.** A number of sixty-four bits is read back. -/
theorem readVarint_varint {n : Nat} (h : n < UInt64.size) (rest : Bytes) :
    readVarint (varint n ++ rest) = .ok (n, rest) :=
  readVarintFrom_varint n 0 rest (by omega) h

theorem varint_ne_nil (n : Nat) : varint n ≠ [] := by
  rw [varint]
  split <;> simp

/-! ### Keys -/

/-- A number that a field may have. -/
def IsFieldNumber (number : Nat) : Prop := 0 < number ∧ number < 0x20000000

instance (number : Nat) : Decidable (IsFieldNumber number) :=
  inferInstanceAs (Decidable (_ ∧ _))

theorem code_lt (form : WireType) : form.code < 8 := by cases form <;> decide

/-- **Keys.** A key is read back. -/
theorem readKey_key {number : Nat} (h : IsFieldNumber number) (form : WireType) (rest : Bytes) :
    readKey (key number form ++ rest) = .ok ((number, form), rest) := by
  obtain ⟨hpos, hlt⟩ := h
  have hcode := code_lt form
  have hread := readVarint_varint (n := 8 * number + form.code)
    (by simp only [UInt64.size]; omega) rest
  have hmod : (8 * number + form.code) % 8 = form.code := by omega
  have hdiv : (8 * number + form.code) / 8 = number := by omega
  have hsize : ¬ 0xffffffff < 8 * number + form.code := by omega
  simp only [readKey, key, hread, bind, Except.bind, hsize, if_false, hmod,
    WireType.ofCode?_code, hdiv, Nat.pos_iff_ne_zero.1 hpos]

theorem key_ne_nil (number : Nat) (form : WireType) : key number form ≠ [] := varint_ne_nil _

theorem expectForm_self (form : WireType) : expectForm form form = .ok () := if_pos rfl

/-! ### Lengths -/

/-- **Bytes.** Bytes behind their length are read back. -/
theorem readBytes_withLength {body : Bytes} (h : body.length < UInt64.size) (rest : Bytes) :
    readBytes (withLength body ++ rest) = .ok (body, rest) := by
  have hread := readVarint_varint h (body ++ rest)
  have henough : ¬ body.length + rest.length < body.length := by omega
  simp [readBytes, withLength, hread, henough, bind, Except.bind]

/-! ### Fields -/

/-- What a reader does with a field: its number, its form, the value that was read so far and the
bytes behind the key. -/
abbrev Take (α : Type) := Nat → WireType → α → Bytes → Except WireFault (α × Bytes)

/-- The step of a loop over fields: a key, and what the reader does with it. -/
def stepOf {α : Type} (take : Take α) (value : α) (bs : Bytes) : Except WireFault (α × Bytes) := do
  let ((number, form), rest) ← readKey bs
  take number form value rest

/-- The bytes are fields with some of the numbers, and the reader takes them, one after the other,
from a value to another. -/
inductive Run {α : Type} (take : Take α) (numbers : List Nat) : α → Bytes → α → Prop
  | done (a : α) : Run take numbers a [] a
  | field {a b c : α} {number : Nat} {form : WireType} {body bs : Bytes}
      (hnumber : number ∈ numbers)
      (hread : ∀ rest, take number form a (body ++ rest) = .ok (b, rest))
      (hrest : Run take numbers b bs c) : Run take numbers a (key number form ++ (body ++ bs)) c

namespace Run

variable {α β : Type} {take : Take α} {numbers : List Nat} {a b c : α} {bs cs : Bytes}

/-- One field. -/
theorem single {number : Nat} {form : WireType} {body : Bytes} (hnumber : number ∈ numbers)
    (hread : ∀ rest, take number form a (body ++ rest) = .ok (b, rest)) :
    Run take numbers a (key number form ++ body) b := by
  have hrun := field hnumber hread (done b)
  rwa [List.append_nil] at hrun

/-- Fields behind fields. -/
theorem append (hfirst : Run take numbers a bs b) (hsecond : Run take numbers b cs c) :
    Run take numbers a (bs ++ cs) c := by
  induction hfirst with
  | done a => exact hsecond
  | field hnumber hread _ ih =>
    rw [List.append_assoc, List.append_assoc]
    exact field hnumber hread (ih hsecond)

/-- Fields of a part of a value are fields of the value, when a reader of the value hands them on
to the reader of the part. -/
theorem lift {more : List Nat} {takeWhole : Take β} (put : α → β)
    (hmore : ∀ number ∈ numbers, number ∈ more)
    (htake : ∀ number ∈ numbers, ∀ form a bs b rest, take number form a bs = .ok (b, rest) →
      takeWhole number form (put a) bs = .ok (put b, rest))
    (h : Run take numbers a bs b) : Run takeWhole more (put a) bs (put b) := by
  induction h with
  | done a => exact done (put a)
  | field hnumber hread _ ih =>
    exact field (hmore _ hnumber) (fun rest => htake _ hnumber _ _ _ _ _ (hread rest)) ih

end Run

section

variable {α : Type} {take : Take α} {numbers : List Nat} {a b : α} {bs : Bytes}

/-- **Loops.** A loop over fields ends with the last value, right behind them. -/
theorem readWhile_run (hnumbers : ∀ number ∈ numbers, IsFieldNumber number)
    (h : Run take numbers a bs b) (rest : Bytes) :
    ∀ fuel, bs.length ≤ fuel →
      readWhile (stepOf take) rest.length fuel a (bs ++ rest) = .ok (b, rest) := by
  induction h with
  | done a =>
    intro fuel _
    cases fuel <;> simp [readWhile]
  | @field a b c number form body bs hnumber hread _ ih =>
    intro fuel hfuel
    have hkey := List.length_pos_iff.2 (key_ne_nil number form)
    simp only [List.length_append] at hfuel
    obtain ⟨fuel, rfl⟩ : ∃ n, fuel = n + 1 := ⟨fuel - 1, by omega⟩
    have hunread : ¬ (key number form ++ (body ++ bs) ++ rest).length ≤ rest.length := by
      simp only [List.length_append]
      omega
    have hstep : stepOf take a (key number form ++ (body ++ bs) ++ rest) = .ok (b, bs ++ rest) := by
      simp only [stepOf, List.append_assoc, readKey_key (hnumbers _ hnumber), bind, Except.bind,
        hread]
    simp only [readWhile, hunread, if_false, hstep, bind, Except.bind]
    exact ih fuel (by omega)

/-- A loop over fields behind their length. -/
theorem readDelimited_run (hnumbers : ∀ number ∈ numbers, IsFieldNumber number)
    (h : Run take numbers a bs b) (hlength : bs.length < UInt64.size) (rest : Bytes) :
    readDelimited (stepOf take) a (withLength bs ++ rest) = .ok (b, rest) := by
  have hread := readVarint_varint hlength (bs ++ rest)
  have hloop := readWhile_run hnumbers h rest (bs ++ rest).length (by simp)
  have henough : ¬ (bs ++ rest).length < bs.length := by simp
  have hlimit : (bs ++ rest).length - bs.length = rest.length := by simp
  simp only [readDelimited, withLength, List.append_assoc, hread, bind, Except.bind, henough,
    if_false, hlimit, hloop, if_true]

end

end RestorePlugins.Wire
