import RestorePlugins.Json.Scan

namespace RestorePlugins.Json

/-!
# Written integers are read back

* `EndsNumber` — bytes that do not go on with a number.
* `readNumber_decimal` — the digits of an integer of at most sixty-four bits are read as that
  integer.
* `readNumber_decimalInt` — the same with the sign, by the first byte.
-/

/-! ### Digits -/

theorem digit_facts :
    ∀ d : Fin 10, isDigit (digitByte d) = true ∧ digitValue (digitByte d) = d := by
  decide

theorem isDigit_digitByte {d : Nat} (h : d < 10) : isDigit (digitByte d) = true :=
  (digit_facts ⟨d, h⟩).1

theorem digitValue_digitByte {d : Nat} (h : d < 10) : digitValue (digitByte d) = d :=
  (digit_facts ⟨d, h⟩).2

/-- The number that digits make behind the digits of another number. -/
def ofDigits (front : Nat) (digits : Bytes) : Nat :=
  digits.foldl (fun n b => n * 10 + digitValue b) front

theorem le_ofDigits (front : Nat) (digits : Bytes) : front ≤ ofDigits front digits := by
  induction digits generalizing front with
  | nil => exact Nat.le_refl _
  | cons b rest ih =>
    have hrest := ih (front * 10 + digitValue b)
    show front ≤ ofDigits (front * 10 + digitValue b) rest
    omega

/-- The digits of a number make that number. -/
theorem ofDigits_decimal (n : Nat) : ofDigits 0 (decimal n) = n := by
  rw [decimal]
  split
  · next h => simp [ofDigits, digitValue_digitByte h]
  · next h =>
    have hfront := ofDigits_decimal (n / 10)
    unfold ofDigits at hfront ⊢
    rw [List.foldl_append, hfront]
    simp only [List.foldl_cons, List.foldl_nil, digitValue_digitByte (Nat.mod_lt n (by decide))]
    omega
termination_by n

/-- Digits are all that a number is written with. -/
theorem isDigit_of_mem_decimal {n : Nat} {b : UInt8} (h : b ∈ decimal n) : isDigit b = true := by
  rw [decimal] at h
  split at h
  · next hn =>
    rw [List.mem_singleton] at h
    exact h ▸ isDigit_digitByte hn
  · next hn =>
    rcases List.mem_append.1 h with h | h
    · exact isDigit_of_mem_decimal h
    · rw [List.mem_singleton] at h
      exact h ▸ isDigit_digitByte (Nat.mod_lt n (by decide))
termination_by n

/-- The first digit of a positive number is not zero. -/
theorem decimal_eq_cons {n : Nat} (h : 0 < n) :
    ∃ b digits, decimal n = b :: digits ∧ b ≠ 0x30 := by
  rw [decimal]
  split
  · next hn =>
    refine ⟨digitByte n, [], rfl, fun hb => ?_⟩
    have hvalue := digitValue_digitByte hn
    rw [hb] at hvalue
    exact absurd hvalue (by simp [digitValue]; omega)
  · next hn =>
    obtain ⟨b, digits, hb, hne⟩ := decimal_eq_cons (n := n / 10) (by omega)
    exact ⟨b, digits ++ [digitByte (n % 10)], by rw [hb]; rfl, hne⟩
termination_by n

theorem decimal_zero : decimal 0 = [0x30] := by
  rw [decimal]
  rfl

/-- A written number is not empty and begins with a digit. -/
theorem exists_digit_decimal (n : Nat) :
    ∃ b digits, decimal n = b :: digits ∧ isDigit b = true := by
  rcases Nat.eq_zero_or_pos n with rfl | hn
  · exact ⟨0x30, [], decimal_zero, by decide⟩
  · obtain ⟨b, digits, hb, -⟩ := decimal_eq_cons hn
    exact ⟨b, digits, hb, isDigit_of_mem_decimal (hb ▸ List.mem_cons_self)⟩

/-! ### Ends of numbers -/

/-- Bytes that do not go on with a number: neither a digit nor a point nor an exponent. -/
def EndsNumber (rest : Bytes) : Prop :=
  ∀ b tail, rest = b :: tail → isDigit b = false ∧ b ≠ 0x2e ∧ b ≠ 0x65 ∧ b ≠ 0x45

theorem endsNumber_nil : EndsNumber [] := fun _ _ h => nomatch h

theorem endsNumber_cons {b : UInt8} {tail : Bytes}
    (h : isDigit b = false ∧ b ≠ 0x2e ∧ b ≠ 0x65 ∧ b ≠ 0x45) : EndsNumber (b :: tail) := by
  intro c rest heq
  cases heq
  exact h

theorem EndsNumber.startsWithDigit {rest : Bytes} (h : EndsNumber rest) :
    startsWithDigit rest = false := by
  cases rest with
  | nil => rfl
  | cons b tail => exact (h b tail rfl).1

theorem EndsNumber.startsExponent {rest : Bytes} (h : EndsNumber rest) :
    startsExponent rest = false := by
  cases rest with
  | nil => rfl
  | cons b tail =>
    obtain ⟨-, -, he, hE⟩ := h b tail rfl
    simp [Json.startsExponent, he, hE]

theorem EndsNumber.takeWhile {rest : Bytes} (h : EndsNumber rest) :
    rest.takeWhile isDigit = [] := by
  cases rest with
  | nil => rfl
  | cons b tail => simp [(h b tail rfl).1]

theorem EndsNumber.dropWhile {rest : Bytes} (h : EndsNumber rest) :
    rest.dropWhile isDigit = rest := by
  cases rest with
  | nil => rfl
  | cons b tail => simp [(h b tail rfl).1]

/-! ### Reading -/

/-- All digits are taken while the number that they make stays within sixty-four bits. -/
theorem takeDigits_append {digits : Bytes} (hdigits : ∀ b ∈ digits, isDigit b = true)
    (front : Nat) (hmax : ofDigits front digits ≤ maxSignificand) (taken : Nat)
    {rest : Bytes} (hends : EndsNumber rest) :
    takeDigits front taken (digits ++ rest) =
      (ofDigits front digits, taken + digits.length, rest) := by
  induction digits generalizing front taken with
  | nil =>
    cases rest with
    | nil => rfl
    | cons b tail => simp [takeDigits, (hends b tail rfl).1, ofDigits]
  | cons b digits ih =>
    have hle := le_ofDigits (front * 10 + digitValue b) digits
    have hfirst : front * 10 + digitValue b ≤ maxSignificand := Nat.le_trans hle hmax
    have hrest := ih (fun c hc => hdigits c (List.mem_cons_of_mem b hc))
      (front * 10 + digitValue b) hmax (taken + 1)
    simp only [List.cons_append, takeDigits, hdigits b List.mem_cons_self, hfirst, hrest,
      decide_true, Bool.and_self, if_true, List.length_cons]
    simp only [ofDigits, List.foldl_cons, Prod.mk.injEq, and_true, true_and]
    omega

/-- A number without a fraction and without an exponent is an integer. -/
theorem readTail_int {positive : Bool} {n : Nat}
    (hneg : positive = false → 0 < n ∧ n ≤ 0x8000000000000000) {rest : Bytes}
    (hends : EndsNumber rest) :
    readTail positive n 0 rest = .ok (.int (if positive then n else -n), rest) := by
  have hexponent := hends.startsExponent
  unfold readTail
  split
  · next tail => exact absurd rfl (hends _ _ rfl).2.1
  · cases positive with
    | true => simp [hexponent]
    | false =>
      -- A negative zero, or a number below the signed range, would be a float.
      obtain ⟨hpos, hle⟩ := hneg rfl
      have hfloat : ¬ (n = 0 ∨ 0x8000000000000000 < n) := by omega
      rw [if_neg (by simp [hexponent]), if_neg (by simp), if_neg (by simp), if_neg hfloat]
      rfl

/-- **Integers.** The digits of an integer are read back behind its sign. -/
theorem readNumber_decimal (positive : Bool) (n : Nat) (hmax : n ≤ maxSignificand)
    (hneg : positive = false → 0 < n ∧ n ≤ 0x8000000000000000) {rest : Bytes}
    (hends : EndsNumber rest) :
    readNumber positive (decimal n ++ rest) = .ok (.int (if positive then n else -n), rest) := by
  rcases Nat.eq_zero_or_pos n with rfl | hpos
  · rw [decimal_zero]
    simp only [List.cons_append, List.nil_append, readNumber, if_true, hends.startsWithDigit]
    exact readTail_int hneg hends
  · obtain ⟨b, digits, hb, hzero⟩ := decimal_eq_cons hpos
    have hdigits : ∀ c ∈ b :: digits, isDigit c = true :=
      fun c hc => isDigit_of_mem_decimal (hb ▸ hc)
    have hvalue : ofDigits (digitValue b) digits = n := by
      have hall := ofDigits_decimal n
      rw [hb] at hall
      simpa [ofDigits] using hall
    have htake := takeDigits_append (fun c hc => hdigits c (List.mem_cons_of_mem b hc))
      (digitValue b) (by rw [hvalue]; exact hmax) 1 hends
    rw [hb]
    simp only [List.cons_append, readNumber, hzero, if_false, hdigits b List.mem_cons_self,
      if_true, htake, hvalue, hends.takeWhile, hends.dropWhile, List.length_nil]
    exact readTail_int hneg hends

/-- An integer of at most sixty-four bits begins with a minus sign or a digit, and is read back
behind that sign or from that digit on. -/
theorem readNumber_decimalInt {i : Int} (hlow : -0x8000000000000000 ≤ i)
    (hhigh : i ≤ maxSignificand) {rest : Bytes} (hends : EndsNumber rest) :
    (∃ bs, decimalInt i ++ rest = 0x2d :: bs ∧ readNumber false bs = .ok (.int i, rest)) ∨
      ∃ b tail, decimalInt i ++ rest = b :: tail ∧ isDigit b = true ∧
        readNumber true (b :: tail) = .ok (.int i, rest) := by
  by_cases hneg : i < 0
  · have hread := readNumber_decimal false i.natAbs
      (by simp only [maxSignificand]; omega) (by intro; omega) hends
    have hvalue : (-(i.natAbs : Int)) = i := by omega
    refine .inl ⟨decimal i.natAbs ++ rest, by simp [decimalInt, hneg], ?_⟩
    simp only [Bool.false_eq_true, if_false, hvalue] at hread
    exact hread
  · have hread := readNumber_decimal true i.natAbs (by omega) (by simp) hends
    obtain ⟨b, digits, hb, hdigit⟩ := exists_digit_decimal i.natAbs
    have hvalue : (i.natAbs : Int) = i := by omega
    simp only [hb, if_true, hvalue, List.cons_append] at hread
    exact .inr ⟨b, digits ++ rest, by simp [decimalInt, hneg, hb], hdigit, hread⟩

end RestorePlugins.Json
