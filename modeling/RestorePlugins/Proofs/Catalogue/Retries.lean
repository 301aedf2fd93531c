import RestorePlugins.Proofs.Catalogue.Live

namespace RestorePlugins.Catalogue

/-!
# How often opening is tried

Opening a database is tried again on contention only, and within its budget.

* `Attempt.answer?` — what an attempt answers, unless it was contended.
* `openFrom_cases` — the loop ends with the first attempt that is not contended, or with the
  last one that the budget allows.
* `openCounted`, `openCounted_eq_openWithin` — a counter of thirty-two bits counts the attempts
  without wrapping, at the greatest budget too.
* `Retried`, `openWithin_retried` — attempts, delays and answer, and when settings are refused
  because of the lock.
-/

variable {α : Type} {outcome : Nat → Attempt α} {budget : RetryBudget} {around : Surroundings}
  {shelf : Shelf}

/-! ### The loop -/

/-- What an attempt answers; one that was contended is to be repeated. -/
def Attempt.answer? : Attempt α → Option (Except PluginError α)
  | opened handle => some (.ok handle)
  | contended => none
  | failed text => some (.error (.database "unable to open database" text))

theorem Attempt.answer?_eq_none_iff {attempt : Attempt α} :
    attempt.answer? = none ↔ attempt = .contended := by
  cases attempt <;> simp [answer?]

/-- No single attempt says that the database is locked. -/
theorem Attempt.answer?_ne_locked (attempt : Attempt α) :
    attempt.answer? ≠ some (.error .databaseLocked) := by
  cases attempt <;> simp [answer?]

theorem openFrom_of_answer {done retries : Nat} {answer : Except PluginError α}
    (h : (outcome done).answer? = some answer) :
    openFrom outcome done retries = ⟨answer, done + 1, done⟩ := by
  unfold openFrom
  cases hdone : outcome done with
  | contended =>
    rw [hdone] at h
    cases h
  | opened handle =>
    rw [hdone] at h
    cases h
    rfl
  | failed text =>
    rw [hdone] at h
    cases h
    rfl

theorem openFrom_of_contended {done retries : Nat} (h : outcome done = .contended) :
    openFrom outcome done (retries + 1) = openFrom outcome (done + 1) retries := by
  rw [openFrom, h]

theorem openFrom_of_last {done : Nat} (h : outcome done = .contended) :
    openFrom outcome done 0 = ⟨.error .databaseLocked, done + 1, done + 1⟩ := by
  rw [openFrom, h]

/-- **The loop has two ends.**  Either it ends with the first attempt that is not contended, and
answers what that attempt answers, or all attempts are contended and it ends with the last. -/
theorem openFrom_cases (outcome : Nat → Attempt α) (retries first : Nat) :
    (∃ n answer, first ≤ n ∧ n ≤ first + retries ∧
      (∀ i, first ≤ i → i < n → outcome i = .contended) ∧ (outcome n).answer? = some answer ∧
      openFrom outcome first retries = ⟨answer, n + 1, n⟩) ∨
    ((∀ i, first ≤ i → i ≤ first + retries → outcome i = .contended) ∧
      openFrom outcome first retries =
        ⟨.error .databaseLocked, first + retries + 1, first + retries + 1⟩) := by
  -- Induction on the retries that are left, for all first attempts.
  induction retries generalizing first with
  | zero =>
    cases hanswer : (outcome first).answer? with
    | some answer =>
      refine .inl ⟨first, answer, by omega, by omega, ?_, hanswer, openFrom_of_answer hanswer⟩
      intro i hle hlt
      omega
    | none =>
      have hcontended := Attempt.answer?_eq_none_iff.1 hanswer
      refine .inr ⟨?_, openFrom_of_last hcontended⟩
      intro i hle hge
      have hi : i = first := by omega
      rw [hi, hcontended]
  | succ retries ih =>
    cases hanswer : (outcome first).answer? with
    | some answer =>
      refine .inl ⟨first, answer, by omega, by omega, ?_, hanswer, openFrom_of_answer hanswer⟩
      intro i hle hlt
      omega
    | none =>
      have hcontended := Attempt.answer?_eq_none_iff.1 hanswer
      -- What holds from the next attempt on holds from this one on.
      have hfrom : ∀ i, first ≤ i → (first + 1 ≤ i → outcome i = .contended) →
          outcome i = .contended := by
        intro i hle hnext
        by_cases hi : i = first
        · rw [hi, hcontended]
        · exact hnext (by omega)
      rw [openFrom_of_contended hcontended]
      rcases ih (first + 1) with ⟨n, answer, hle, hge, hbefore, hend, heq⟩ | ⟨hall, heq⟩
      · refine .inl ⟨n, answer, by omega, by omega, ?_, hend, heq⟩
        intro i hi hlt
        exact hfrom i hi fun hnext => hbefore i hnext hlt
      · have hcount : first + 1 + retries = first + (retries + 1) := by omega
        rw [hcount] at hall heq
        refine .inr ⟨?_, heq⟩
        intro i hi hlast
        exact hfrom i hi fun hnext => hall i hnext hlast

/-! ### The counter -/

theorem toNat_succ_of_lt {counter last : UInt32} (h : counter < last) :
    (counter + 1).toNat = counter.toNat + 1 := by
  have hlt := UInt32.lt_iff_toNat_lt.1 h
  have hlast := last.toNat_lt
  rw [UInt32.toNat_add, UInt32.toNat_one]
  omega

/-- The attempts of a loop whose counter has thirty-two bits and runs up to and including the last
number. -/
def openCounted (outcome : Nat → Attempt α) (last counter : UInt32) : Opening α :=
  match (outcome counter.toNat).answer? with
  | some answer => ⟨answer, counter.toNat + 1, counter.toNat⟩
  | none =>
    if counter < last then openCounted outcome last (counter + 1)
    else ⟨.error .databaseLocked, counter.toNat + 1, counter.toNat + 1⟩
termination_by last.toNat - counter.toNat
decreasing_by
  next h =>
    have hlt := UInt32.lt_iff_toNat_lt.1 h
    rw [toNat_succ_of_lt h]
    omega

theorem openCounted_eq_openFrom (outcome : Nat → Attempt α) (last : UInt32) (retries : Nat) :
    ∀ counter : UInt32, counter.toNat + retries = last.toNat →
      openCounted outcome last counter = openFrom outcome counter.toNat retries := by
  induction retries with
  | zero =>
    intro counter hlast
    have hnlt : ¬ counter < last := by
      rw [UInt32.lt_iff_toNat_lt]
      omega
    rw [openCounted]
    cases hanswer : (outcome counter.toNat).answer? with
    | some answer => rw [openFrom_of_answer hanswer]
    | none =>
      have hcontended := Attempt.answer?_eq_none_iff.1 hanswer
      rw [openFrom_of_last hcontended, if_neg hnlt]
  | succ retries ih =>
    intro counter hlast
    have hlt : counter < last := by
      rw [UInt32.lt_iff_toNat_lt]
      omega
    rw [openCounted]
    cases hanswer : (outcome counter.toNat).answer? with
    | some answer => rw [openFrom_of_answer hanswer]
    | none =>
      have hcontended := Attempt.answer?_eq_none_iff.1 hanswer
      have hsucc := toNat_succ_of_lt hlt
      rw [openFrom_of_contended hcontended, if_pos hlt, ih (counter + 1) (by omega), hsucc]

/-- **A counter of thirty-two bits does not wrap**, whatever the budget. -/
theorem openCounted_eq_openWithin (budget : RetryBudget) (outcome : Nat → Attempt α) :
    openCounted outcome budget.maxRetries 0 = openWithin budget outcome :=
  openCounted_eq_openFrom outcome budget.maxRetries budget.maxRetries.toNat 0 (Nat.zero_add _)

/-! ### Attempts and delays -/

/-- What opening comes to when some number of retries is allowed. -/
structure Retried (maxRetries : UInt32) (outcome : Nat → Attempt α) (opening : Opening α) :
    Prop where
  /-- There is one attempt more than retries, at most. -/
  bounded : opening.attempts ≤ maxRetries.toNat + 1
  /-- A counter of thirty-two bits counts the attempts. -/
  counted : openCounted outcome maxRetries 0 = opening
  /-- The first attempt that is not contended ends the opening with its answer; there was a delay
  after each attempt before it. -/
  ended : ∀ n answer, n ≤ maxRetries.toNat → (∀ i < n, outcome i = .contended) →
    (outcome n).answer? = some answer → opening = ⟨answer, n + 1, n⟩
  /-- If all attempts that are allowed are contended, the database is locked. -/
  locked : (∀ n ≤ maxRetries.toNat, outcome n = .contended) →
    opening = ⟨.error .databaseLocked, maxRetries.toNat + 1, maxRetries.toNat + 1⟩
  /-- Only a contended attempt is followed by another one. -/
  repeated : ∀ n, n + 1 < opening.attempts → outcome n = .contended

/-- The two ends of opening within a budget. -/
theorem openWithin_cases (budget : RetryBudget) (outcome : Nat → Attempt α) :
    (∃ n answer, n ≤ budget.maxRetries.toNat ∧ (∀ i < n, outcome i = .contended) ∧
      (outcome n).answer? = some answer ∧ openWithin budget outcome = ⟨answer, n + 1, n⟩) ∨
    ((∀ n ≤ budget.maxRetries.toNat, outcome n = .contended) ∧
      openWithin budget outcome = ⟨.error .databaseLocked, budget.maxRetries.toNat + 1,
        budget.maxRetries.toNat + 1⟩) := by
  have hcases := openFrom_cases outcome budget.maxRetries.toNat 0
  rw [Nat.zero_add] at hcases
  rcases hcases with ⟨n, answer, -, hge, hbefore, hend, heq⟩ | ⟨hall, heq⟩
  · exact .inl ⟨n, answer, hge, fun i hi => hbefore i (Nat.zero_le i) hi, hend, heq⟩
  · exact .inr ⟨fun n hn => hall n (Nat.zero_le n) hn, heq⟩

theorem retried_openWithin (budget : RetryBudget) (outcome : Nat → Attempt α) :
    Retried budget.maxRetries outcome (openWithin budget outcome) := by
  have hcounted := openCounted_eq_openWithin budget outcome
  rcases openWithin_cases budget outcome with ⟨n, answer, hn, hbefore, hend, heq⟩ | ⟨hall, heq⟩
  · rw [heq] at hcounted ⊢
    exact {
      bounded := Nat.succ_le_succ hn
      counted := hcounted
      ended := by
        intro m other hm hbeforeOther hother
        -- Of two different attempts the earlier one is contended, so it has no answer.
        have hnlt : ¬ n < m := by
          intro hlt
          rw [hbeforeOther n hlt] at hend
          cases hend
        have hmlt : ¬ m < n := by
          intro hlt
          rw [hbefore m hlt] at hother
          cases hother
        have hsame : m = n := by omega
        rw [hsame, hend] at hother
        cases hother
        rw [hsame]
      locked := by
        intro hall
        rw [hall n hn] at hend
        cases hend
      repeated := by
        intro m hm
        exact hbefore m (Nat.lt_of_succ_lt_succ hm) }
  · rw [heq] at hcounted ⊢
    exact {
      bounded := Nat.le_refl _
      counted := hcounted
      ended := by
        intro m answer hm _ hanswer
        rw [hall m hm] at hanswer
        cases hanswer
      locked := fun _ => rfl
      repeated := by
        intro m hm
        exact hall m (Nat.le_of_lt (Nat.lt_of_succ_lt_succ hm)) }

theorem openWithin_locked_iff :
    (openWithin budget outcome).result = .error .databaseLocked ↔
      ∀ n ≤ budget.maxRetries.toNat, outcome n = .contended := by
  constructor
  · intro h
    rcases openWithin_cases budget outcome with ⟨n, answer, -, -, hend, heq⟩ | ⟨hall, -⟩
    · rw [heq] at h
      rw [show answer = .error .databaseLocked from h] at hend
      exact absurd hend (Attempt.answer?_ne_locked _)
    · exact hall
  · intro hall
    rw [(retried_openWithin budget outcome).locked hall]

/-! ### Taking over settings -/

/-- A switch to another catalogue says that the database is locked only if all attempts were
contended. -/
theorem switchTo_locked_iff {path volumeType : String} :
    (switchTo budget path volumeType around shelf).1 = .error .databaseLocked ↔
      ∀ n ≤ budget.maxRetries.toNat, attempts around shelf path n = .contended := by
  rw [← openWithin_locked_iff, switchTo]
  cases hopened : (openWithin budget (attempts around shelf path)).result with
  | error e => simp
  | ok directory =>
    cases htree : treeFault? around with
    | none => simp
    | some e =>
      obtain ⟨tree, -, hfault⟩ := List.exists_of_findSome?_eq_some htree
      obtain ⟨text, -, rfl⟩ := Option.map_eq_some_iff.1 hfault
      simp

/-- **Opening is tried again on contention only, and within its budget.**  Settings are refused
because of the lock exactly when they are known, their path is not open, and all attempts to open
it are contended. -/
theorem openWithin_retried (budget : RetryBudget) :
    (∀ (α : Type) (outcome : Nat → Attempt α),
      Retried budget.maxRetries outcome (openWithin budget outcome)) ∧
    ∀ (config : Dict String) (around : Surroundings) (shelf : Shelf),
      (init budget config around shelf).1 = .error .databaseLocked ↔
        unknownKey? config = none ∧
        (∀ catalogue ∈ shelf.current, ¬ Files.samePath catalogue.path (pathOf config) = true) ∧
        ∀ n ≤ budget.maxRetries.toNat, attempts around shelf (pathOf config) n = .contended := by
  refine ⟨fun α outcome => retried_openWithin budget outcome, fun config around shelf => ?_⟩
  cases hknown : unknownKey? config with
  | some key =>
    refine iff_of_false ?_ ?_
    · rw [init, hknown]
      intro h
      cases h
    · intro h
      cases h.1
  | none =>
    by_cases hopen : ∃ catalogue ∈ shelf.current,
        Files.samePath catalogue.path (pathOf config) = true
    · obtain ⟨catalogue, hcurrent, hsame⟩ := hopen
      refine iff_of_false ?_ ?_
      · rw [init_of_samePath hknown hcurrent hsame]
        intro h
        cases h
      · intro h
        exact h.2.1 catalogue hcurrent hsame
    · have hother : ∀ catalogue, shelf.current = some catalogue →
          ¬ Files.samePath catalogue.path (pathOf config) = true := by
        intro catalogue hcurrent hsame
        exact hopen ⟨catalogue, hcurrent, hsame⟩
      rw [init_of_not_samePath hknown hother, switchTo_locked_iff]
      constructor
      · intro hall
        exact ⟨rfl, hother, hall⟩
      · intro h
        exact h.2.2

/-- The greatest budget allows one attempt more than a number of thirty-two bits can count, and a
database that is free at the third attempt is opened after two delays. -/
theorem openWithin_retried_greatest :
    (openWithin ⟨0xffffffff, 1000⟩ fun _ => (.contended : Attempt String)).attempts =
        0x100000000 ∧
      openWithin ⟨0xffffffff, 1000⟩
          (fun n => if n < 2 then .contended else .opened "/srv/catalogue") =
        ⟨.ok "/srv/catalogue", 3, 2⟩ := by
  have hretried := (openWithin_retried ⟨0xffffffff, 1000⟩).1 String
  refine ⟨?_, ?_⟩
  · rw [(hretried fun _ => .contended).locked fun _ _ => rfl]
    rfl
  · refine (hretried _).ended 2 (.ok "/srv/catalogue") (by decide) ?_ rfl
    intro i hi
    exact if_pos hi

end RestorePlugins.Catalogue
