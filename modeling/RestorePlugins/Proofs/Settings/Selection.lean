import RestorePlugins.Service.Client

namespace RestorePlugins.Settings

/-!
# Which endpoint is chosen

A client chooses the first endpoint that is on and whose address is allowed, and switches off
what stands before it.

* `Endpoint.Usable` — on, with an allowed address.
* `countBefore` — how many endpoints stand before the chosen one.
* `select_eq` — **the choice in closed form**: the endpoint at that position, those before it
  off, those from it on as they were.
* `Selected`, `select_selected` — what follows for the choice, the switches and the sockets of a
  host, and for a second choice.
* `connectFirst_eq_noEndpoint_iff` — a client finds no endpoint exactly when none is usable.
-/

variable {usable : String → Bool} {endpoints : List Endpoint} {endpoint : Endpoint}

/-! ### Usable endpoints -/

/-- An endpoint that is on and whose address is allowed. -/
def Endpoint.Usable (usable : String → Bool) (endpoint : Endpoint) : Prop :=
  endpoint.enabled = true ∧ usable endpoint.path = true

instance : Decidable (endpoint.Usable usable) := inferInstanceAs (Decidable (_ ∧ _))

/-- An endpoint, switched off. -/
def Endpoint.off (endpoint : Endpoint) : Endpoint := { endpoint with enabled := false }

theorem Endpoint.not_usable_off (endpoint : Endpoint) : ¬ endpoint.off.Usable usable := by
  intro h
  cases h.1

/-- How many endpoints stand before the first usable one; all of them if none is usable. -/
def countBefore (usable : String → Bool) (endpoints : List Endpoint) : Nat :=
  endpoints.findIdx fun endpoint => decide (endpoint.Usable usable)

theorem countBefore_le (usable : String → Bool) (endpoints : List Endpoint) :
    countBefore usable endpoints ≤ endpoints.length := List.findIdx_le_length

/-! ### The choice in closed form -/

theorem select_cons_of_usable (h : endpoint.Usable usable) :
    select usable (endpoint :: endpoints) = (some endpoint, endpoint :: endpoints) := by
  rw [select, h.1, h.2]
  rfl

theorem select_cons_of_not_usable (h : ¬ endpoint.Usable usable) :
    select usable (endpoint :: endpoints) =
      ((select usable endpoints).1, endpoint.off :: (select usable endpoints).2) := by
  have hne : ¬ (endpoint.enabled && usable endpoint.path) = true := by
    intro hboth
    exact h ((Bool.and_eq_true_iff).1 hboth)
  rw [select, if_neg hne]
  rfl

/-- **The choice in closed form.**  The endpoint after the count is chosen, those before it are
switched off, and the others stay as they were. -/
theorem select_eq (usable : String → Bool) (endpoints : List Endpoint) :
    select usable endpoints =
      (endpoints[countBefore usable endpoints]?,
        (endpoints.take (countBefore usable endpoints)).map Endpoint.off ++
          endpoints.drop (countBefore usable endpoints)) := by
  induction endpoints with
  | nil => rfl
  | cons endpoint rest ih =>
    by_cases h : endpoint.Usable usable
    · have hcount : countBefore usable (endpoint :: rest) = 0 := by
        simp [countBefore, List.findIdx_cons, h]
      rw [select_cons_of_usable h, hcount]
      rfl
    · have hcount : countBefore usable (endpoint :: rest) = countBefore usable rest + 1 := by
        simp [countBefore, List.findIdx_cons, h]
      rw [select_cons_of_not_usable h, ih, hcount]
      rfl

/-! ### What the choice does -/

/-- What a choice comes to: an endpoint, if one is usable, and the endpoints afterwards. -/
structure Selected (usable : String → Bool) (before : List Endpoint) (chosen : Option Endpoint)
    (after : List Endpoint) : Prop where
  /-- An endpoint is chosen if and only if one is usable. -/
  isSome_iff : chosen.isSome = true ↔ ∃ endpoint ∈ before, endpoint.Usable usable
  /-- Some number of endpoints stands before the chosen one, or before the end if there is none:
  none of them is usable and they are off afterwards; the others are as they were. -/
  position : ∃ count ≤ before.length,
    chosen = before[count]? ∧
    (∀ endpoint, before[count]? = some endpoint → endpoint.Usable usable) ∧
    (∀ i endpoint, i < count → before[i]? = some endpoint →
      ¬ endpoint.Usable usable ∧ after[i]? = some { endpoint with enabled := false }) ∧
    ∀ i, count ≤ i → after[i]? = before[i]?
  /-- There are as many endpoints as before, with the paths that they had. -/
  paths : after.map Endpoint.path = before.map Endpoint.path
  /-- The first socket of a host is the chosen one, and a host has none if none is chosen. -/
  sockets : (enabledPaths after).head? = chosen.map Endpoint.path
  /-- A second choice answers the same and changes nothing more. -/
  again : select usable after = (chosen, after)

theorem usable_of_countBefore (h : endpoints[countBefore usable endpoints]? = some endpoint) :
    endpoint.Usable usable := by
  obtain ⟨hlt, rfl⟩ := List.getElem?_eq_some_iff.1 h
  exact of_decide_eq_true (List.findIdx_getElem (w := hlt))

theorem not_usable_of_lt_countBefore {i : Nat} (hi : i < countBefore usable endpoints)
    (h : endpoints[i]? = some endpoint) : ¬ endpoint.Usable usable := by
  obtain ⟨hlt, rfl⟩ := List.getElem?_eq_some_iff.1 h
  have hnot := List.not_of_lt_findIdx hi
  exact of_decide_eq_false hnot

theorem countBefore_lt_iff :
    countBefore usable endpoints < endpoints.length ↔
      ∃ endpoint ∈ endpoints, endpoint.Usable usable := by
  rw [countBefore, List.findIdx_lt_length]
  simp only [decide_eq_true_eq]

/-- What stands from the count on begins with the chosen endpoint, or is nothing. -/
theorem drop_countBefore_cases (usable : String → Bool) (endpoints : List Endpoint) :
    (endpoints[countBefore usable endpoints]? = none ∧
      endpoints.drop (countBefore usable endpoints) = []) ∨
    ∃ chosen back, chosen.Usable usable ∧
      endpoints[countBefore usable endpoints]? = some chosen ∧
      endpoints.drop (countBefore usable endpoints) = chosen :: back := by
  by_cases hlt : countBefore usable endpoints < endpoints.length
  · have hchosen := List.getElem?_eq_getElem hlt
    exact .inr ⟨_, _, usable_of_countBefore hchosen, hchosen, List.drop_eq_getElem_cons hlt⟩
  · have hle : endpoints.length ≤ countBefore usable endpoints := by omega
    exact .inl ⟨List.getElem?_eq_none hle, List.drop_eq_nil_of_le hle⟩

/-- An endpoint is chosen if and only if one is usable. -/
theorem isSome_select_iff (usable : String → Bool) (endpoints : List Endpoint) :
    (select usable endpoints).1.isSome = true ↔ ∃ endpoint ∈ endpoints, endpoint.Usable usable := by
  rw [← countBefore_lt_iff, select_eq]
  show (endpoints[countBefore usable endpoints]?).isSome = true ↔ _
  rw [Option.isSome_iff_ne_none, ne_eq, List.getElem?_eq_none_iff]
  omega

/-- Endpoints that are off are no sockets of a host. -/
theorem enabledPaths_off_append (front back : List Endpoint) :
    enabledPaths (front.map Endpoint.off ++ back) = enabledPaths back := by
  have hnone : (front.map Endpoint.off).filter (·.enabled) = [] := by
    rw [List.filter_eq_nil_iff]
    intro endpoint hmem
    obtain ⟨_, -, rfl⟩ := List.mem_map.1 hmem
    exact Bool.false_ne_true
  rw [enabledPaths, List.filter_append, hnone, List.nil_append]
  rfl

/-- Endpoints that are off do not matter to a choice, and stay off. -/
theorem select_off_append (front back : List Endpoint) :
    select usable (front.map Endpoint.off ++ back) =
      ((select usable back).1, front.map Endpoint.off ++ (select usable back).2) := by
  induction front with
  | nil => rfl
  | cons endpoint rest ih =>
    rw [List.map_cons, List.cons_append, select_cons_of_not_usable endpoint.not_usable_off, ih]
    rfl

/-- **The first usable endpoint is chosen, and what stands before it is switched off.** -/
theorem select_selected (usable : String → Bool) (endpoints : List Endpoint) :
    Selected usable endpoints (select usable endpoints).1 (select usable endpoints).2 := by
  have hle := countBefore_le usable endpoints
  have hfront : ((endpoints.take (countBefore usable endpoints)).map Endpoint.off).length =
      countBefore usable endpoints := by
    rw [List.length_map, List.length_take]
    omega
  have hsome := isSome_select_iff usable endpoints
  rw [select_eq usable endpoints] at hsome ⊢
  exact {
    isSome_iff := hsome
    position := by
      refine ⟨countBefore usable endpoints, hle, rfl, ?_, ?_, ?_⟩
      · intro endpoint h
        exact usable_of_countBefore h
      · intro i endpoint hi h
        refine ⟨not_usable_of_lt_countBefore hi h, ?_⟩
        rw [List.getElem?_append_left (by omega), List.getElem?_map,
          List.getElem?_take_of_lt hi, h]
        rfl
      · intro i hi
        rw [List.getElem?_append_right (by omega), List.getElem?_drop]
        congr 1
        omega
    paths := by
      have hoff : (Endpoint.path ∘ Endpoint.off) = Endpoint.path := rfl
      rw [List.map_append, List.map_map, hoff, ← List.map_append, List.take_append_drop]
    sockets := by
      rw [enabledPaths_off_append]
      rcases drop_countBefore_cases usable endpoints with
        ⟨hnone, hdrop⟩ | ⟨chosen, back, h, hsome, hdrop⟩
      · rw [hnone, hdrop]
        rfl
      · rw [hsome, hdrop, enabledPaths, List.filter_cons_of_pos h.1]
        rfl
    again := by
      rw [select_off_append]
      rcases drop_countBefore_cases usable endpoints with
        ⟨hnone, hdrop⟩ | ⟨chosen, back, h, hsome, hdrop⟩
      · rw [hnone, hdrop]
        rfl
      · rw [hsome, hdrop, select_cons_of_usable h] }

/-- Of two allowed addresses the first one that is on is chosen; an allowed address that is off
stays off, a refused one is switched off, and what stands behind the choice is not looked at. -/
example :
    select (· ≠ "refused")
        [⟨"a.sock", false⟩, ⟨"refused", true⟩, ⟨"b.sock", true⟩, ⟨"refused", true⟩] =
      (some ⟨"b.sock", true⟩,
        [⟨"a.sock", false⟩, ⟨"refused", false⟩, ⟨"b.sock", true⟩, ⟨"refused", true⟩]) := by
  decide

/-! ### The client -/

/-- **A client finds no endpoint exactly when none is usable**, and nothing else keeps it from the
way to a host. -/
theorem connectFirst_eq_noEndpoint_iff {W : Type} (fs : Files.FileSystem)
    (host : Service.Host W) (error : Service.ClientError) :
    Service.connectFirst fs host endpoints = .error error ↔
      error = .noEndpoint ∧ ∀ endpoint ∈ endpoints, ¬ endpoint.Usable isSocketAddress := by
  have hsome := isSome_select_iff isSocketAddress endpoints
  rw [Service.connectFirst]
  cases hchosen : (select isSocketAddress endpoints).1 with
  | some endpoint =>
    rw [hchosen] at hsome
    obtain ⟨found, hmem, husable⟩ := hsome.1 rfl
    refine iff_of_false ?_ ?_
    · intro h
      cases h
    · intro h
      exact h.2 found hmem husable
  | none =>
    rw [hchosen] at hsome
    have hnone : ∀ endpoint ∈ endpoints, ¬ endpoint.Usable isSocketAddress := by
      intro endpoint hmem husable
      cases hsome.2 ⟨endpoint, hmem, husable⟩
    constructor
    · intro h
      cases h
      exact ⟨rfl, hnone⟩
    · intro h
      rw [h.1]

end RestorePlugins.Settings
