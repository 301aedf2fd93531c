import Mathlib.Data.List.TakeDrop
import Mathlib.Data.List.TakeWhile

namespace RestorePlugins

/-!
# Separators

Texts are taken apart at a character: at the first one, or at all of them.

* `takeWhile_eq_iff` — what stands before the first character of any sort.
* `takeWhile_ne_append`, `dropWhile_ne_append`, `span_ne_append` — what stands before the first
  such character and what begins with it.
* `span_ne_of_not_mem` — a text without the character stays whole.
* `not_mem_of_mem_splitOn` — the pieces between all of them are free of it.
-/

variable {c : Char} {chars front : List Char}

theorem forall_ne_of_not_mem (h : c ∉ chars) : ∀ d ∈ chars, decide (d ≠ c) = true := by
  intro d hd
  exact decide_eq_true fun heq => h (heq ▸ hd)

/-! ### The first one -/

/-- What stands before the first character that does not belong to it: a front part that belongs to
it, as long as it can be. -/
theorem takeWhile_eq_iff {belongs : Char → Bool} :
    chars.takeWhile belongs = front ↔ front <+: chars ∧ (∀ d ∈ front, belongs d = true) ∧
      ∀ d ∈ (chars.drop front.length).head?, belongs d = false := by
  constructor
  · rintro rfl
    refine ⟨List.takeWhile_prefix belongs, fun d => List.mem_takeWhile_imp, fun d hd => ?_⟩
    have hwhole : chars.takeWhile belongs ++ chars.dropWhile belongs = chars :=
      List.takeWhile_append_dropWhile
    have hdrop : chars.drop (chars.takeWhile belongs).length = chars.dropWhile belongs :=
      calc chars.drop (chars.takeWhile belongs).length
        _ = (chars.takeWhile belongs ++ chars.dropWhile belongs).drop
              (chars.takeWhile belongs).length := by rw [hwhole]
        _ = chars.dropWhile belongs := List.drop_left
    rw [hdrop, Option.mem_def] at hd
    simpa [hd] using List.head?_dropWhile_not belongs chars
  · rintro ⟨⟨back, rfl⟩, hfront, hback⟩
    rw [List.takeWhile_append_of_pos hfront]
    rw [List.drop_left] at hback
    cases back with
    | nil => simp
    | cons d back => simp [hback d rfl]

theorem takeWhile_ne_append (h : c ∉ front) (back : List Char) :
    (front ++ c :: back).takeWhile (· ≠ c) = front := by
  rw [List.takeWhile_append_of_pos (forall_ne_of_not_mem h)]
  simp

theorem dropWhile_ne_append (h : c ∉ front) (back : List Char) :
    (front ++ c :: back).dropWhile (· ≠ c) = c :: back := by
  rw [List.dropWhile_append_of_pos (forall_ne_of_not_mem h)]
  simp

/-- A text is taken apart at the first of a character. -/
theorem span_ne_append (h : c ∉ front) (back : List Char) :
    (front ++ c :: back).span (· ≠ c) = (front, c :: back) := by
  rw [List.span_eq_takeWhile_dropWhile, takeWhile_ne_append h, dropWhile_ne_append h]

theorem takeWhile_ne_of_not_mem (h : c ∉ chars) : chars.takeWhile (· ≠ c) = chars :=
  List.takeWhile_eq_self_iff.2 (forall_ne_of_not_mem h)

theorem dropWhile_ne_of_not_mem (h : c ∉ chars) : chars.dropWhile (· ≠ c) = [] :=
  List.dropWhile_eq_nil_iff.2 (forall_ne_of_not_mem h)

/-- A text without the character stays whole. -/
theorem span_ne_of_not_mem (h : c ∉ chars) : chars.span (· ≠ c) = (chars, []) := by
  rw [List.span_eq_takeWhile_dropWhile, takeWhile_ne_of_not_mem h, dropWhile_ne_of_not_mem h]

/-! ### All of them -/

/-- The pieces of a split text are free of what it was split at. -/
theorem not_mem_of_mem_splitOn {piece : List Char} (h : piece ∈ chars.splitOn c) : c ∉ piece := by
  induction chars generalizing piece with
  | nil =>
    rw [List.splitOn_nil, List.mem_singleton] at h
    rw [h]
    exact List.not_mem_nil
  | cons first rest ih =>
    rw [List.splitOn_cons_eq_if_modifyHead] at h
    split at h
    · rcases List.mem_cons.1 h with rfl | hrest
      · exact List.not_mem_nil
      · exact ih hrest
    · next hne =>
      -- The first character joins the first piece of the rest.
      obtain ⟨head, others, hsplit⟩ := List.exists_cons_of_ne_nil (List.splitOn_ne_nil c rest)
      rw [hsplit, List.modifyHead_cons] at h
      rcases List.mem_cons.1 h with rfl | hothers
      · have hhead : c ∉ head := ih (by rw [hsplit]; exact List.mem_cons_self)
        rw [List.mem_cons, not_or]
        exact ⟨fun heq => hne (beq_iff_eq.2 heq.symm), hhead⟩
      · exact ih (by rw [hsplit]; exact List.mem_cons_of_mem _ hothers)

end RestorePlugins
