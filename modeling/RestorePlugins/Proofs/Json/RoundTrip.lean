import RestorePlugins.Proofs.Json.Spelling

namespace RestorePlugins.Json

/-!
# Written documents are read back

* `Exact`, `Portable` — documents whose numbers are integers of sixty-four bits, and those of
  them that nest no deeper than a reader follows.
* `spells_compact` — the compact form of an exact document is one of its spellings.
* `parse_compact` — writing and reading is the identity on portable documents.
-/

/-! ### Exact documents -/

mutual

/-- Numbers are integers of sixty-four bits, signed or not, and fields stand in key order. -/
def Exact : Json → Prop
  | .int i => minInt ≤ i ∧ i ≤ maxInt
  | .float _ => False
  | .arr items => ExactItems items
  | .obj fields => Entries.Ascending fields ∧ ExactFields fields
  | _ => True

/-- Every item is exact. -/
def ExactItems : List Json → Prop
  | [] => True
  | item :: rest => Exact item ∧ ExactItems rest

/-- Every field's value is exact. -/
def ExactFields : List (String × Json) → Prop
  | [] => True
  | (_, value) :: rest => Exact value ∧ ExactFields rest

end

/-- What can be sent without a loss: an exact document of at most 127 levels. -/
structure Portable (doc : Json) : Prop where
  exact : doc.Exact
  shallow : doc.depth ≤ 127

/-! ### Equality of exact documents -/

mutual

/-- Exact documents that are equal as values are equal. -/
theorem eq_of_beq_of_exact : ∀ {a b : Json}, a.Exact → beq a b = true → a = b
  | .null, b, _, h => by cases b <;> simp_all [beq]
  | .bool _, b, _, h => by cases b <;> simp_all [beq]
  | .int _, b, _, h => by cases b <;> simp_all [beq]
  | .str _, b, _, h => by cases b <;> simp_all [beq]
  | .arr items, b, hexact, h => by
    cases b with
    | arr others => rw [eq_of_beqItems_of_exact hexact h]
    | _ => simp [beq] at h
  | .obj fields, b, hexact, h => by
    cases b with
    | obj others => rw [eq_of_beqFields_of_exact hexact.2 h]
    | _ => simp [beq] at h

theorem eq_of_beqItems_of_exact : ∀ {a b : List Json}, ExactItems a → beqItems a b = true → a = b
  | [], b, _, h => by cases b <;> simp_all [beqItems]
  | item :: rest, b, hexact, h => by
    cases b with
    | nil => simp [beqItems] at h
    | cons other others =>
      simp only [beqItems, Bool.and_eq_true] at h
      rw [eq_of_beq_of_exact hexact.1 h.1, eq_of_beqItems_of_exact hexact.2 h.2]

theorem eq_of_beqFields_of_exact : ∀ {a b : List (String × Json)}, ExactFields a →
    beqFields a b = true → a = b
  | [], b, _, h => by cases b <;> simp_all [beqFields]
  | (key, value) :: rest, b, hexact, h => by
    cases b with
    | nil => simp [beqFields] at h
    | cons other others =>
      obtain ⟨otherKey, otherValue⟩ := other
      simp only [beqFields, Bool.and_eq_true, beq_iff_eq] at h
      rw [h.1.1, eq_of_beq_of_exact hexact.1 h.1.2, eq_of_beqFields_of_exact hexact.2 h.2]

end

mutual

/-- An exact document is equal to itself as a value. -/
theorem beq_self_of_exact : ∀ {a : Json}, a.Exact → beq a a = true
  | .null, _ => rfl
  | .bool _, _ => by simp [beq]
  | .int _, _ => by simp [beq]
  | .str _, _ => by simp [beq]
  | .arr _, h => beqItems_self_of_exact h
  | .obj _, h => beqFields_self_of_exact h.2

theorem beqItems_self_of_exact : ∀ {a : List Json}, ExactItems a → beqItems a a = true
  | [], _ => rfl
  | _ :: _, h => by
    simp only [beqItems, beq_self_of_exact h.1, beqItems_self_of_exact h.2, Bool.and_self]

theorem beqFields_self_of_exact : ∀ {a : List (String × Json)}, ExactFields a →
    beqFields a a = true
  | [], _ => rfl
  | (_, _) :: _, h => by
    simp only [beqFields, beq_self_of_exact h.1, beqFields_self_of_exact h.2, BEq.rfl,
      Bool.and_self]

end

/-- For exact documents, equality as values is equality. -/
theorem beq_iff_eq_of_exact {a b : Json} (h : a.Exact) : (a == b) = true ↔ a = b := by
  constructor
  · exact eq_of_beq_of_exact h
  · rintro rfl
    exact beq_self_of_exact h

/-! ### Compact forms -/

/-- The pairs of an object in key order are its fields. -/
theorem ofPairs_of_ascending {fields : List (String × Json)} (h : Entries.Ascending fields) :
    Entries.ofPairs fields = fields :=
  congrArg Dict.entries (Dict.ofPairs_of_perm (List.Perm.refl (Dict.mk fields h).entries))

/-- A value without blanks around it. -/
theorem Spells.element {n : Nat} {doc : Json} {text : Bytes} (h : Spells n doc text) :
    SpellsElement n doc text := by
  have helement := SpellsElement.mk blanks_nil h blanks_nil
  rwa [List.nil_append, List.append_nil] at helement

/-- A field without blanks. -/
theorem Spells.field {n : Nat} {value : Json} {text : Bytes} (h : Spells n value text)
    (key : String) : SpellsField n (key, value) (quote key ++ 0x3a :: text) := by
  rw [quote_append]
  exact .mk blanks_nil (spellsText_escapeBytes key) blanks_nil h.element

mutual

/-- **Compact forms.** The compact form of an exact document spells it. -/
theorem spells_compact : ∀ (doc : Json) (n : Nat), doc.Exact → doc.depth ≤ n →
    Spells n doc doc.compact
  | .null, n, _, _ => by
    simp only [compact]
    exact .null
  | .bool true, n, _, _ => by
    simp only [compact]
    exact .true
  | .bool false, n, _, _ => by
    simp only [compact]
    exact .false
  | .int i, n, hexact, _ => by
    simp only [compact]
    exact .int hexact
  | .float x, n, hexact, _ => absurd hexact (by simp [Exact])
  | .str s, n, _, _ => by
    simp only [compact, quote]
    exact .str (spellsText_escapeBytes s)
  | .arr [], n, _, hdepth => by
    simp only [Json.depth] at hdepth
    obtain ⟨n, rfl⟩ : ∃ m, n = m + 1 := ⟨n - 1, by omega⟩
    simp only [compact, compactItems]
    exact .emptyArr blanks_nil
  | .arr (item :: items), n, hexact, hdepth => by
    simp only [Json.depth, depthItems] at hdepth
    obtain ⟨n, rfl⟩ : ∃ m, n = m + 1 := ⟨n - 1, by omega⟩
    simp only [compact]
    exact .arr (spellsItems_compact item items n hexact.1 hexact.2 (by omega) (by omega))
  | .obj [], n, _, hdepth => by
    simp only [Json.depth] at hdepth
    obtain ⟨n, rfl⟩ : ∃ m, n = m + 1 := ⟨n - 1, by omega⟩
    simp only [compact, compactFields]
    exact .emptyObj blanks_nil
  | .obj ((key, value) :: fields), n, hexact, hdepth => by
    simp only [Json.depth, depthFields] at hdepth
    obtain ⟨n, rfl⟩ : ∃ m, n = m + 1 := ⟨n - 1, by omega⟩
    have hobj := Spells.obj (spellsFields_compact key value fields n hexact.2.1 hexact.2.2
      (by omega) (by omega))
    rw [ofPairs_of_ascending hexact.1] at hobj
    simp only [compact]
    exact hobj

theorem spellsItems_compact : ∀ (item : Json) (items : List Json) (n : Nat), item.Exact →
    ExactItems items → item.depth ≤ n → depthItems items ≤ n →
    SpellsItems n (item :: items) (compactItems (item :: items))
  | item, [], n, hexact, _, hdepth, _ => by
    simp only [compactItems]
    exact .one (spells_compact item n hexact hdepth).element
  | item, next :: items, n, hexact, hrest, hdepth, hdepthRest => by
    simp only [depthItems] at hdepthRest
    simp only [compactItems]
    exact .more (spells_compact item n hexact hdepth).element
      (spellsItems_compact next items n hrest.1 hrest.2 (by omega) (by omega))

theorem spellsFields_compact : ∀ (key : String) (value : Json) (fields : List (String × Json))
    (n : Nat), value.Exact → ExactFields fields → value.depth ≤ n → depthFields fields ≤ n →
    SpellsFields n ((key, value) :: fields) (compactFields ((key, value) :: fields))
  | key, value, [], n, hexact, _, hdepth, _ => by
    simp only [compactFields]
    exact .one ((spells_compact value n hexact hdepth).field key)
  | key, value, (next, nextValue) :: fields, n, hexact, hrest, hdepth, hdepthRest => by
    simp only [depthFields] at hdepthRest
    have hfields := SpellsFields.more ((spells_compact value n hexact hdepth).field key)
      (spellsFields_compact next nextValue fields n hrest.1 hrest.2 (by omega) (by omega))
    rw [List.append_assoc, List.cons_append] at hfields
    simp only [compactFields]
    exact hfields

end

/-- **Round trip.** A portable document is what its compact form spells. -/
theorem parse_compact {doc : Json} (h : Portable doc) : parse doc.compact = .ok doc :=
  parse_of_spells (spells_compact doc 127 h.exact h.shallow).element

end RestorePlugins.Json
