import RestorePlugins.Action.StorageClass
import RestorePlugins.Proofs.Json.Editing

namespace RestorePlugins.StorageClass

/-!
# Changing storage classes never fails

A field whose text has a new class lies in an object, so both fields can be written.

* `rewrite` — the item with its new classes, as a total function.
* `replaceBoth_eq_rewrite` — writing both new classes succeeds.
* `Mapped` — a field names a class that the mapping has a new one for.
* `nested_rewrite_of_mapped`, `nested_rewrite_apart`, `isSome_nested_rewrite` — mapped fields hold
  their new classes, the other paths lead where they led, and none is added or lost.
* `rewrite_rewrite` — a second run of a mapping that does not chain changes nothing.
* `execute_changes_mapped` — the rule as a whole.
-/

variable {mapping : Dict String} {item after : Json}

/-! ### Writing one class -/

/-- A new class stands for a text in an object. -/
theorem nested_of_newClass (front : List String) {key name : String}
    (h : newClass mapping item (front ++ [key]) = some name) :
    ∃ inner, item.nested front = some (.obj inner) := by
  obtain ⟨text, htext, -⟩ := Option.bind_eq_some_iff.1 h
  exact Json.nested_of_nestedString htext

/-- A class can be written into an object. -/
theorem replaceClass_of_nested {path : List String} {inner : Json.Fields}
    (h : item.nested path = some (.obj inner)) (key : String) (new : Option String) :
    ∃ after, replaceClass path key new item = .ok after := by
  cases new with
  | none => exact ⟨item, rfl⟩
  | some name => exact Json.editObject_of_nested h _

/-- A path through another field leads where it led before. -/
theorem nested_of_replaceClass {key other : String} (hne : key ≠ other)
    {front : List String} {name : String} {new : Option String}
    (h : replaceClass (key :: front) name new item = .ok after) (back : List String) :
    after.nested (other :: back) = item.nested (other :: back) := by
  cases new with
  | none => cases h; rfl
  | some text => exact Json.nested_of_edited_other hne h

/-- A path through another key of the written object leads where it led before. -/
theorem nested_of_replaceClass_key {name other : String} (hne : name ≠ other)
    (path : List String) {back : List String} {new : Option String}
    (h : replaceClass path name new item = .ok after) :
    after.nested (path ++ other :: back) = item.nested (path ++ other :: back) := by
  cases new with
  | none => cases h; rfl
  | some text =>
    exact Json.nested_of_edited_key (fun fields => by simp [Entries.find?_insert, hne]) h

/-! ### Writing both classes -/

/-- Writing both classes is writing the one and then the other. -/
theorem replaceBoth_eq_ok_iff {spec annotation : Option String} :
    replaceBoth spec annotation item = .ok after ↔
      ∃ middle, replaceClass ["spec"] "storageClassName" spec item = .ok middle ∧
        replaceClass ["metadata", "annotations"] annotationKey annotation middle = .ok after := by
  unfold replaceBoth
  cases replaceClass ["spec"] "storageClassName" spec item with
  | error fault => simp [bind, Except.bind]
  | ok middle => simp [bind, Except.bind]

/-- The new class of the annotation stands for a text among the annotations. -/
theorem annotations_of_annotationClass {name : String}
    (h : annotationClass mapping item = some name) :
    ∃ inner, item.nested ["metadata", "annotations"] = some (.obj inner) := by
  unfold annotationClass at h
  split at h
  · exact nested_of_newClass ["metadata", "annotations"] h
  · cases h

/-- The item with its new classes. -/
def rewrite (mapping : Dict String) (item : Json) : Json :=
  ((replaceBoth (specClass mapping item) (annotationClass mapping item) item).toOption).getD item

/-- **Totality.** Writing both new classes succeeds. -/
theorem replaceBoth_eq_rewrite (mapping : Dict String) (item : Json) :
    replaceBoth (specClass mapping item) (annotationClass mapping item) item =
      .ok (rewrite mapping item) := by
  -- The class of the specification goes into the object that its text was found in.
  have hspec : ∃ middle, replaceClass ["spec"] "storageClassName" (specClass mapping item) item =
      .ok middle := by
    cases hclass : specClass mapping item with
    | none => exact ⟨item, rfl⟩
    | some name =>
      obtain ⟨inner, hinner⟩ := nested_of_newClass ["spec"] hclass
      exact replaceClass_of_nested hinner _ _
  obtain ⟨middle, hmiddle⟩ := hspec
  -- The annotations are still an object afterwards.
  have hlegacy : ∃ after, replaceClass ["metadata", "annotations"] annotationKey
      (annotationClass mapping item) middle = .ok after := by
    cases hclass : annotationClass mapping item with
    | none => exact ⟨middle, rfl⟩
    | some name =>
      obtain ⟨inner, hinner⟩ := annotations_of_annotationClass hclass
      have hkept := nested_of_replaceClass (by decide : "spec" ≠ "metadata") hmiddle
        ["annotations"]
      exact replaceClass_of_nested (hkept.trans hinner) _ _
  obtain ⟨after, hafter⟩ := hlegacy
  have hboth := replaceBoth_eq_ok_iff.2 ⟨middle, hmiddle, hafter⟩
  rw [rewrite, hboth]
  rfl

/-- Without a new class the item stays as it is. -/
theorem rewrite_of_none (hspec : specClass mapping item = none)
    (hlegacy : annotationClass mapping item = none) : rewrite mapping item = item := by
  rw [rewrite, hspec, hlegacy]
  rfl

/-- The rule as a whole always gives an output, which changes the item to `rewrite`. -/
theorem execute_eq (mapping : Dict String) (input : ExecuteInput) :
    execute mapping input =
      .ok (if specClass mapping input.item = none ∧ annotationClass mapping input.item = none
        then .unchanged else .updated (rewrite mapping input.item)) := by
  simp only [execute, replaceBoth_eq_rewrite]
  cases specClass mapping input.item <;> cases annotationClass mapping input.item <;> rfl

/-! ### What stays -/

/-- A path that starts neither in the specification nor in the metadata leads where it led. -/
theorem nested_rewrite {other : String} (hspec : "spec" ≠ other) (hmeta : "metadata" ≠ other)
    (back : List String) :
    (rewrite mapping item).nested (other :: back) = item.nested (other :: back) := by
  obtain ⟨middle, hmiddle, hafter⟩ :=
    replaceBoth_eq_ok_iff.1 (replaceBoth_eq_rewrite mapping item)
  rw [nested_of_replaceClass hmeta hafter, nested_of_replaceClass hspec hmiddle]

/-- A path through another field of the specification leads where it led. -/
theorem nested_rewrite_spec {other : String} (hne : "storageClassName" ≠ other)
    (back : List String) :
    (rewrite mapping item).nested ("spec" :: other :: back) =
      item.nested ("spec" :: other :: back) := by
  obtain ⟨middle, hmiddle, hafter⟩ :=
    replaceBoth_eq_ok_iff.1 (replaceBoth_eq_rewrite mapping item)
  rw [nested_of_replaceClass (by decide : "metadata" ≠ "spec") hafter]
  exact nested_of_replaceClass_key hne ["spec"] hmiddle

/-- One new class keeps an object an object and makes none of anything else. -/
theorem isObject_of_replaceClass {path : List String} {key : String} {new : Option String}
    (h : replaceClass path key new item = .ok after) : after.isObject = item.isObject := by
  cases new with
  | none => cases h; rfl
  | some name =>
    obtain ⟨fields, rfl⟩ := Json.exists_fields_of_edited h
    obtain ⟨fields', rfl⟩ := Json.exists_fields_of_edited_result h
    rfl

/-- The rule keeps an object an object and makes none of anything else. -/
theorem isObject_rewrite (mapping : Dict String) (item : Json) :
    (rewrite mapping item).isObject = item.isObject := by
  obtain ⟨middle, hmiddle, hafter⟩ :=
    replaceBoth_eq_ok_iff.1 (replaceBoth_eq_rewrite mapping item)
  rw [isObject_of_replaceClass hafter, isObject_of_replaceClass hmiddle]

/-! ### The fields with a class -/

/-- The mapping has a class for the one that a field names: the field of the specification, or, in a
claim, the older annotation. -/
def Mapped (mapping : Dict String) (item : Json) (field : List String) (name : String) : Prop :=
  (field = ["spec", "storageClassName"] ∨
    field = ["metadata", "annotations", "volume.beta.kubernetes.io/storage-class"] ∧
      item.nestedString ["kind"] = some "PersistentVolumeClaim") ∧
  ∃ old, item.nestedString field = some old ∧ mapping.get? old = some name

theorem specClass_eq_some_iff {name : String} : specClass mapping item = some name ↔
    Mapped mapping item ["spec", "storageClassName"] name := by
  rw [specClass, newClass, Option.bind_eq_some_iff]
  exact ⟨fun h => ⟨.inl rfl, h⟩, fun h => h.2⟩

theorem annotationClass_eq_some_iff {name : String} : annotationClass mapping item = some name ↔
    Mapped mapping item ["metadata", "annotations", annotationKey] name := by
  unfold annotationClass
  constructor
  · intro h
    split at h
    · next hclaim => exact ⟨.inr ⟨rfl, beq_iff_eq.1 hclaim⟩, Option.bind_eq_some_iff.1 h⟩
    · cases h
  · rintro ⟨hfield | ⟨-, hclaim⟩, hclass⟩
    · exact absurd hfield (by decide)
    · rw [isClaim, if_pos (beq_iff_eq.2 hclaim)]
      exact Option.bind_eq_some_iff.2 hclass

/-- A mapped field is one of the two that are written. -/
theorem mapped_cases {field : List String} {name : String} (h : Mapped mapping item field name) :
    (field = ["spec", "storageClassName"] ∧ specClass mapping item = some name) ∨
      (field = ["metadata", "annotations", annotationKey] ∧
        annotationClass mapping item = some name) := by
  rcases h.1 with rfl | ⟨rfl, -⟩
  · exact .inl ⟨rfl, specClass_eq_some_iff.2 h⟩
  · exact .inr ⟨rfl, annotationClass_eq_some_iff.2 h⟩

/-! ### One write -/

/-- A written field holds its new class. -/
theorem nested_replaced {path : List String} {key name : String}
    (h : replaceClass path key (some name) item = .ok after) :
    after.nested (path ++ [key]) = some (.str name) := by
  obtain ⟨fields, hfields⟩ := Json.exists_nested_of_edited h
  rw [Json.nested_append, hfields, Option.bind_some, Json.nested_cons, Json.get?_obj,
    Entries.find?_insert_self]
  rfl

/-- A write of a class in place of a text changes no path but those to its own field. -/
theorem nested_replaced_apart {path other : List String} {key name old : String}
    (h : replaceClass path key (some name) item = .ok after)
    (hold : item.nestedString (path ++ [key]) = some old) (hother : ¬ other <+: path ++ [key]) :
    after.nested other = item.nested other := by
  by_cases hthrough : path ++ [key] <+: other
  · -- Neither the old text nor the new one has fields.
    obtain ⟨back, rfl⟩ := hthrough
    cases back with
    | nil => exact absurd (by simp) hother
    | cons next back =>
      rw [Json.nested_below_text (nested_replaced h) next back,
        Json.nested_below_text (Json.nested_of_nestedString_eq hold) next back]
  · have hends : ¬ other <+: path := fun hinside =>
      hother (hinside.trans (List.prefix_append path [key]))
    refine Json.nested_of_edited_apart hends (fun next back heq fields => ?_) h
    have hne : key ≠ next := by
      rintro rfl
      exact hthrough ⟨back, by rw [heq, List.append_assoc, List.singleton_append]⟩
    rw [Entries.find?_insert, if_neg hne]

/-- A write of a class in place of a text leaves the same paths leading somewhere. -/
theorem isSome_nested_replaced {path : List String} {key name old : String}
    (h : replaceClass path key (some name) item = .ok after)
    (hold : item.nestedString (path ++ [key]) = some old) (other : List String) :
    (after.nested other).isSome = (item.nested other).isSome := by
  by_cases hother : other <+: path ++ [key]
  · have hafter : (after.nested (path ++ [key])).isSome = true := by rw [nested_replaced h]; rfl
    have hitem : (item.nested (path ++ [key])).isSome = true := by
      rw [Json.nested_of_nestedString_eq hold]
      rfl
    rw [Json.isSome_nested_of_prefix hother hafter, Json.isSome_nested_of_prefix hother hitem]
  · rw [nested_replaced_apart h hold hother]

/-- A second write of the same class changes nothing. -/
theorem replaceClass_again {path : List String} {key : String} {new : Option String}
    (h : replaceClass path key new item = .ok after) :
    replaceClass path key new after = .ok after := by
  cases new with
  | none => rfl
  | some name =>
    have honce : ∀ fields : Json.Fields, Entries.insert key (.str name)
        (Entries.insert key (.str name) fields) = Entries.insert key (.str name) fields :=
      fun fields => Entries.insert_insert_self key _ _ fields
    exact Json.editObject_again honce h

/-! ### Both writes -/

/-- The two writes, each of which has left the other's field as it was. -/
theorem exists_writes (mapping : Dict String) (item : Json) : ∃ middle,
    replaceClass ["spec"] "storageClassName" (specClass mapping item) item = .ok middle ∧
    replaceClass ["metadata", "annotations"] annotationKey (annotationClass mapping item) middle =
      .ok (rewrite mapping item) ∧
    (∀ back, middle.nested ("metadata" :: back) = item.nested ("metadata" :: back)) ∧
    ∀ back, (rewrite mapping item).nested ("spec" :: back) = middle.nested ("spec" :: back) := by
  obtain ⟨middle, hmiddle, hafter⟩ :=
    replaceBoth_eq_ok_iff.1 (replaceBoth_eq_rewrite mapping item)
  exact ⟨middle, hmiddle, hafter, nested_of_replaceClass (by decide) hmiddle,
    nested_of_replaceClass (by decide) hafter⟩

/-- Every mapped field holds its new class. -/
theorem nested_rewrite_of_mapped {field : List String} {name : String}
    (h : Mapped mapping item field name) :
    (rewrite mapping item).nested field = some (.str name) := by
  obtain ⟨middle, hmiddle, hafter, -, hspec⟩ := exists_writes mapping item
  rcases mapped_cases h with ⟨rfl, hclass⟩ | ⟨rfl, hclass⟩
  · rw [hclass] at hmiddle
    rw [hspec]
    exact nested_replaced hmiddle
  · rw [hclass] at hafter
    exact nested_replaced hafter

/-- What each write of a mapped field keeps of a document is kept by both. -/
theorem rewrite_keeps {α : Type} (view : Json → α)
    (hwrite : ∀ (path : List String) (key name old : String) (before after : Json),
      Mapped mapping item (path ++ [key]) name → before.nestedString (path ++ [key]) = some old →
      replaceClass path key (some name) before = .ok after → view after = view before) :
    view (rewrite mapping item) = view item := by
  obtain ⟨middle, hmiddle, hafter, hmetadata, -⟩ := exists_writes mapping item
  have hfirst : view middle = view item := by
    cases hclass : specClass mapping item with
    | none =>
      rw [hclass] at hmiddle
      cases hmiddle
      rfl
    | some name =>
      rw [hclass] at hmiddle
      have hmapped := specClass_eq_some_iff.1 hclass
      obtain ⟨old, hold, -⟩ := hmapped.2
      exact hwrite ["spec"] _ name old item middle hmapped hold hmiddle
  rw [← hfirst]
  cases hclass : annotationClass mapping item with
  | none =>
    rw [hclass] at hafter
    cases hafter
    rfl
  | some name =>
    rw [hclass] at hafter
    have hmapped := annotationClass_eq_some_iff.1 hclass
    obtain ⟨old, hold, -⟩ := hmapped.2
    refine hwrite ["metadata", "annotations"] _ name old middle _ hmapped ?_ hafter
    rw [Json.nestedString, List.cons_append, hmetadata]
    exact hold

/-- **Frame.** A path that leads to no mapped field, and to no object around one, leads where it
led. -/
theorem nested_rewrite_apart {other : List String}
    (h : ∀ field name, Mapped mapping item field name → ¬ other <+: field) :
    (rewrite mapping item).nested other = item.nested other := by
  apply rewrite_keeps fun doc => doc.nested other
  intro path key name old before after hmapped hold hafter
  exact nested_replaced_apart hafter hold (h _ _ hmapped)

/-- **Shape.** The same paths lead somewhere. -/
theorem isSome_nested_rewrite (mapping : Dict String) (item : Json) (other : List String) :
    ((rewrite mapping item).nested other).isSome = (item.nested other).isSome := by
  apply rewrite_keeps fun doc => (doc.nested other).isSome
  intro path key name old before after hmapped hold hafter
  exact isSome_nested_replaced hafter hold other

/-! ### A second run -/

/-- What the first run has written, or nothing, is written again without a change. -/
theorem replaceBoth_again {spec annotation spec' annotation' : Option String}
    (h : replaceBoth spec annotation item = .ok after) (hspec : spec' = none ∨ spec' = spec)
    (hbeta : annotation' = none ∨ annotation' = annotation) :
    replaceBoth spec' annotation' after = .ok after := by
  obtain ⟨middle, hmiddle, hafter⟩ := replaceBoth_eq_ok_iff.1 h
  refine replaceBoth_eq_ok_iff.2 ⟨after, ?_, ?_⟩
  · rcases hspec with rfl | rfl
    · rfl
    · -- The write into the specification may be made before that into the annotations.
      cases spec' with
      | none => rfl
      | some name =>
        cases annotation with
        | none =>
          cases hafter
          exact replaceClass_again hmiddle
        | some text =>
          have hswap : after.editObject ["spec"] (Entries.insert "storageClassName" (.str name)) =
              middle.editObject ["spec"] (Entries.insert "storageClassName" (.str name)) >>=
                fun d => d.editObject ["metadata", "annotations"]
                  (Entries.insert annotationKey (.str text)) :=
            Json.editObject_then_other (by decide) hafter
          have hagain : middle.editObject ["spec"]
              (Entries.insert "storageClassName" (.str name)) = .ok middle :=
            replaceClass_again hmiddle
          rw [hagain] at hswap
          exact hswap.trans hafter
  · rcases hbeta with rfl | rfl
    · rfl
    · exact replaceClass_again hafter

/-- Each class of a mapping is no key of it, or its own class. -/
def Stable (mapping : Dict String) : Prop :=
  ∀ old new, mapping.get? old = some new → mapping.get? new = none ∨ mapping.get? new = some new

/-- A second run of a stable mapping finds in a field no class, or that of the first run. -/
theorem newClass_rewrite (hstable : Stable mapping) {field : List String}
    (hmapped : ∀ name, newClass mapping item field = some name → Mapped mapping item field name)
    (hother : ∀ other name, Mapped mapping item other name → other ≠ field → ¬ field <+: other) :
    newClass mapping (rewrite mapping item) field = none ∨
      newClass mapping (rewrite mapping item) field = newClass mapping item field := by
  cases hclass : newClass mapping item field with
  | some name =>
    obtain ⟨old, -, hold⟩ := (hmapped name hclass).2
    have hwritten := nested_rewrite_of_mapped (hmapped name hclass)
    rw [newClass, Json.nestedString_of_nested hwritten]
    exact hstable old name hold
  | none =>
    have hkept : (rewrite mapping item).nested field = item.nested field := by
      apply nested_rewrite_apart
      intro other name hfield
      refine hother other name hfield ?_
      rintro rfl
      have hsome : newClass mapping item other = some name := Option.bind_eq_some_iff.2 hfield.2
      rw [hclass] at hsome
      cases hsome
    left
    rw [newClass, Json.nestedString, hkept]
    exact hclass

theorem specClass_rewrite (hstable : Stable mapping) (item : Json) :
    specClass mapping (rewrite mapping item) = none ∨
      specClass mapping (rewrite mapping item) = specClass mapping item := by
  refine newClass_rewrite hstable (fun name => specClass_eq_some_iff.1) ?_
  intro other name hmapped hne
  rcases mapped_cases hmapped with ⟨hspec, -⟩ | ⟨rfl, -⟩
  · exact absurd hspec hne
  · decide

theorem annotationClass_rewrite (hstable : Stable mapping) (item : Json) :
    annotationClass mapping (rewrite mapping item) = none ∨
      annotationClass mapping (rewrite mapping item) = annotationClass mapping item := by
  have hkind : isClaim (rewrite mapping item) = isClaim item := by
    rw [isClaim, isClaim, Json.nestedString, nested_rewrite (by decide) (by decide)]
    rfl
  rw [annotationClass, annotationClass, hkind]
  cases hclaim : isClaim item with
  | false => exact .inl rfl
  | true =>
    refine newClass_rewrite hstable (fun name hname => ?_) ?_
    · apply annotationClass_eq_some_iff.1
      rw [annotationClass, hclaim]
      exact hname
    · intro other name hmapped hne
      rcases mapped_cases hmapped with ⟨rfl, -⟩ | ⟨hbeta, -⟩
      · decide
      · exact absurd hbeta hne

/-- **Idempotence.** A second run of a stable mapping changes nothing. -/
theorem rewrite_rewrite (hstable : Stable mapping) (item : Json) :
    rewrite mapping (rewrite mapping item) = rewrite mapping item := by
  have hagain := replaceBoth_again (replaceBoth_eq_rewrite mapping item)
    (specClass_rewrite hstable item) (annotationClass_rewrite hstable item)
  rw [replaceBoth_eq_rewrite] at hagain
  exact Except.ok.inj hagain

/-! ### The action -/

/-- No field is mapped where neither has a new class. -/
theorem forall_not_mapped_iff : (∀ field name, ¬ Mapped mapping item field name) ↔
    specClass mapping item = none ∧ annotationClass mapping item = none := by
  constructor
  · intro h
    refine ⟨Option.eq_none_iff_forall_ne_some.2 fun name hname => ?_,
      Option.eq_none_iff_forall_ne_some.2 fun name hname => ?_⟩
    · exact h _ _ (specClass_eq_some_iff.1 hname)
    · exact h _ _ (annotationClass_eq_some_iff.1 hname)
  · rintro ⟨hspec, hbeta⟩ field name hmapped
    rcases mapped_cases hmapped with ⟨-, hsome⟩ | ⟨-, hsome⟩
    · rw [hspec] at hsome
      cases hsome
    · rw [hbeta] at hsome
      cases hsome

/-- What the rule answers for an item, which it changes just where a field is mapped. -/
theorem exists_output (mapping : Dict String) (input : ExecuteInput) : ∃ changed : Option Json,
    execute mapping input = .ok ⟨changed, [], false⟩ ∧
    (changed = none ↔ ∀ field name, ¬ Mapped mapping input.item field name) ∧
    changed.getD input.item = rewrite mapping input.item := by
  rw [execute_eq, forall_not_mapped_iff]
  split
  · next h => exact ⟨none, rfl, iff_of_true rfl h, (rewrite_of_none h.1 h.2).symm⟩
  · next h => exact ⟨some _, rfl, iff_of_false (nomatch ·) h, rfl⟩

/-- **Changing classes.** For every mapping and every item there is an answer, which adds no items
and leaves the item in.

* The item stays as it is just where no field is mapped.
* A changed item holds in each mapped field the class that the mapping has for the old one.  Every
  path that leads to no such field, and to no object around one, leads where it led, and no path
  leads somewhere that did not before, or the other way round.
* If the mapping is stable, the answer for the item as it is afterwards is that same item. -/
theorem execute_changes_mapped (mapping : Dict String) (input : ExecuteInput) :
    ∃ changed : Option Json, execute mapping input = .ok ⟨changed, [], false⟩ ∧
      (changed = none ↔ ∀ field name, ¬ Mapped mapping input.item field name) ∧
      (∀ updated, changed = some updated →
        (∀ field name, Mapped mapping input.item field name →
          updated.nested field = some (.str name)) ∧
        (∀ other, (∀ field name, Mapped mapping input.item field name → ¬ other <+: field) →
          updated.nested other = input.item.nested other) ∧
        ∀ other, (updated.nested other).isSome = (input.item.nested other).isSome) ∧
      ((∀ old new, mapping.get? old = some new →
          mapping.get? new = none ∨ mapping.get? new = some new) →
        ∃ again : Option Json,
          execute mapping { input with item := changed.getD input.item } =
            .ok ⟨again, [], false⟩ ∧
          again.getD (changed.getD input.item) = changed.getD input.item) := by
  obtain ⟨changed, hanswer, hnone, hchanged⟩ := exists_output mapping input
  refine ⟨changed, hanswer, hnone, fun updated hupdated => ?_, fun hstable => ?_⟩
  · rw [hupdated] at hchanged
    obtain rfl : updated = rewrite mapping input.item := hchanged
    exact ⟨fun _ _ => nested_rewrite_of_mapped, fun _ => nested_rewrite_apart,
      isSome_nested_rewrite mapping input.item⟩
  · rw [hchanged]
    obtain ⟨again, hagain, -, hsame⟩ :=
      exists_output mapping { input with item := rewrite mapping input.item }
    exact ⟨again, hagain, hsame.trans (rewrite_rewrite hstable input.item)⟩

/-- A claim whose specification names a class of the mapping and whose annotation names another one:
the specification changes, the annotation stays, and a second run changes nothing. -/
theorem execute_changes_mapped_spec :
    let mapping := Dict.ofPairs [("slow", "fast")]
    let claim : Json := .obj [("kind", .str "PersistentVolumeClaim"),
      ("metadata", .obj [("annotations", .obj [(annotationKey, .str "fast")])]),
      ("spec", .obj [("storageClassName", .str "slow")])]
    Stable mapping ∧ Mapped mapping claim ["spec", "storageClassName"] "fast" ∧
      ∃ updated, execute mapping ⟨claim, claim, .null⟩ = .ok ⟨some updated, [], false⟩ ∧
        updated.nested ["spec", "storageClassName"] = some (.str "fast") ∧
        updated.nested ["metadata", "annotations", annotationKey] = some (.str "fast") ∧
        ∃ again : Option Json, execute mapping ⟨updated, claim, .null⟩ = .ok ⟨again, [], false⟩ ∧
          again.getD updated = updated := by
  intro mapping claim
  have hstable : Stable mapping := by
    intro old new hnew
    have hentry : mapping.get? old = if "slow" = old then some "fast" else none := rfl
    rw [hentry] at hnew
    split at hnew
    · cases hnew
      exact .inl rfl
    · cases hnew
  have hmapped : Mapped mapping claim ["spec", "storageClassName"] "fast" :=
    ⟨.inl rfl, "slow", rfl, rfl⟩
  have hclear : ∀ field name, Mapped mapping claim field name →
      ¬ ["metadata", "annotations", annotationKey] <+: field := by
    intro field name h
    rcases mapped_cases h with ⟨rfl, -⟩ | ⟨-, hclass⟩
    · decide
    · have hnone : annotationClass mapping claim = none := rfl
      rw [hnone] at hclass
      cases hclass
  obtain ⟨changed, hanswer, hnone, hchanged, hagain⟩ :=
    execute_changes_mapped mapping ⟨claim, claim, .null⟩
  cases changed with
  | none => exact absurd hmapped (hnone.1 rfl _ _)
  | some updated =>
    obtain ⟨hwritten, hkept, -⟩ := hchanged updated rfl
    exact ⟨hstable, hmapped, updated, hanswer, hwritten _ _ hmapped, hkept _ hclear,
      hagain hstable⟩

end RestorePlugins.StorageClass
