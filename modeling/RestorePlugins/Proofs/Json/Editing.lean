import RestorePlugins.Json.Path

namespace RestorePlugins.Json

/-!
# Laws of edits

What an edit of the object at the end of a path does to the rest of a document, and how two
edits go together.

* `edited` — the outcome of a walk along what is left of a path.
* `editObject_then_same`, `editObject_then_other` — two edits at the same path are one, and two
  edits whose paths part at once may change places.
* `editObject_again` — an edit that does nothing to what it has edited is made once and for all.
* `exists_nested_of_edited` — the object at the end of the path is the edited one.
* `nested_of_edited_apart` — a path that neither ends on the walk nor goes through a written key
  leads where it led; `nested_of_edited_other` and `nested_of_edited_key` are its two cases.
* `editObject_of_nested` — an object that a path leads to can be edited.
-/

variable {edit first second : Fields → Fields} {path rest : List String}

/-! ### Walks -/

/-- The outcome of a walk along what is left of a path. -/
def edited (edit : Fields → Fields) (path rest : List String) (doc : Json) :
    Except PathFault Json :=
  match reach edit path rest doc with
  | (.ok _, after) => .ok after
  | (.error fault, _) => .error fault

theorem editObject_eq_edited (doc : Json) (path : List String) (edit : Fields → Fields) :
    doc.editObject path edit = edited edit path path doc := rfl

@[simp] theorem edited_nil_obj (fields : Fields) :
    edited edit path [] (.obj fields) = .ok (.obj (edit fields)) := rfl

/-- A walk through an object goes on in one of its fields. -/
theorem edited_cons_obj (key : String) (fields : Fields) :
    edited edit path (key :: rest) (.obj fields) =
      (edited edit path rest (present key fields)).map fun value =>
        .obj (Entries.insert key value fields) := by
  simp only [edited, reach]
  rcases reach edit path rest (present key fields) with ⟨_ | _, _⟩ <;> rfl

/-- A walk through an object that succeeds has written what it made of the field. -/
theorem exists_value_of_edited {key : String} {fields : Fields} {after : Json}
    (h : edited edit path (key :: rest) (.obj fields) = .ok after) :
    ∃ value, edited edit path rest (present key fields) = .ok value ∧
      after = .obj (Entries.insert key value fields) := by
  rw [edited_cons_obj] at h
  cases hvalue : edited edit path rest (present key fields) with
  | error fault => rw [hvalue] at h; cases h
  | ok value =>
    rw [hvalue] at h
    cases h
    exact ⟨value, rfl, rfl⟩

/-- A walk succeeds in objects only. -/
theorem exists_fields_of_edited {doc after : Json} (h : edited edit path rest doc = .ok after) :
    ∃ fields, doc = .obj fields := by
  cases doc with
  | obj fields => exact ⟨fields, rfl⟩
  | _ => cases rest <;> simp [edited, reach] at h

/-- What a walk makes of an object is an object. -/
theorem exists_fields_of_edited_result {doc after : Json}
    (h : edited edit path rest doc = .ok after) : ∃ fields, after = .obj fields := by
  obtain ⟨fields, rfl⟩ := exists_fields_of_edited h
  cases rest with
  | nil =>
    rw [edited_nil_obj] at h
    cases h
    exact ⟨_, rfl⟩
  | cons key rest =>
    obtain ⟨value, -, rfl⟩ := exists_value_of_edited h
    exact ⟨_, rfl⟩

/-! ### Fields -/

@[simp] theorem present_insert_obj (key : String) (inner fields : Fields) :
    present key (Entries.insert key (.obj inner) fields) = .obj inner := by
  simp [present]

/-- A walk finds in a field what it found before another field was written. -/
theorem present_insert_of_ne {key other : String} (h : key ≠ other) (value : Json)
    (fields : Fields) : present other (Entries.insert key value fields) = present other fields := by
  simp [present, Entries.find?_insert, h]

/-! ### Two edits -/

/-- Two edits at the end of one walk are one edit. -/
theorem edited_then_same (doc : Json) :
    (edited first path rest doc >>= edited second path rest) =
      edited (second ∘ first) path rest doc := by
  induction rest generalizing doc with
  | nil => cases doc <;> rfl
  | cons key rest ih =>
    cases doc with
    | obj fields =>
      have step := ih (present key fields)
      rw [edited_cons_obj, edited_cons_obj, ← step]
      cases hv : edited first path rest (present key fields) with
      | error fault => rfl
      | ok value =>
        obtain ⟨inner, rfl⟩ := exists_fields_of_edited_result hv
        show edited second path (key :: rest) (.obj _) =
          (edited second path rest (.obj inner)).map _
        rw [edited_cons_obj, present_insert_obj]
        congr 1
        funext after
        rw [Entries.insert_insert_self]
    | _ => rfl

/-- **Fusion.** Two edits at one path are one edit. -/
theorem editObject_then_same (doc : Json) (path : List String) (first second : Fields → Fields) :
    (doc.editObject path first >>= fun after => after.editObject path second) =
      doc.editObject path (second ∘ first) :=
  edited_then_same doc

/-- **Idempotence.** An edit that a second one adds nothing to leaves its own outcome as it is. -/
theorem editObject_again {doc after : Json} (hedit : ∀ fields, edit (edit fields) = edit fields)
    (h : doc.editObject path edit = .ok after) : after.editObject path edit = .ok after := by
  have htwice := editObject_then_same doc path edit edit
  have honce : edit ∘ edit = edit := funext hedit
  rw [honce, h] at htwice
  exact htwice

/-- **Exchange.** An edit that succeeds may be put off until after an edit in another field. -/
theorem editObject_then_other {key other : String} (h : key ≠ other) {front back : List String}
    {doc after : Json} (hfirst : doc.editObject (key :: front) first = .ok after) :
    after.editObject (other :: back) second =
      doc.editObject (other :: back) second >>= fun d => d.editObject (key :: front) first := by
  simp only [editObject_eq_edited] at hfirst ⊢
  obtain ⟨fields, rfl⟩ := exists_fields_of_edited hfirst
  obtain ⟨value, hvalue, rfl⟩ := exists_value_of_edited hfirst
  rw [edited_cons_obj, edited_cons_obj, present_insert_of_ne h]
  cases edited second (other :: back) back (present other fields) with
  | error fault => rfl
  | ok inner =>
    show Except.ok _ = edited first (key :: front) (key :: front) (.obj _)
    rw [edited_cons_obj, present_insert_of_ne h.symm, hvalue]
    show Except.ok (Json.obj (Entries.insert other inner (Entries.insert key value fields))) =
      Except.ok (Json.obj (Entries.insert key value (Entries.insert other inner fields)))
    rw [Entries.insert_comm h]

/-! ### What is written -/

/-- The path of a walk leads to an edited object afterwards. -/
theorem exists_nested_of_edited {doc after : Json} (h : edited edit path rest doc = .ok after) :
    ∃ fields, after.nested rest = some (.obj (edit fields)) := by
  induction rest generalizing doc after with
  | nil =>
    obtain ⟨fields, rfl⟩ := exists_fields_of_edited h
    rw [edited_nil_obj] at h
    cases h
    exact ⟨fields, rfl⟩
  | cons key rest ih =>
    obtain ⟨fields, rfl⟩ := exists_fields_of_edited h
    obtain ⟨value, hvalue, rfl⟩ := exists_value_of_edited h
    rw [nested_cons, get?_obj, Entries.find?_insert_self]
    exact ih hvalue

/-! ### What stays -/

/-- A missing field and null have no fields, as the empty object has none. -/
theorem nested_present (key next : String) (back : List String) (fields : Fields) :
    nested (present key fields) (next :: back) =
      (get? key (.obj fields)).bind fun value => nested value (next :: back) := by
  simp only [present, get?_obj]
  cases Entries.find? key fields with
  | none => rfl
  | some value => cases value <;> rfl

/-- **Frame.** A path that does not end on the walk leads where it led, unless it goes on behind the
end of the walk through a key that the edit writes. -/
theorem nested_of_edited_apart {other : List String} (hends : ¬ other <+: rest)
    (hkeep : ∀ key back, other = rest ++ key :: back → ∀ fields,
      Entries.find? key (edit fields) = Entries.find? key fields)
    {doc after : Json} (hedit : edited edit path rest doc = .ok after) :
    after.nested other = doc.nested other := by
  induction rest generalizing other doc after with
  | nil =>
    obtain ⟨fields, rfl⟩ := exists_fields_of_edited hedit
    rw [edited_nil_obj] at hedit
    cases hedit
    cases other with
    | nil => exact absurd List.nil_prefix hends
    | cons key back =>
      have hkey := hkeep key back rfl fields
      rw [nested_cons, nested_cons, get?_obj, get?_obj, hkey]
  | cons step rest ih =>
    obtain ⟨fields, rfl⟩ := exists_fields_of_edited hedit
    obtain ⟨value, hvalue, rfl⟩ := exists_value_of_edited hedit
    cases other with
    | nil => exact absurd List.nil_prefix hends
    | cons key back =>
      rw [nested_cons, nested_cons, get?_obj, get?_obj, Entries.find?_insert]
      by_cases hstep : step = key
      · subst hstep
        have hback : ¬ back <+: rest := fun h => hends (List.cons_prefix_cons.2 ⟨rfl, h⟩)
        have hinner : value.nested back = (present step fields).nested back := by
          apply ih hback _ hvalue
          intro key' back' hback'
          exact hkeep key' back' (by rw [hback']; rfl)
        rw [if_pos rfl, Option.bind_some, hinner]
        -- The path goes on below the field, where null and a missing field lead nowhere.
        cases back with
        | nil => exact absurd List.nil_prefix hback
        | cons next back => exact nested_present step next back fields
      · rw [if_neg hstep]

/-- A path through another field leads where it led before. -/
theorem nested_of_edited_other {key other : String} (h : key ≠ other) {front back : List String}
    {doc after : Json} (hedit : doc.editObject (key :: front) edit = .ok after) :
    after.nested (other :: back) = doc.nested (other :: back) := by
  rw [editObject_eq_edited] at hedit
  refine nested_of_edited_apart (fun hends => ?_) (fun key' back' heq => ?_) hedit
  · exact h (List.cons_prefix_cons.1 hends).1.symm
  · exact absurd (List.cons.inj heq).1.symm h

/-- Below the object at the end of a walk, a field that the edit keeps leads where it led. -/
theorem nested_of_edited_key {key : String} (hkeep : ∀ fields,
    Entries.find? key (edit fields) = Entries.find? key fields) {back : List String}
    {doc after : Json} (hedit : edited edit path rest doc = .ok after) :
    after.nested (rest ++ key :: back) = doc.nested (rest ++ key :: back) := by
  refine nested_of_edited_apart (fun hends => ?_) (fun key' back' heq => ?_) hedit
  · have hlength : (rest ++ key :: back).length ≤ rest.length := hends.length_le
    rw [List.length_append, List.length_cons] at hlength
    omega
  · have hkey : key = key' := (List.cons.inj (List.append_cancel_left heq)).1
    exact hkey ▸ hkeep

/-- An object that a path leads to can be edited. -/
theorem edited_of_nested {doc : Json} {inner : Fields} (h : doc.nested rest = some (.obj inner)) :
    ∃ after, edited edit path rest doc = .ok after := by
  induction rest generalizing doc with
  | nil =>
    cases h
    exact ⟨_, rfl⟩
  | cons key rest ih =>
    rw [nested_cons] at h
    obtain ⟨value, hvalue, hrest⟩ := Option.bind_eq_some_iff.1 h
    cases doc with
    | obj fields =>
      have hpresent : present key fields = value := by
        rw [get?_obj] at hvalue
        cases value with
        | null => cases rest <;> simp [nested, get?] at hrest
        | _ => simp [present, hvalue]
      obtain ⟨after, hafter⟩ := ih hrest
      exact ⟨_, by rw [edited_cons_obj, hpresent, hafter]; rfl⟩
    | _ => simp [get?] at hvalue

/-- **Success.** The object that a path leads to can be edited. -/
theorem editObject_of_nested {doc : Json} {inner : Fields}
    (h : doc.nested path = some (.obj inner)) (edit : Fields → Fields) :
    ∃ after, doc.editObject path edit = .ok after :=
  edited_of_nested h

/-- A path that leads somewhere does so from its beginning on. -/
theorem isSome_nested_of_prefix {doc : Json} {front : List String} (hbegins : front <+: path)
    (h : (doc.nested path).isSome = true) : (doc.nested front).isSome = true := by
  obtain ⟨back, rfl⟩ := hbegins
  rw [nested_append] at h
  cases hfront : doc.nested front with
  | none => rw [hfront] at h; cases h
  | some value => rfl

/-- A text has no fields. -/
theorem nested_below_text {doc : Json} {text : String} (h : doc.nested path = some (.str text))
    (key : String) (back : List String) : doc.nested (path ++ key :: back) = none := by
  rw [nested_append, h]
  rfl

theorem nested_of_nestedString_eq {doc : Json} {text : String}
    (h : doc.nestedString path = some text) : doc.nested path = some (.str text) := by
  obtain ⟨value, hvalue, htext⟩ := Option.bind_eq_some_iff.1 h
  cases value with
  | str s => cases htext; exact hvalue
  | _ => cases htext

theorem nestedString_of_nested {doc : Json} {text : String}
    (h : doc.nested path = some (.str text)) : doc.nestedString path = some text := by
  rw [nestedString, h]
  rfl

/-- A path with a text behind it leads through objects. -/
theorem nested_of_nestedString {doc : Json} {front : List String} {key text : String}
    (h : doc.nestedString (front ++ [key]) = some text) :
    ∃ inner, doc.nested front = some (.obj inner) := by
  rw [nestedString, nested_append] at h
  obtain ⟨value, hvalue, -⟩ := Option.bind_eq_some_iff.1 h
  obtain ⟨object, hobject, hkey⟩ := Option.bind_eq_some_iff.1 hvalue
  cases object with
  | obj inner => exact ⟨inner, hobject⟩
  | _ => simp [nested, get?] at hkey

end RestorePlugins.Json
