import RestorePlugins.Plugin.Error
import RestorePlugins.Proofs.Dictionaries
import RestorePlugins.Proofs.Json.Editing

namespace RestorePlugins.Json

/-!
# Walks to an object

A walk goes through a document to the object at the end of a path, and makes the objects that are
missing on its way.  It does so before it knows whether it gets to the end.

* `Walkable` — nothing but objects, nulls and missing fields stands on the path.
* `found` — the object that a walk hands out for what stands at its end.
* `exists_reach_of_walkable`, `exists_fault_of_not_walkable` — a walk gets to its end just where it
  is walkable.
* `reach_of_error` — a walk that breaks off leaves a canonical document as it was, since what it
  makes on its way never stops it.
* `canonical_reach` — walks keep documents canonical.
* `walkable_iff_of_nested`, `edited_of_nested_other` — walks along paths that lead somewhere.
* `reach_lawful` — a walk focuses on the object at its end, and on nothing else.
-/

variable {edit : Fields → Fields} {path rest : List String} {doc : Json}

/-! ### Canonical fields -/

/-- The value of a canonical object's field is canonical. -/
theorem canonical_of_find? {key : String} {value : Json} {fields : Fields}
    (h : CanonicalFields fields) (hfound : Entries.find? key fields = some value) :
    value.Canonical := by
  induction fields with
  | nil => cases hfound
  | cons field fields ih =>
    rw [Entries.find?] at hfound
    split at hfound
    · cases hfound
      exact h.1
    · exact ih h.2 hfound

/-- What a path leads to in a canonical document is canonical. -/
theorem canonical_of_nested {value : Json} (hdoc : doc.Canonical)
    (h : doc.nested path = some value) : value.Canonical := by
  induction path generalizing doc with
  | nil =>
    cases h
    exact hdoc
  | cons key path ih =>
    rw [nested_cons] at h
    obtain ⟨field, hfield, hrest⟩ := Option.bind_eq_some_iff.1 h
    cases doc with
    | obj fields => exact ih (canonical_of_find? hdoc.2 hfield) hrest
    | _ => cases hfield

theorem canonicalFields_insert {key : String} {value : Json} {fields : Fields}
    (h : CanonicalFields fields) (hvalue : value.Canonical) :
    CanonicalFields (Entries.insert key value fields) := by
  induction fields with
  | nil => exact ⟨hvalue, trivial⟩
  | cons field fields ih =>
    unfold Entries.insert
    split
    · exact ⟨hvalue, h⟩
    · split
      · exact ⟨hvalue, h.2⟩
      · exact ⟨h.1, ih h.2⟩

/-- A canonical object with a canonical value put in is canonical. -/
theorem canonical_insert {key : String} {value : Json} {fields : Fields}
    (h : (Json.obj fields).Canonical) (hvalue : value.Canonical) :
    (Json.obj (Entries.insert key value fields)).Canonical :=
  ⟨Entries.ascending_insert h.1 key value, canonicalFields_insert h.2 hvalue⟩

theorem canonical_emptyObject : emptyObject.Canonical := ⟨List.Pairwise.nil, trivial⟩

/-- What a walk finds in a field is what stands there, or the empty object. -/
theorem present_cases (key : String) (fields : Fields) :
    present key fields = emptyObject ∨ Entries.find? key fields = some (present key fields) := by
  unfold present
  split
  · exact .inl rfl
  · exact .inl rfl
  · next hfound => exact .inr hfound

theorem canonical_present {key : String} {fields : Fields} (h : (Json.obj fields).Canonical) :
    (present key fields).Canonical := by
  rcases present_cases key fields with hempty | hfound
  · rw [hempty]
    exact canonical_emptyObject
  · exact canonical_of_find? h.2 hfound

/-! ### Where a walk gets to its end -/

/-- Nothing but objects, nulls and missing fields stands on a path through an object. -/
def Walkable (path : List String) (doc : Json) : Prop :=
  doc.isObject = true ∧ ∀ front, front <+: path → ∀ value, doc.nested front = some value →
    value = .null ∨ value.isObject = true

/-- The object that a walk hands out for what stands at its end. -/
def found : Option Json → Fields
  | some (.obj fields) => fields
  | _ => []

/-- A walk through an object goes on in one of its fields, and writes what it makes of it. -/
theorem reach_cons_obj (key : String) (fields : Fields) :
    reach edit path (key :: rest) (.obj fields) =
      ((reach edit path rest (present key fields)).1,
        .obj (Entries.insert key (reach edit path rest (present key fields)).2 fields)) := rfl

theorem walkable_nil_obj (fields : Fields) : Walkable [] (.obj fields) := by
  refine ⟨rfl, fun front hfront value hvalue => .inr ?_⟩
  rw [List.prefix_nil.1 hfront, nested_nil] at hvalue
  cases hvalue
  rfl

/-- At the end of a walkable path stands the object that is handed out, or null, or nothing. -/
theorem found_cases (h : Walkable path doc) :
    doc.nested path = some (.obj (found (doc.nested path))) ∨
      (doc.nested path = none ∨ doc.nested path = some .null) ∧ found (doc.nested path) = [] := by
  cases hvalue : doc.nested path with
  | none => exact .inr ⟨.inl rfl, rfl⟩
  | some value =>
    rcases h.2 path List.prefix_rfl value hvalue with rfl | hobject
    · exact .inr ⟨.inr rfl, rfl⟩
    · cases value with
      | obj fields => exact .inl rfl
      | _ => cases hobject

/-- From the empty object every path is walkable, for nothing stands on it. -/
theorem walkable_emptyObject (path : List String) : Walkable path emptyObject := by
  refine ⟨rfl, fun front _ value hvalue => .inr ?_⟩
  cases front with
  | nil =>
    cases hvalue
    rfl
  | cons key front => cases hvalue

/-- A walk finds an object in a field that is missing, null or an object. -/
theorem isObject_present_iff (key : String) (fields : Fields) :
    (present key fields).isObject = true ↔ ∀ value, Entries.find? key fields = some value →
      value = .null ∨ value.isObject = true := by
  unfold present
  cases Entries.find? key fields with
  | none => simp [emptyObject, isObject]
  | some value => cases value <;> simp [emptyObject, isObject]

/-- A path is walkable from an object if the rest is from what a walk finds in the first field. -/
theorem walkable_cons_obj (key : String) (fields : Fields) :
    Walkable (key :: rest) (.obj fields) ↔ Walkable rest (present key fields) := by
  have hfirst : ∀ value, nested (.obj fields) [key] = some value ↔
      Entries.find? key fields = some value := by
    intro value
    rw [nested_cons, get?_obj]
    cases Entries.find? key fields <;> rfl
  constructor
  · rintro ⟨-, h⟩
    -- The first field is judged by the path of one key, the rest by the longer ones.
    have hobject : (present key fields).isObject = true := by
      rw [isObject_present_iff]
      intro value hvalue
      exact h [key] (List.cons_prefix_cons.2 ⟨rfl, List.nil_prefix⟩) value ((hfirst value).2 hvalue)
    refine ⟨hobject, fun front hfront value hvalue => ?_⟩
    cases front with
    | nil =>
      cases hvalue
      exact .inr hobject
    | cons next front =>
      rw [nested_present] at hvalue
      exact h (key :: next :: front) (List.cons_prefix_cons.2 ⟨rfl, hfront⟩) value hvalue
  · rintro ⟨hobject, h⟩
    refine ⟨rfl, fun front hfront value hvalue => ?_⟩
    cases front with
    | nil =>
      cases hvalue
      exact .inr rfl
    | cons first front =>
      obtain ⟨rfl, hback⟩ := List.cons_prefix_cons.1 hfront
      cases front with
      | nil => exact (isObject_present_iff first fields).1 hobject value ((hfirst value).1 hvalue)
      | cons next front =>
        refine h (next :: front) hback value ?_
        rw [nested_present]
        exact hvalue

/-- What a walk hands out at the end of a path through a field stands behind that field. -/
theorem found_present (key : String) (fields : Fields) :
    found ((present key fields).nested rest) = found ((Json.obj fields).nested (key :: rest)) := by
  cases rest with
  | nil =>
    rw [nested_nil, nested_cons, get?_obj, present]
    cases Entries.find? key fields with
    | none => rfl
    | some value => cases value <;> rfl
  | cons next rest => rw [nested_present, nested_cons]

/-- **Success.** A walkable path leads to its object, which an edit replaces, and a second walk
finds what the first has left. -/
theorem exists_reach_of_walkable (edit : Fields → Fields) (path : List String)
    (h : Walkable rest doc) : ∃ after,
      reach edit path rest doc = (.ok (found (doc.nested rest)), after) ∧
      after.nested rest = some (.obj (edit (found (doc.nested rest)))) ∧
      reach id path rest after = (.ok (edit (found (doc.nested rest))), after) := by
  induction rest generalizing doc with
  | nil =>
    cases doc with
    | obj fields => exact ⟨.obj (edit fields), rfl, rfl, rfl⟩
    | _ => cases h.1
  | cons key rest ih =>
    cases doc with
    | obj fields =>
      obtain ⟨value, hreach, hnested, hagain⟩ := ih ((walkable_cons_obj key fields).1 h)
      rw [found_present] at hreach hnested hagain
      refine ⟨.obj (Entries.insert key value fields), ?_, ?_, ?_⟩
      · rw [reach_cons_obj, hreach]
      · rw [nested_cons, get?_obj, Entries.find?_insert_self]
        exact hnested
      · -- The second walk finds in the field the object that the first has put there.
        have hedited : edited id path rest value = .ok value := by rw [edited, hagain]
        obtain ⟨inner, rfl⟩ := exists_fields_of_edited hedited
        rw [reach_cons_obj, present_insert_obj, hagain, Entries.insert_insert_self]
    | _ => cases h.1

/-- **Failure.** A path that is not walkable leads to a fault. -/
theorem exists_fault_of_not_walkable (edit : Fields → Fields) (path : List String)
    (h : ¬ Walkable rest doc) : ∃ fault, (reach edit path rest doc).1 = .error fault := by
  induction rest generalizing doc with
  | nil =>
    cases doc with
    | obj fields => exact absurd (walkable_nil_obj fields) h
    | _ => exact ⟨_, rfl⟩
  | cons key rest ih =>
    cases doc with
    | obj fields =>
      rw [walkable_cons_obj] at h
      obtain ⟨fault, hfault⟩ := ih h
      exact ⟨fault, by rw [reach_cons_obj, hfault]⟩
    | _ => exact ⟨_, rfl⟩

/-- **Atomicity.** A walk that breaks off leaves a canonical document as it was. -/
theorem reach_of_error {fault : PathFault} (hdoc : doc.Canonical)
    (h : (reach edit path rest doc).1 = .error fault) : (reach edit path rest doc).2 = doc := by
  induction rest generalizing doc with
  | nil =>
    cases doc with
    | obj fields => cases h
    | _ => rfl
  | cons key rest ih =>
    cases doc with
    | obj fields =>
      rw [reach_cons_obj] at h ⊢
      have hinner := ih (canonical_present hdoc) h
      have hstands : Entries.find? key fields = some (present key fields) := by
        -- A walk through the empty object meets missing fields only, so it does not break off.
        refine (present_cases key fields).resolve_left fun hempty => ?_
        have hwalkable : Walkable rest (present key fields) := by
          rw [hempty]
          exact walkable_emptyObject rest
        obtain ⟨after, hreach, -⟩ := exists_reach_of_walkable edit path hwalkable
        rw [hreach] at h
        cases h
      rw [hinner, Entries.insert_of_find? hdoc.1 hstands]
    | _ => rfl

/-- Walks keep documents canonical, where edits do. -/
theorem canonical_reach (hedit : ∀ fields, (Json.obj fields).Canonical →
    (Json.obj (edit fields)).Canonical) (hdoc : doc.Canonical) :
    (reach edit path rest doc).2.Canonical := by
  induction rest generalizing doc with
  | nil =>
    cases doc with
    | obj fields => exact hedit fields hdoc
    | _ => exact hdoc
  | cons key rest ih =>
    cases doc with
    | obj fields =>
      rw [reach_cons_obj]
      exact canonical_insert hdoc (ih (canonical_present hdoc))
    | _ => exact hdoc

/-! ### Edits -/

/-- An edit at the end of a walkable path replaces the object there. -/
theorem exists_editObject_of_walkable (edit : Fields → Fields) (h : Walkable path doc) :
    ∃ after, doc.editObject path edit = .ok after ∧
      after.nested path = some (.obj (edit (found (doc.nested path)))) := by
  obtain ⟨after, hreach, hnested, -⟩ := exists_reach_of_walkable edit path h
  refine ⟨after, ?_, hnested⟩
  rw [editObject, hreach]

/-- An edit at the end of a path that is not walkable is a fault. -/
theorem exists_fault_of_editObject (edit : Fields → Fields) (h : ¬ Walkable path doc) :
    ∃ fault, doc.editObject path edit = .error fault := by
  obtain ⟨fault, hfault⟩ := exists_fault_of_not_walkable edit path h
  cases hreach : reach edit path path doc with
  | mk answer after =>
    obtain rfl : answer = .error fault := by rw [← hfault, hreach]
    exact ⟨fault, by rw [editObject, hreach]⟩

/-- A value with something below it is an object. -/
theorem isObject_of_nested {key : String} {back : List String} {value : Json}
    (h : doc.nested (key :: back) = some value) : doc.isObject = true := by
  cases doc with
  | obj fields => rfl
  | _ => cases h

/-- A path that leads somewhere is walkable if it leads to null or to an object, for objects stand
on its way. -/
theorem walkable_iff_of_nested {key : String} {value : Json}
    (h : doc.nested (key :: rest) = some value) :
    Walkable (key :: rest) doc ↔ value = .null ∨ value.isObject = true := by
  constructor
  · rintro ⟨-, hway⟩
    exact hway (key :: rest) List.prefix_rfl value h
  · intro hvalue
    refine ⟨isObject_of_nested h, fun front hfront between hbetween => ?_⟩
    obtain ⟨back, hback⟩ := hfront
    rw [← hback, nested_append, hbetween, Option.bind_some] at h
    cases back with
    | nil =>
      cases h
      exact hvalue
    | cons next back => exact .inr (isObject_of_nested h)

/-- An edit at the end of a path that leads to another value than null or an object says so. -/
theorem edited_of_nested_other {edit : Fields → Fields} {value : Json}
    (h : doc.nested rest = some value) (hnull : value ≠ .null) (hobject : value.isObject = false) :
    edited edit path rest doc = .error (.notObject path) := by
  induction rest generalizing doc with
  | nil =>
    cases h
    cases value with
    | obj fields => cases hobject
    | _ => rfl
  | cons key rest ih =>
    rw [nested_cons] at h
    obtain ⟨field, hfield, hrest⟩ := Option.bind_eq_some_iff.1 h
    cases doc with
    | obj fields =>
      -- What stands in the field is not null, for the path goes on or ends with another value.
      have hpresent : present key fields = field := by
        rw [get?_obj] at hfield
        cases field with
        | null =>
          cases rest with
          | nil =>
            cases hrest
            exact absurd rfl hnull
          | cons next rest => cases hrest
        | _ => simp [present, hfield]
      rw [edited_cons_obj, hpresent, ih hrest]
      rfl
    | _ => cases hfield

/-- An edit that keeps the object at the end of a path keeps the document. -/
theorem edited_of_kept {edit : Fields → Fields} {fields : Fields} (hdoc : doc.Canonical)
    (h : doc.nested rest = some (.obj fields)) (hkeep : edit fields = fields) :
    edited edit path rest doc = .ok doc := by
  induction rest generalizing doc with
  | nil =>
    cases h
    rw [edited_nil_obj, hkeep]
  | cons key rest ih =>
    rw [nested_cons] at h
    obtain ⟨field, hfield, hrest⟩ := Option.bind_eq_some_iff.1 h
    cases doc with
    | obj outer =>
      rw [get?_obj] at hfield
      have hpresent : present key outer = field := by
        cases field with
        | null => cases rest <;> cases hrest
        | _ => simp [present, hfield]
      have hinner : edited edit path rest field = .ok field :=
        ih (canonical_of_find? hdoc.2 hfield) hrest
      rw [edited_cons_obj, hpresent, hinner, Except.map, Entries.insert_of_find? hdoc.1 hfield]
    | _ => cases hfield

/-- A field of an object stands one key behind it. -/
theorem nested_field {fields : Fields} (h : doc.nested path = some (.obj fields)) (key : String) :
    doc.nested (path ++ [key]) = Entries.find? key fields := by
  rw [nested_append, h, Option.bind_some, nested_cons, get?_obj]
  cases Entries.find? key fields <;> rfl

/-- A field of the object that a walk hands out stands one key behind the path. -/
theorem nested_field_of_walkable (h : Walkable path doc) (key : String) :
    doc.nested (path ++ [key]) = Entries.find? key (found (doc.nested path)) := by
  rcases found_cases h with hobject | ⟨hnone | hnull, hempty⟩
  · exact nested_field hobject key
  · rw [hempty, nested_append, hnone]
    rfl
  · rw [hempty, nested_append, hnull]
    rfl

/-! ### Pairs put into the object -/

/-- The fields of an object after pairs were put in, one after the other. -/
def insertAll (pairs fields : Fields) : Fields :=
  pairs.foldl (fun acc pair => Entries.insert pair.1 pair.2 acc) fields

variable {pairs : Fields}

/-- A key that no pair has keeps what it held. -/
theorem find?_insertAll_of_not_mem {key : String} (h : key ∉ pairs.map Prod.fst)
    (fields : Fields) :
    Entries.find? key (insertAll pairs fields) = Entries.find? key fields := by
  have hnone : Entries.find? key pairs.reverse = none := by
    cases hfound : Entries.find? key pairs.reverse with
    | none => rfl
    | some value =>
      have hmem := List.mem_reverse.1 (Entries.mem_of_find? hfound)
      exact absurd (List.mem_map_of_mem hmem) h
  rw [insertAll, Entries.find?_foldl_insert, hnone, Option.none_or]

theorem canonical_insertAll (hpairs : ∀ pair ∈ pairs, pair.2.Canonical) {fields : Fields}
    (h : (Json.obj fields).Canonical) : (Json.obj (insertAll pairs fields)).Canonical := by
  induction pairs generalizing fields with
  | nil => exact h
  | cons pair pairs ih =>
    obtain ⟨hpair, hpairs⟩ := List.forall_mem_cons.1 hpairs
    exact ih hpairs (canonical_insert h hpair)

/-- A path that does not end on the walk and goes through no key of a pair leads where it led. -/
theorem nested_of_reach_apart {object : Fields} {after : Json}
    (hreach : reach (insertAll pairs) path path doc = (.ok object, after)) {other : List String}
    (hends : ¬ other <+: path)
    (hkeys : ∀ key ∈ pairs.map Prod.fst, ¬ path ++ [key] <+: other) :
    after.nested other = doc.nested other := by
  have hedited : edited (insertAll pairs) path path doc = .ok after := by rw [edited, hreach]
  refine nested_of_edited_apart hends (fun key back hother => ?_) hedited
  have hkey : key ∉ pairs.map Prod.fst := by
    intro hmem
    exact hkeys key hmem ⟨back, by rw [hother, List.append_assoc, List.singleton_append]⟩
  exact find?_insertAll_of_not_mem hkey

/-- **A walk focuses on one object.** From a canonical document:

* a walk gets to its end just where nothing but objects, nulls and missing fields stands on the
  path;
* a walk that breaks off is an invalid document, and leaves the document as it was;
* a walk that gets to its end hands out what stands there, or the empty object; afterwards the pairs
  are in that object, every path that does not end on the walk and goes through no key of a pair
  leads where it led, and a path that led nowhere and now leads somewhere ends on the walk or goes
  through such a key; the document stays canonical; and a second walk that puts nothing in finds the
  object and changes nothing. -/
theorem reach_lawful (doc : Json) (hdoc : doc.Canonical) (path : List String) (pairs : Fields) :
    let walk := reach (insertAll pairs) path path doc
    let answer := walk.1.mapError PluginError.ofPathFault
    let after := walk.2
    ((∃ object, answer = .ok object) ↔ doc.isObject = true ∧ ∀ front, front <+: path →
      ∀ value, doc.nested front = some value → value = .null ∨ value.isObject = true) ∧
    (∀ error, answer = .error error → (∃ text, error = .invalidDocument text) ∧ after = doc) ∧
    ∀ object, answer = .ok object →
      (doc.nested path = some (.obj object) ∨
        (doc.nested path = none ∨ doc.nested path = some .null) ∧ object = []) ∧
      after.nested path = some (.obj (insertAll pairs object)) ∧
      (∀ other, ¬ other <+: path → (∀ key ∈ pairs.map Prod.fst, ¬ path ++ [key] <+: other) →
        after.nested other = doc.nested other) ∧
      (∀ other, doc.nested other = none → after.nested other ≠ none →
        other <+: path ∨ ∃ key ∈ pairs.map Prod.fst, path ++ [key] <+: other) ∧
      ((∀ pair ∈ pairs, pair.2.Canonical) → after.Canonical) ∧
      reach (insertAll []) path path after = (.ok (insertAll pairs object), after) := by
  intro walk answer after
  by_cases h : Walkable path doc
  · obtain ⟨written, hreach, hnested, hagain⟩ := exists_reach_of_walkable (insertAll pairs) path h
    have hanswer : answer = .ok (found (doc.nested path)) := by
      show walk.1.mapError PluginError.ofPathFault = _
      rw [show walk = _ from hreach]
      rfl
    obtain rfl : after = written := congrArg Prod.snd hreach
    refine ⟨iff_of_true ⟨_, hanswer⟩ h, fun error herror => ?_, fun object hobject => ?_⟩
    · rw [hanswer] at herror
      cases herror
    · rw [hanswer] at hobject
      cases hobject
      have hframe : ∀ other, ¬ other <+: path →
          (∀ key ∈ pairs.map Prod.fst, ¬ path ++ [key] <+: other) →
          after.nested other = doc.nested other :=
        fun other hends hkeys => nested_of_reach_apart hreach hends hkeys
      refine ⟨found_cases h, hnested, hframe, fun other hnone hsome => ?_, fun hpairs => ?_, hagain⟩
      · by_contra hout
        obtain ⟨hends, hkeys⟩ := not_or.1 hout
        have hkept : after.nested other = doc.nested other :=
          hframe other hends fun key hkey hinner => hkeys ⟨key, hkey, hinner⟩
        exact hsome (hkept.trans hnone)
      · exact canonical_reach (fun fields => canonical_insertAll hpairs) hdoc
  · obtain ⟨fault, hfault⟩ := exists_fault_of_not_walkable (insertAll pairs) path h
    have hanswer : answer = .error (PluginError.ofPathFault fault) := by
      show walk.1.mapError PluginError.ofPathFault = _
      rw [show walk.1 = _ from hfault]
      rfl
    refine ⟨iff_of_false ?_ h, fun error herror => ?_, fun object hobject => ?_⟩
    · rintro ⟨object, hobject⟩
      rw [hanswer] at hobject
      cases hobject
    · rw [hanswer] at herror
      cases herror
      exact ⟨⟨_, rfl⟩, reach_of_error hdoc hfault⟩
    · rw [hanswer] at hobject
      cases hobject

/-- A walk to annotations that are null makes an object of them, and keeps the rest of the item. -/
theorem reach_lawful_null :
    let item : Json := .obj [("kind", .str "Pod"), ("metadata", .obj [("annotations", .null)])]
    let path := ["metadata", "annotations"]
    let after := (reach (insertAll [("owner", .str "a")]) path path item).2
    item.Canonical ∧ after.nested path = some (.obj [("owner", .str "a")]) ∧
      after.nested ["kind"] = some (.str "Pod") ∧
      reach (insertAll []) path path after = (.ok [("owner", .str "a")], after) := by
  intro item path after
  have hkeys : "kind" < "metadata" := by decide
  have hitem : item.Canonical :=
    ⟨List.pairwise_pair.2 hkeys, trivial, ⟨List.pairwise_singleton _ _, trivial, trivial⟩, trivial⟩
  have hanswer : (reach (insertAll [("owner", .str "a")]) path path item).1.mapError
      PluginError.ofPathFault = .ok [] := rfl
  obtain ⟨-, hnested, hframe, -, -, hagain⟩ :=
    (reach_lawful item hitem path [("owner", .str "a")]).2.2 [] hanswer
  have hkind : after.nested ["kind"] = item.nested ["kind"] :=
    hframe ["kind"] (by decide) (by decide)
  exact ⟨hitem, hnested, hkind, hagain⟩

end RestorePlugins.Json
