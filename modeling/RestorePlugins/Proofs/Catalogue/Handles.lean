import RestorePlugins.Proofs.Catalogue.Outcomes
import RestorePlugins.Proofs.Json.Walks

namespace RestorePlugins.Catalogue

/-!
# Ids of persistent volumes

The id of a persistent volume stands in the section of its driver.

* `handlePath` — where the id stands.
* `handleOf_eq_empty_iff` — the empty id is read where no other text stands.
* `withHandle_of_no_section`, `withHandle_of_other_section`, `exists_withHandle_of_section` — the
  three cases of what stands in the place of the section.
* `handle_lawful` — reading and writing the id is a lens on persistent volumes.
* `setVolumeId_outcome` — the id can be written where the section is an object, or null.
-/

variable {around : Surroundings} {shelf : Shelf} {catalogue : OpenCatalogue}

/-- The path of the id in a persistent volume. -/
def handlePath : List String := driverPath ++ [handleKey]

/-! ### Reading an id -/

theorem handleOf_of_nested {pv : Json} {text : String}
    (h : pv.nested handlePath = some (.str text)) : handleOf pv = text := by
  have hstring : pv.nestedString (driverPath ++ [handleKey]) = some text :=
    Json.nestedString_of_nested h
  rw [handleOf, hstring]
  rfl

/-- The id that is read is empty where no text stands, or the empty one. -/
theorem handleOf_eq_empty_iff (pv : Json) :
    handleOf pv = "" ↔ ¬ ∃ text, text ≠ "" ∧ pv.nested handlePath = some (.str text) := by
  constructor
  · rintro hempty ⟨text, htext, hnested⟩
    exact htext ((handleOf_of_nested hnested).symm.trans hempty)
  · intro hnone
    cases hstring : pv.nestedString (driverPath ++ [handleKey]) with
    | none =>
      rw [handleOf, hstring]
      rfl
    | some text =>
      have hnested : pv.nested handlePath = some (.str text) :=
        Json.nested_of_nestedString_eq hstring
      rw [handleOf_of_nested hnested]
      by_contra htext
      exact hnone ⟨text, htext, hnested⟩

/-! ### Writing an id -/

/-- The edit that writes an id. -/
def putHandle (id : String) : Json.Fields → Json.Fields := Entries.insert handleKey (.str id)

/-- An id that was written is the edit of the section. -/
theorem edit_of_withHandle {pv after : Json} {id : String} (h : withHandle pv id = .ok after) :
    (∃ driver, pv.nested driverPath = some driver) ∧
      pv.editObject driverPath (putHandle id) = .ok after := by
  unfold withHandle at h
  split at h
  · cases h
  · next hsection =>
    refine ⟨Option.ne_none_iff_exists'.1 (by simpa using hsection), ?_⟩
    unfold putHandle
    cases hedit : pv.editObject driverPath (Entries.insert handleKey (.str id)) with
    | error fault =>
      rw [hedit] at h
      cases h
    | ok edited =>
      rw [hedit] at h
      cases h
      rfl

/-- Where there is a section, writing an id is its edit. -/
theorem withHandle_of_edit {pv after driver : Json} {id : String}
    (hsection : pv.nested driverPath = some driver)
    (hedit : pv.editObject driverPath (putHandle id) = .ok after) :
    withHandle pv id = .ok after := by
  unfold putHandle at hedit
  simp only [withHandle, hsection, hedit]
  rfl

/-- A volume without a section is refused. -/
theorem withHandle_of_no_section {pv : Json} (h : pv.nested driverPath = none) (id : String) :
    withHandle pv id =
      .error (.invalidDocument "persistent volume has no spec.csi section") := by
  simp only [withHandle, h]
  rfl

/-- A volume with neither an object nor null in the place of the section is refused. -/
theorem withHandle_of_other_section {pv driver : Json} (h : pv.nested driverPath = some driver)
    (hnull : driver ≠ .null) (hobject : driver.isObject = false) (id : String) :
    withHandle pv id = .error (.invalidDocument "field spec.csi is not an object") := by
  have hedit : pv.editObject driverPath (Entries.insert handleKey (.str id)) =
      .error (.notObject driverPath) :=
    Json.edited_of_nested_other h hnull hobject
  have htext : (Json.PathFault.notObject driverPath).message =
      "field spec.csi is not an object" := by decide
  simp only [withHandle, h, hedit, Except.mapError, PluginError.ofPathFault, htext]
  rfl

/-- A section that is an object, or null, takes an id. -/
theorem exists_withHandle_of_section {pv driver : Json} (h : pv.nested driverPath = some driver)
    (hdriver : driver = .null ∨ driver.isObject = true) (id : String) :
    ∃ after, withHandle pv id = .ok after := by
  have hwalkable : Json.Walkable driverPath pv := (Json.walkable_iff_of_nested h).2 hdriver
  obtain ⟨after, hedit, -⟩ := Json.exists_editObject_of_walkable (putHandle id) hwalkable
  exact ⟨after, withHandle_of_edit h hedit⟩

/-! ### Volumes with another id -/

section

variable {pv after : Json} {id : String}

/-- The section of a volume with another id. -/
theorem exists_section_of_withHandle (h : withHandle pv id = .ok after) :
    ∃ fields, after.nested driverPath = some (.obj (putHandle id fields)) :=
  Json.exists_nested_of_edited (edit_of_withHandle h).2

/-- **Put, get.** The id that was written is there. -/
theorem nested_of_withHandle (h : withHandle pv id = .ok after) :
    after.nested handlePath = some (.str id) := by
  obtain ⟨fields, hfields⟩ := exists_section_of_withHandle h
  rw [handlePath, Json.nested_field hfields, putHandle, Entries.find?_insert_self]

/-- **Put, put.** Of two ids the later one stays, as if it had been written alone. -/
theorem withHandle_then (h : withHandle pv id = .ok after) (other : String) :
    ∃ final, withHandle after other = .ok final ∧ withHandle pv other = .ok final := by
  obtain ⟨⟨driver, hdriver⟩, hedit⟩ := edit_of_withHandle h
  obtain ⟨fields, hfields⟩ := exists_section_of_withHandle h
  have hfusion := Json.editObject_then_same pv driverPath (putHandle id) (putHandle other)
  have hlast : putHandle other ∘ putHandle id = putHandle other :=
    funext fun fields => Entries.insert_insert_self handleKey _ _ fields
  rw [hedit, hlast] at hfusion
  obtain ⟨final, hfinal⟩ := Json.editObject_of_nested hfields (putHandle other)
  have honce : pv.editObject driverPath (putHandle other) = .ok final :=
    hfusion.symm.trans hfinal
  exact ⟨final, withHandle_of_edit hfields hfinal, withHandle_of_edit hdriver honce⟩

/-- **Frame.** A path that neither leads to the id nor goes on behind it leads where it led. -/
theorem nested_of_withHandle_apart (h : withHandle pv id = .ok after) {path : List String}
    (hends : ¬ path <+: handlePath) (hthrough : ¬ handlePath <+: path) :
    after.nested path = pv.nested path := by
  have hway : ¬ path <+: driverPath := fun hway =>
    hends (hway.trans (List.prefix_append driverPath [handleKey]))
  refine Json.nested_of_edited_apart hway (fun key back hpath fields => ?_) (edit_of_withHandle h).2
  have hne : handleKey ≠ key := by
    rintro rfl
    exact hthrough ⟨back, by rw [hpath, handlePath, List.append_assoc, List.singleton_append]⟩
  rw [putHandle, Entries.find?_insert, if_neg hne]

/-- No field comes about but the one with the id. -/
theorem eq_handlePath_of_new (h : withHandle pv id = .ok after) {path : List String}
    (hbefore : pv.nested path = none) (hafter : after.nested path ≠ none) : path = handlePath := by
  by_cases hends : path <+: handlePath
  · -- The paths to the section led somewhere before.
    rcases List.prefix_concat_iff.1 hends with heq | hway
    · exact heq
    · obtain ⟨driver, hdriver⟩ := (edit_of_withHandle h).1
      have hsome := Json.isSome_nested_of_prefix hway (by rw [hdriver]; rfl)
      rw [hbefore] at hsome
      cases hsome
  · by_cases hthrough : handlePath <+: path
    · obtain ⟨back, rfl⟩ := hthrough
      cases back with
      | nil => exact List.append_nil _
      | cons key back =>
        exact absurd (Json.nested_below_text (nested_of_withHandle h) key back) hafter
    · exact absurd ((nested_of_withHandle_apart h hends hthrough).trans hbefore) hafter

end

/-- **Get, put.** To write the id that is there changes nothing. -/
theorem withHandle_self {pv : Json} {text : String} (hpv : pv.Canonical)
    (h : pv.nested handlePath = some (.str text)) : withHandle pv text = .ok pv := by
  obtain ⟨fields, hfields⟩ := Json.nested_of_nestedString (Json.nestedString_of_nested h)
  have hhandle : Entries.find? handleKey fields = some (.str text) :=
    (Json.nested_field hfields handleKey).symm.trans h
  have hascending : Entries.Ascending fields := (Json.canonical_of_nested hpv hfields).1
  have hkeep : putHandle text fields = fields := Entries.insert_of_find? hascending hhandle
  exact withHandle_of_edit hfields (Json.edited_of_kept hpv hfields hkeep)

/-! ### The operations -/

theorem volumeId_of_open (hopen : shelf.current = some catalogue) (pv : Json) :
    volumeId pv around shelf = (.ok (handleOf pv), shelf) := by
  simp only [volumeId, withCatalogue, hopen]

theorem setVolumeId_of_open (hopen : shelf.current = some catalogue) (pv : Json) (id : String) :
    setVolumeId pv id around shelf = (withHandle pv id, shelf) := by
  simp only [setVolumeId, withCatalogue, hopen]

/-- **The id is a lens.** With an open catalogue:

* the id of a persistent volume can be read, and is empty just where no text other than the empty
  one stands at its path;
* the id that was written is read, a second id is written as if it were the first, every path that
  neither leads to the id nor goes on behind it leads where it led, and no field comes about but the
  one with the id;
* where a text stands at its path, to write what is read gives the same volume. -/
theorem handle_lawful (around : Surroundings) {shelf : Shelf} {catalogue : OpenCatalogue}
    (hopen : shelf.current = some catalogue) (pv : Json) :
    let get := fun doc => volumeId doc around shelf
    let put := fun doc id => setVolumeId doc id around shelf
    (∃ id, get pv = (.ok id, shelf) ∧
      (id = "" ↔ ¬ ∃ text, text ≠ "" ∧ pv.nested handlePath = some (.str text))) ∧
    (∀ a after, (put pv a).1 = .ok after →
      get after = (.ok a, shelf) ∧
      (∀ b, ∃ final, put after b = (.ok final, shelf) ∧ put pv b = (.ok final, shelf)) ∧
      (∀ path, ¬ path <+: handlePath → ¬ handlePath <+: path →
        after.nested path = pv.nested path) ∧
      ∀ path, pv.nested path = none → after.nested path ≠ none → path = handlePath) ∧
    (pv.Canonical → ∀ text, pv.nested handlePath = some (.str text) →
      get pv = (.ok text, shelf) ∧ put pv text = (.ok pv, shelf)) := by
  intro get put
  have hget : ∀ doc, get doc = (.ok (handleOf doc), shelf) := volumeId_of_open hopen
  have hput : ∀ doc id, put doc id = (withHandle doc id, shelf) := setVolumeId_of_open hopen
  refine ⟨⟨handleOf pv, hget pv, handleOf_eq_empty_iff pv⟩, fun a after hafter => ?_,
    fun hpv text htext => ?_⟩
  · have hwritten : withHandle pv a = .ok after := by rwa [hput] at hafter
    refine ⟨?_, fun b => ?_, fun path => nested_of_withHandle_apart hwritten,
      fun path => eq_handlePath_of_new hwritten⟩
    · rw [hget, handleOf_of_nested (nested_of_withHandle hwritten)]
    · obtain ⟨final, hfinal, honce⟩ := withHandle_then hwritten b
      exact ⟨final, by rw [hput, hfinal], by rw [hput, honce]⟩
  · rw [hget, hput, handleOf_of_nested htext, withHandle_self hpv htext]
    exact ⟨rfl, rfl⟩

/-- A volume whose driver is named beside the id takes another id, keeps its driver, and takes its
own id back. -/
theorem handle_lawful_driver :
    let works : Surroundings := ⟨fun path _ => .opened path, fun _ => none, 7, "now"⟩
    let shelf : Shelf := { current := some ⟨"a", "a", "local"⟩ }
    let pv : Json := .obj [("spec", .obj [("csi", .obj [("driver", .str "hostpath"),
      ("volumeHandle", .str "vol-old")])])]
    ∃ after, (setVolumeId pv "vol-new" works shelf).1 = .ok after ∧
      volumeId after works shelf = (.ok "vol-new", shelf) ∧
      after.nested ["spec", "csi", "driver"] = some (.str "hostpath") ∧
      setVolumeId after "vol-old" works shelf = (.ok pv, shelf) := by
  intro works shelf pv
  have hkeys : "driver" < "volumeHandle" := by decide
  have hpv : pv.Canonical :=
    ⟨List.pairwise_singleton _ _, ⟨List.pairwise_singleton _ _,
      ⟨List.pairwise_pair.2 hkeys, trivial, trivial, trivial⟩, trivial⟩, trivial⟩
  have hopen : shelf.current = some ⟨"a", "a", "local"⟩ := rfl
  have hsection : pv.nested driverPath =
      some (.obj [("driver", .str "hostpath"), ("volumeHandle", .str "vol-old")]) := rfl
  obtain ⟨-, hwrite, hread⟩ := handle_lawful works hopen pv
  obtain ⟨-, hback⟩ := hread hpv "vol-old" rfl
  obtain ⟨after, hafter⟩ := exists_withHandle_of_section hsection (.inr rfl) "vol-new"
  have hanswer : (setVolumeId pv "vol-new" works shelf).1 = .ok after := hafter
  obtain ⟨hget, hsecond, hframe, -⟩ := hwrite "vol-new" after hanswer
  obtain ⟨final, hfinal, honce⟩ := hsecond "vol-old"
  have hsame : final = pv := by
    rw [honce] at hback
    cases hback
    rfl
  rw [hsame] at hfinal
  exact ⟨after, hanswer, hget, hframe ["spec", "csi", "driver"] (by decide) (by decide), hfinal⟩

/-- **Where an id can be written.** With an open catalogue, an id can be written just where the
section of the driver is an object or null.  A volume without a section, and one with another value
in its place, is an invalid document; nothing else can go wrong. -/
theorem setVolumeId_outcome (around : Surroundings) {shelf : Shelf} {catalogue : OpenCatalogue}
    (hopen : shelf.current = some catalogue) (pv : Json) (id : String) :
    let answer := (setVolumeId pv id around shelf).1
    ((∃ after, answer = .ok after) ↔ ∃ driver, pv.nested driverPath = some driver ∧
      (driver = .null ∨ driver.isObject = true)) ∧
    (pv.nested driverPath = none →
      answer = .error (.invalidDocument "persistent volume has no spec.csi section")) ∧
    ∀ driver, pv.nested driverPath = some driver → driver ≠ .null → driver.isObject = false →
      answer = .error (.invalidDocument "field spec.csi is not an object") := by
  intro answer
  have hanswer : answer = withHandle pv id :=
    congrArg Prod.fst (setVolumeId_of_open hopen pv id)
  rw [hanswer]
  refine ⟨⟨fun ⟨after, hafter⟩ => ?_, fun ⟨driver, hdriver, hsection⟩ => ?_⟩,
    fun hmissing => withHandle_of_no_section hmissing id,
    fun driver hdriver hnull hobject => withHandle_of_other_section hdriver hnull hobject id⟩
  · obtain ⟨⟨driver, hdriver⟩, -⟩ := edit_of_withHandle hafter
    refine ⟨driver, hdriver, ?_⟩
    by_contra hother
    obtain ⟨hnull, hobject⟩ := not_or.1 hother
    rw [withHandle_of_other_section hdriver hnull (by simpa using hobject)] at hafter
    cases hafter
  · exact exists_withHandle_of_section hdriver hsection id

/-- A volume whose section is an object with a driver takes an id, and one without a section does
not. -/
theorem setVolumeId_outcome_host_path :
    let works : Surroundings := ⟨fun path _ => .opened path, fun _ => none, 7, "now"⟩
    let shelf : Shelf := { current := some ⟨"a", "a", "local"⟩ }
    let csi : Json := .obj [("spec", .obj [("csi", .obj [("driver", .str "hostpath")])])]
    let hostPath : Json := .obj [("spec", .obj [("hostPath", .obj [("path", .str "/data")])])]
    (∃ after, (setVolumeId csi "vol-new" works shelf).1 = .ok after) ∧
      (setVolumeId hostPath "vol-new" works shelf).1 =
        .error (.invalidDocument "persistent volume has no spec.csi section") := by
  intro works shelf csi hostPath
  have hopen : shelf.current = some ⟨"a", "a", "local"⟩ := rfl
  obtain ⟨hcsi, -⟩ := setVolumeId_outcome works hopen csi "vol-new"
  obtain ⟨-, hmissing, -⟩ := setVolumeId_outcome works hopen hostPath "vol-new"
  exact ⟨hcsi.2 ⟨_, rfl, .inr rfl⟩, hmissing rfl⟩

/-- A section that is null takes an id, though the volume has no driver: it comes out with a section
that it did not have. -/
theorem setVolumeId_null_section :
    let works : Surroundings := ⟨fun path _ => .opened path, fun _ => none, 7, "now"⟩
    let shelf : Shelf := { current := some ⟨"a", "a", "local"⟩ }
    let pv : Json := .obj [("spec", .obj [("csi", .null)])]
    (∀ fields, pv.nested driverPath ≠ some (.obj fields)) ∧
      (setVolumeId pv "vol-new" works shelf).1 =
        .ok (.obj [("spec", .obj [("csi", .obj [("volumeHandle", .str "vol-new")])])]) := by
  intro works shelf pv
  exact ⟨fun fields h => (nomatch h), rfl⟩

end RestorePlugins.Catalogue
