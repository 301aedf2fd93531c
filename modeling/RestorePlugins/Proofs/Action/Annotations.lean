import RestorePlugins.Action.Annotations
import RestorePlugins.Proofs.Json.Walks

namespace RestorePlugins.Annotations

/-!
# What stamping does to an item

Three documents decide what becomes of an item: the item, the item as it was backed up, and the
restore.

* `find?_stamp`, `stamp_insert`, `stamp_stamp` — a stamp is two annotations, and a second stamp
  changes nothing.
* `Writable` — the metadata of an item and its annotations can be written.
* `Stamped` — an item with its two annotations, and everything else as it was.
* `execute_outcome` — an item that is no object is refused before its backup is asked, the backup is
  asked before the item's own annotations are looked at, and a stamped item stays as it is.
-/

variable {item updated : Json}

/-! ### Stamps -/

/-- Stamping keeps every other annotation. -/
theorem find?_stamp {key : String} (hrestore : restoreNameKey ≠ key)
    (hbackup : backupNameKey ≠ key) (restore : Json) (annotations : Json.Fields) :
    Entries.find? key (stamp restore annotations) = Entries.find? key annotations := by
  unfold stamp
  split <;> simp [Entries.find?_insert, hrestore, hbackup]

/-- Stamping and writing another annotation may change places. -/
theorem stamp_insert {key : String} (hrestore : restoreNameKey ≠ key)
    (hbackup : backupNameKey ≠ key) (restore value : Json) (annotations : Json.Fields) :
    stamp restore (Entries.insert key value annotations) =
      Entries.insert key value (stamp restore annotations) := by
  unfold stamp
  split
  · simp only [Entries.insert_comm hrestore, Entries.insert_comm hbackup]
  · simp only [Entries.insert_comm hrestore]

theorem find?_restoreName_stamp (restore : Json) (annotations : Json.Fields) :
    Entries.find? restoreNameKey (stamp restore annotations) =
      some (.str ((restore.nestedString ["metadata", "name"]).getD "")) := by
  have hne : backupNameKey ≠ restoreNameKey := by decide
  unfold stamp
  split
  · rw [Entries.find?_insert, if_neg hne, Entries.find?_insert_self]
  · rw [Entries.find?_insert_self]

theorem find?_backupName_stamp (restore : Json) (annotations : Json.Fields) :
    Entries.find? backupNameKey (stamp restore annotations) =
      ((restore.nestedString ["spec", "backupName"]).map .str).or
        (Entries.find? backupNameKey annotations) := by
  have hne : restoreNameKey ≠ backupNameKey := by decide
  unfold stamp
  cases restore.nestedString ["spec", "backupName"] with
  | some name => exact Entries.find?_insert_self _ _ _
  | none =>
    show Entries.find? backupNameKey (Entries.insert restoreNameKey _ annotations) = _
    rw [Entries.find?_insert, if_neg hne]
    rfl

/-- A second stamp of one restore changes nothing. -/
theorem stamp_stamp (restore : Json) (annotations : Json.Fields) :
    stamp restore (stamp restore annotations) = stamp restore annotations := by
  have hne : restoreNameKey ≠ backupNameKey := by decide
  unfold stamp
  split
  · simp only [Entries.insert_comm hne, Entries.insert_insert_self]
  · simp only [Entries.insert_insert_self]

/-! ### Stamped items -/

/-- The metadata of an item and its annotations are each missing, null or an object. -/
def Writable (item : Json) : Prop :=
  ∀ place ∈ [["metadata"], ["metadata", "annotations"]], ∀ value, item.nested place = some value →
    value = .null ∨ value.isObject = true

theorem walkable_iff (hitem : item.isObject = true) :
    Json.Walkable path item ↔ Writable item := by
  constructor
  · rintro ⟨-, h⟩ place hplace
    apply h place
    rcases List.mem_pair.1 hplace with rfl | rfl
    · exact ⟨["annotations"], rfl⟩
    · exact List.prefix_rfl
  · intro h
    refine ⟨hitem, fun front hfront => ?_⟩
    rcases List.prefix_cons_iff.1 hfront with rfl | ⟨rest, rfl, hrest⟩
    · intro value hvalue
      cases hvalue
      exact .inr hitem
    · rcases List.prefix_cons_iff.1 hrest with rfl | ⟨last, rfl, hlast⟩
      · exact h ["metadata"] (by simp)
      · rw [List.prefix_nil.1 hlast]
        exact h ["metadata", "annotations"] (by simp)

/-- An item that bears the names of a restore and of its backup, if it has one, and that is
otherwise as it was. -/
structure Stamped (item restore updated : Json) : Prop where
  /-- A restore without a name counts as one with the empty name. -/
  restoreName : updated.nested ["metadata", "annotations", "bkplug.io/restore-name"] =
    some (.str ((restore.nestedString ["metadata", "name"]).getD ""))
  /-- Without a backup to name, the annotation is what it was. -/
  backupName : updated.nested ["metadata", "annotations", "bkplug.io/backup-name"] =
    ((restore.nestedString ["spec", "backupName"]).map .str).or
      (item.nested ["metadata", "annotations", "bkplug.io/backup-name"])
  /-- Every path leads where it led that goes through neither annotation, and not to an object
  around them. -/
  frame : ∀ other, ¬ other <+: ["metadata", "annotations"] →
    ¬ ["metadata", "annotations", "bkplug.io/restore-name"] <+: other →
    ¬ ["metadata", "annotations", "bkplug.io/backup-name"] <+: other →
    updated.nested other = item.nested other

/-- **Stamping.** The annotations of a writable item can be stamped, and once more without a
change. -/
theorem exists_editObject_stamp (hitem : item.isObject = true) (h : Writable item)
    (restore : Json) : ∃ updated, item.editObject path (stamp restore) = .ok updated ∧
      Stamped item restore updated ∧ updated.editObject path (stamp restore) = .ok updated := by
  have hwalkable : Json.Walkable path item := (walkable_iff hitem).2 h
  obtain ⟨updated, hedit, hnested⟩ :=
    Json.exists_editObject_of_walkable (stamp restore) hwalkable
  refine ⟨updated, hedit, ⟨?_, ?_, fun other hends hrestore hbackup => ?_⟩, ?_⟩
  · exact (Json.nested_field hnested restoreNameKey).trans (find?_restoreName_stamp restore _)
  · have hkept := Json.nested_field_of_walkable hwalkable backupNameKey
    rw [show item.nested ["metadata", "annotations", "bkplug.io/backup-name"] = _ from hkept]
    exact (Json.nested_field hnested backupNameKey).trans (find?_backupName_stamp restore _)
  · refine Json.nested_of_edited_apart hends (fun key back hother => ?_) hedit
    subst hother
    refine find?_stamp (fun heq => hrestore ?_) (fun heq => hbackup ?_) restore
    · exact ⟨back, by rw [← heq]; rfl⟩
    · exact ⟨back, by rw [← heq]; rfl⟩
  · exact Json.editObject_again (stamp_stamp restore) hedit

/-! ### The action -/

variable {itemFromBackup restore : Json}

/-- The annotation of a backed-up item that leaves it out. -/
theorem isSkipped_iff : isSkipped itemFromBackup = true ↔
    itemFromBackup.nestedString ["metadata", "annotations", "bkplug.io/skip-restore"] =
      some "true" :=
  beq_iff_eq

/-- An item that is not left out is stamped. -/
theorem execute_of_not_skipped (hitem : item.isObject = true)
    (hskip : isSkipped itemFromBackup = false) :
    execute ⟨item, itemFromBackup, restore⟩ =
      ((item.editObject path (stamp restore)).mapError PluginError.ofPathFault).map .updated := by
  simp only [execute, hitem, hskip, Bool.not_true, Bool.false_eq_true, if_false]
  cases item.editObject path (stamp restore) <;> rfl

/-- **What becomes of an item.**

* An item that is no object is an invalid document.
* An item whose backup asks to be left out is left out, whatever its own annotations are.
* Any other item is stamped where its metadata and annotations can be written, and is an invalid
  document where they cannot; the stamped item is stamped again without a change. -/
theorem execute_outcome (item itemFromBackup restore : Json) :
    let answer := execute ⟨item, itemFromBackup, restore⟩
    let leftOut := itemFromBackup.nestedString ["metadata", "annotations",
      "bkplug.io/skip-restore"] = some "true"
    (item.isObject = false → ∃ text, answer = .error (.invalidDocument text)) ∧
    (item.isObject = true → leftOut → answer = .ok ⟨none, [], true⟩) ∧
    (item.isObject = true → ¬ leftOut →
      ((∃ output, answer = .ok output) ↔ Writable item) ∧
      (¬ Writable item → ∃ text, answer = .error (.invalidDocument text)) ∧
      ∀ output, answer = .ok output → ∃ updated, output = ⟨some updated, [], false⟩ ∧
        Stamped item restore updated ∧
        execute ⟨updated, itemFromBackup, restore⟩ = .ok ⟨some updated, [], false⟩) := by
  intro answer leftOut
  refine ⟨fun hitem => ?_, fun hitem hskip => ?_, fun hitem hskip => ?_⟩
  · have hanswer : answer = .error (.invalidDocument "item must be a JSON object") := by
      simp only [answer, execute, hitem, Bool.not_false, if_true]
    exact ⟨_, hanswer⟩
  · simp only [answer, execute, hitem, isSkipped_iff.2 hskip, Bool.not_true, Bool.false_eq_true,
      if_false, if_true]
    rfl
  · have hstays : isSkipped itemFromBackup = false :=
      Bool.eq_false_iff.2 fun h => hskip (isSkipped_iff.1 h)
    by_cases h : Writable item
    · obtain ⟨updated, hedit, hstamped, hagain⟩ := exists_editObject_stamp hitem h restore
      have hanswer : answer = .ok ⟨some updated, [], false⟩ := by
        show execute _ = _
        rw [execute_of_not_skipped hitem hstays, hedit]
        rfl
      refine ⟨iff_of_true ⟨_, hanswer⟩ h, fun hnot => absurd h hnot, fun output houtput => ?_⟩
      rw [hanswer] at houtput
      cases houtput
      have hupdated : updated.isObject = true := by
        obtain ⟨fields, rfl⟩ := Json.exists_fields_of_edited_result hedit
        rfl
      refine ⟨updated, rfl, hstamped, ?_⟩
      rw [execute_of_not_skipped hupdated hstays, hagain]
      rfl
    · obtain ⟨fault, hfault⟩ :=
        Json.exists_fault_of_editObject (stamp restore) (mt (walkable_iff hitem).1 h)
      have hanswer : answer = .error (PluginError.ofPathFault fault) := by
        show execute _ = _
        rw [execute_of_not_skipped hitem hstays, hfault]
        rfl
      refine ⟨iff_of_false ?_ h, fun _ => ⟨_, hanswer⟩, fun output houtput => ?_⟩
      · rintro ⟨output, houtput⟩
        rw [hanswer] at houtput
        cases houtput
      · rw [hanswer] at houtput
        cases houtput

/-- An item with an annotation of its own keeps it, and stays as it is when it is stamped again. -/
theorem execute_outcome_owner :
    let item : Json := .obj [("kind", .str "Pod"),
      ("metadata", .obj [("annotations", .obj [("owner", .str "team-a")])])]
    let restore : Json := .obj [("metadata", .obj [("name", .str "r-1")])]
    item.isObject = true ∧ Writable item ∧
      ∃ updated, execute ⟨item, item, restore⟩ = .ok ⟨some updated, [], false⟩ ∧
        updated.nested ["metadata", "annotations", "owner"] = some (.str "team-a") ∧
        updated.nested ["metadata", "annotations", "bkplug.io/restore-name"] = some (.str "r-1") ∧
        execute ⟨updated, item, restore⟩ = .ok ⟨some updated, [], false⟩ := by
  intro item restore
  have hwritable : Writable item := by
    intro place hplace value hvalue
    rcases List.mem_pair.1 hplace with rfl | rfl <;> cases hvalue <;> exact .inr rfl
  have hstays : ¬ item.nestedString ["metadata", "annotations", "bkplug.io/skip-restore"] =
      some "true" := by
    decide
  obtain ⟨-, -, hstamps⟩ := execute_outcome item item restore
  obtain ⟨hwhen, -, hall⟩ := hstamps rfl hstays
  obtain ⟨output, houtput⟩ := hwhen.2 hwritable
  obtain ⟨updated, rfl, hstamped, hagain⟩ := hall output houtput
  have howner := hstamped.frame ["metadata", "annotations", "owner"] (by decide) (by decide)
    (by decide)
  exact ⟨rfl, hwritable, updated, houtput, howner, hstamped.restoreName, hagain⟩

end RestorePlugins.Annotations
