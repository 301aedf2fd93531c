import RestorePlugins.Action.ClaimedVolume
import RestorePlugins.Proofs.Action.Annotations
import RestorePlugins.Proofs.Action.StorageClass

namespace RestorePlugins

/-!
# The order of the restore item actions

A restore gives an item to one action after the other.  The built-in actions may stand in any
order.

* `Progress`, `thread` — what a restore has made of an item, and the way of an item through
  several actions.
* `thread_perm` — actions of which any two may change places may stand in any order.
* `StorageClass.stamp_rewrite` — changing classes and stamping may change places, although both
  write into the annotations.
* `thread_builtinActions_perm` — the order of the built-in actions does not matter.
-/

variable {W : Type}

/-! ### Threading an item through actions -/

/-- What a restore has made of an item so far. -/
structure Progress where
  item : Json
  additionalItems : List ResourceIdentifier := []
  skipRestore : Bool := false

/-- Takes over what an action decided. -/
def Progress.after (progress : Progress) (output : ExecuteOutput) : Progress where
  item := output.updatedItem.getD progress.item
  additionalItems := progress.additionalItems ++ output.additionalItems
  skipRestore := progress.skipRestore || output.skipRestore

/-- Gives the item to one action. -/
def advance (itemFromBackup restore : Json) (action : RestoreAction W) (progress : Progress) :
    Call W Progress := fun world =>
  let (answer, world) := action.execute ⟨progress.item, itemFromBackup, restore⟩ world
  (answer.map progress.after, world)

/-- Gives the item to one action after the other, up to the first that fails. -/
def thread (itemFromBackup restore : Json) : List (RestoreAction W) → Progress → Call W Progress
  | [], progress => fun world => (.ok progress, world)
  | action :: rest, progress => fun world =>
    match advance itemFromBackup restore action progress world with
    | (.ok progress, world) => thread itemFromBackup restore rest progress world
    | (.error failure, world) => (.error failure, world)

/-- Two actions may change places. -/
def Commute (itemFromBackup restore : Json) (a b : RestoreAction W) : Prop :=
  ∀ progress world, thread itemFromBackup restore [a, b] progress world =
    thread itemFromBackup restore [b, a] progress world

variable {itemFromBackup restore : Json}

/-- The way through two lists of actions, one after the other. -/
theorem thread_append (front back : List (RestoreAction W)) (progress : Progress) (world : W) :
    thread itemFromBackup restore (front ++ back) progress world =
      match thread itemFromBackup restore front progress world with
      | (.ok progress, world) => thread itemFromBackup restore back progress world
      | (.error failure, world) => (.error failure, world) := by
  induction front generalizing progress world with
  | nil => rfl
  | cons action rest ih =>
    simp only [List.cons_append, thread]
    rcases advance itemFromBackup restore action progress world with ⟨_ | progress, world⟩
    · rfl
    · exact ih progress world

/-- **Order independence.** Actions of which any two may change places may stand in any order. -/
theorem thread_perm {actions order : List (RestoreAction W)} (hperm : order.Perm actions)
    (hcomm : ∀ a ∈ actions, ∀ b ∈ actions, Commute itemFromBackup restore a b)
    (progress : Progress) (world : W) :
    thread itemFromBackup restore order progress world =
      thread itemFromBackup restore actions progress world := by
  induction hperm generalizing progress world with
  | nil => rfl
  | cons a _ ih =>
    have hrest := fun b hb c hc => hcomm b (List.mem_cons_of_mem a hb) c (List.mem_cons_of_mem a hc)
    simp only [thread]
    rcases advance itemFromBackup restore a progress world with ⟨_ | progress, world⟩
    · rfl
    · exact ih hrest progress world
  | swap a b rest =>
    have hswap : Commute itemFromBackup restore b a :=
      hcomm b (by simp) a (by simp)
    show thread _ _ ([b, a] ++ rest) progress world = thread _ _ ([a, b] ++ rest) progress world
    rw [thread_append, thread_append, hswap progress world]
  | trans _ hperm ih₁ ih₂ =>
    have hmiddle := fun a ha b hb => hcomm a (hperm.mem_iff.1 ha) b (hperm.mem_iff.1 hb)
    rw [ih₁ hmiddle, ih₂ hcomm]

/-! ### Actions without a state -/

/-- The progress with one rule. -/
def follow (itemFromBackup restore : Json) (rule : ExecuteInput → Except PluginError ExecuteOutput)
    (progress : Progress) : Except PluginError Progress :=
  (rule ⟨progress.item, itemFromBackup, restore⟩).map progress.after

theorem advance_ofRule (selector : ResourceSelector)
    (rule : ExecuteInput → Except PluginError ExecuteOutput) (progress : Progress) :
    advance (W := W) itemFromBackup restore (.ofRule selector rule) progress =
      Call.pure (follow itemFromBackup restore rule progress) := by
  funext world
  simp only [advance, RestoreAction.ofRule, Call.pure, follow]
  cases rule ⟨progress.item, itemFromBackup, restore⟩ <;> rfl

theorem thread_ofRule (selector : ResourceSelector)
    (rule : ExecuteInput → Except PluginError ExecuteOutput) (progress : Progress) (world : W) :
    thread itemFromBackup restore [.ofRule selector rule] progress world =
      Call.pure (follow itemFromBackup restore rule progress) world := by
  simp only [thread, advance_ofRule]
  cases follow itemFromBackup restore rule progress <;> rfl

/-- Two rules that commute make two actions that do. -/
theorem commute_ofRule {s₁ s₂ : ResourceSelector}
    {r₁ r₂ : ExecuteInput → Except PluginError ExecuteOutput}
    (h : ∀ progress, (follow itemFromBackup restore r₁ progress >>=
      follow itemFromBackup restore r₂) = (follow itemFromBackup restore r₂ progress >>=
      follow itemFromBackup restore r₁)) :
    Commute (W := W) itemFromBackup restore (.ofRule s₁ r₁) (.ofRule s₂ r₂) := by
  have hpair : ∀ (s₁ s₂ : ResourceSelector) (r₁ r₂) (progress : Progress) (world : W),
      thread itemFromBackup restore [.ofRule s₁ r₁, .ofRule s₂ r₂] progress world =
        Call.pure (follow itemFromBackup restore r₁ progress >>=
          follow itemFromBackup restore r₂) world := by
    intro s₁ s₂ r₁ r₂ progress world
    show thread _ _ ([.ofRule s₁ r₁] ++ [.ofRule s₂ r₂]) progress world = _
    rw [thread_append, thread_ofRule]
    cases follow itemFromBackup restore r₁ progress with
    | error e => rfl
    | ok middle => exact thread_ofRule s₂ r₂ middle world
  intro progress world
  rw [hpair, hpair, h progress]

/-! ### The built-in rules -/

/-- Changing classes makes progress with every item. -/
theorem follow_storageClass (mapping : Dict String) (progress : Progress) :
    follow itemFromBackup restore (StorageClass.execute mapping) progress =
      .ok { progress with item := StorageClass.rewrite mapping progress.item } := by
  rw [follow, StorageClass.execute_eq]
  split
  · next h =>
    rw [StorageClass.rewrite_of_none h.1 h.2]
    simp [Except.map, Progress.after, ExecuteOutput.unchanged]
  · simp [Except.map, Progress.after, ExecuteOutput.updated]

/-- Adding the volume of a claim makes progress with every item. -/
theorem follow_claimedVolume (progress : Progress) :
    follow itemFromBackup restore ClaimedVolume.execute progress =
      .ok { progress with
        additionalItems :=
          progress.additionalItems ++ (ClaimedVolume.boundVolume? progress.item).toList } := by
  simp [follow, ClaimedVolume.execute, Except.map, Progress.after]

/-- Stamping fails, leaves the item out, or edits its annotations. -/
theorem follow_annotations (progress : Progress) :
    follow itemFromBackup restore Annotations.execute progress =
      if !progress.item.isObject then
        .error (.invalidDocument "item must be a JSON object")
      else if Annotations.isSkipped itemFromBackup then .ok { progress with skipRestore := true }
      else ((progress.item.editObject Annotations.path (Annotations.stamp restore)).mapError
        PluginError.ofPathFault).map fun item => { progress with item := item } := by
  unfold follow Annotations.execute
  split
  · rfl
  · split
    · simp [Except.map, Progress.after, ExecuteOutput.skip]
    · cases progress.item.editObject Annotations.path (Annotations.stamp restore) with
      | error fault => rfl
      | ok item =>
        show Except.ok (progress.after (.updated item)) = .ok { progress with item := item }
        simp [Progress.after, ExecuteOutput.updated]

/-! ### Stamping and the other rules -/

namespace StorageClass

variable {item after stamped : Json}

/-- Writing classes and then stamping is stamping and then writing the same classes. -/
theorem replaceBoth_then_stamp {spec annotation : Option String}
    (h : replaceBoth spec annotation item = .ok after) :
    after.editObject Annotations.path (Annotations.stamp restore) =
      item.editObject Annotations.path (Annotations.stamp restore) >>=
        replaceBoth spec annotation := by
  obtain ⟨middle, hmiddle, hafter⟩ := replaceBoth_eq_ok_iff.1 h
  -- Both edits of the annotations are one edit, whose parts change places.
  have hlegacy : after.editObject Annotations.path (Annotations.stamp restore) =
      middle.editObject Annotations.path (Annotations.stamp restore) >>=
        replaceClass ["metadata", "annotations"] annotationKey annotation := by
    cases annotation with
    | none => cases hafter; exact (bind_pure _).symm
    | some name =>
      have hswap : Annotations.stamp restore ∘ Entries.insert annotationKey (.str name) =
          Entries.insert annotationKey (.str name) ∘ Annotations.stamp restore :=
        funext fun fields =>
          Annotations.stamp_insert (by decide) (by decide) restore (.str name) fields
      calc after.editObject Annotations.path (Annotations.stamp restore)
          = (middle.editObject Annotations.path (Entries.insert annotationKey (.str name)) >>=
              fun d => d.editObject Annotations.path (Annotations.stamp restore)) := by
            rw [show middle.editObject Annotations.path _ = .ok after from hafter]; rfl
        _ = middle.editObject Annotations.path
              (Annotations.stamp restore ∘ Entries.insert annotationKey (.str name)) :=
            Json.editObject_then_same _ _ _ _
        _ = _ := by rw [hswap]; exact (Json.editObject_then_same _ _ _ _).symm
  -- The specification is another field than the metadata.
  have hspec : middle.editObject Annotations.path (Annotations.stamp restore) =
      item.editObject Annotations.path (Annotations.stamp restore) >>=
        replaceClass ["spec"] "storageClassName" spec := by
    cases spec with
    | none => cases hmiddle; exact (bind_pure _).symm
    | some name => exact Json.editObject_then_other (by decide : "spec" ≠ "metadata") hmiddle
  rw [hlegacy, hspec, bind_assoc]
  rfl

/-- Stamping keeps what the rule looks at. -/
theorem classes_stamped (mapping : Dict String)
    (h : item.editObject Annotations.path (Annotations.stamp restore) = .ok stamped) :
    specClass mapping stamped = specClass mapping item ∧
      annotationClass mapping stamped = annotationClass mapping item := by
  have hspec : stamped.nested ["spec", "storageClassName"] =
      item.nested ["spec", "storageClassName"] :=
    Json.nested_of_edited_other (by decide : "metadata" ≠ "spec") h
  have hkind : stamped.nested ["kind"] = item.nested ["kind"] :=
    Json.nested_of_edited_other (by decide : "metadata" ≠ "kind") h
  have hlegacy : stamped.nested (Annotations.path ++ [annotationKey]) =
      item.nested (Annotations.path ++ [annotationKey]) :=
    Json.nested_of_edited_key
      (fun fields => Annotations.find?_stamp (by decide) (by decide) restore fields) h
  have hpath : Annotations.path ++ [annotationKey] = ["metadata", "annotations", annotationKey] :=
    rfl
  rw [hpath] at hlegacy
  have hclaim : isClaim stamped = isClaim item := by
    simp only [isClaim, Json.nestedString, hkind]
  have hnew : newClass mapping stamped ["metadata", "annotations", annotationKey] =
      newClass mapping item ["metadata", "annotations", annotationKey] := by
    simp only [newClass, Json.nestedString, hlegacy]
  constructor
  · simp only [specClass, newClass, Json.nestedString, hspec]
  · rw [annotationClass, annotationClass, hclaim, hnew]

/-- **Exchange.** Changing classes and stamping may change places. -/
theorem stamp_rewrite (mapping : Dict String) (item restore : Json) :
    (rewrite mapping item).editObject Annotations.path (Annotations.stamp restore) =
      (item.editObject Annotations.path (Annotations.stamp restore)).map (rewrite mapping) := by
  rw [replaceBoth_then_stamp (replaceBoth_eq_rewrite mapping item)]
  cases h : item.editObject Annotations.path (Annotations.stamp restore) with
  | error fault => rfl
  | ok stamped =>
    obtain ⟨hspec, hlegacy⟩ := classes_stamped mapping h
    show replaceBoth (specClass mapping item) (annotationClass mapping item) stamped =
      .ok (rewrite mapping stamped)
    rw [← hspec, ← hlegacy, replaceBoth_eq_rewrite]

end StorageClass

/-- The volume of a claim depends on its specification only. -/
theorem boundVolume?_congr {a b : Json}
    (h : a.nested ["spec", "volumeName"] = b.nested ["spec", "volumeName"]) :
    ClaimedVolume.boundVolume? a = ClaimedVolume.boundVolume? b := by
  simp only [ClaimedVolume.boundVolume?, Json.nestedString, h]

/-! ### The built-in actions -/

/-- The built-in actions in the order in which they are registered. -/
def builtinActions (mapping : Dict String) : List (RestoreAction W) :=
  [Annotations.action, StorageClass.action mapping, ClaimedVolume.action]

theorem commute_annotations_storageClass (mapping : Dict String)
    (itemFromBackup restore : Json) :
    Commute (W := W) itemFromBackup restore Annotations.action (StorageClass.action mapping) := by
  apply commute_ofRule
  intro progress
  rw [follow_storageClass, follow_annotations]
  show _ = follow itemFromBackup restore Annotations.execute _
  rw [follow_annotations, StorageClass.isObject_rewrite]
  split
  · rfl
  · split
    · exact follow_storageClass mapping _
    · rw [StorageClass.stamp_rewrite]
      cases progress.item.editObject Annotations.path (Annotations.stamp restore) with
      | error fault => rfl
      | ok stamped => exact follow_storageClass mapping _

theorem commute_annotations_claimedVolume (itemFromBackup restore : Json) :
    Commute (W := W) itemFromBackup restore Annotations.action ClaimedVolume.action := by
  apply commute_ofRule
  intro progress
  rw [follow_claimedVolume, follow_annotations]
  show _ = follow itemFromBackup restore Annotations.execute _
  rw [follow_annotations]
  split
  · rfl
  · split
    · exact follow_claimedVolume _
    · cases h : progress.item.editObject Annotations.path (Annotations.stamp restore) with
      | error fault => rfl
      | ok stamped =>
        have hvolume : ClaimedVolume.boundVolume? stamped =
            ClaimedVolume.boundVolume? progress.item :=
          boundVolume?_congr (Json.nested_of_edited_other (by decide : "metadata" ≠ "spec") h)
        show follow itemFromBackup restore ClaimedVolume.execute _ = _
        rw [follow_claimedVolume, hvolume]
        rfl

theorem commute_storageClass_claimedVolume (mapping : Dict String)
    (itemFromBackup restore : Json) :
    Commute (W := W) itemFromBackup restore (StorageClass.action mapping)
      ClaimedVolume.action := by
  apply commute_ofRule
  intro progress
  have hvolume : ClaimedVolume.boundVolume? (StorageClass.rewrite mapping progress.item) =
      ClaimedVolume.boundVolume? progress.item :=
    boundVolume?_congr (StorageClass.nested_rewrite_spec (by decide) [])
  rw [follow_storageClass, follow_claimedVolume]
  show follow itemFromBackup restore ClaimedVolume.execute _ =
    follow itemFromBackup restore (StorageClass.execute mapping) _
  rw [follow_claimedVolume, follow_storageClass, hvolume]

/-- Any two of the built-in actions may change places. -/
theorem commute_builtinActions (mapping : Dict String) :
    ∀ a ∈ builtinActions (W := W) mapping, ∀ b ∈ builtinActions mapping,
      Commute itemFromBackup restore a b := by
  have hsymm : ∀ {a b : RestoreAction W}, Commute itemFromBackup restore a b →
      Commute itemFromBackup restore b a :=
    fun h progress world => (h progress world).symm
  have hrefl : ∀ a : RestoreAction W, Commute itemFromBackup restore a a := fun _ _ _ => rfl
  have hstamp := commute_annotations_storageClass (W := W) mapping itemFromBackup restore
  have hclaim := commute_annotations_claimedVolume (W := W) itemFromBackup restore
  have hclass := commute_storageClass_claimedVolume (W := W) mapping itemFromBackup restore
  intro a ha b hb
  simp only [builtinActions, List.mem_cons, List.not_mem_nil, or_false] at ha hb
  rcases ha with rfl | rfl | rfl <;> rcases hb with rfl | rfl | rfl
  · exact hrefl _
  · exact hstamp
  · exact hclaim
  · exact hsymm hstamp
  · exact hrefl _
  · exact hclass
  · exact hsymm hclaim
  · exact hsymm hclass
  · exact hrefl _

/-- **The order does not matter.** An item that goes through the built-in actions in any order
ends in the same outcome: the same failure, or the same item, additional items and decision to
leave it out. -/
theorem thread_builtinActions_perm (mapping : Dict String) (item itemFromBackup restore : Json)
    {order : List (RestoreAction W)} (horder : order.Perm (builtinActions mapping)) (world : W) :
    thread itemFromBackup restore order { item := item } world =
      thread itemFromBackup restore (builtinActions mapping) { item := item } world :=
  thread_perm horder (commute_builtinActions mapping) _ _

/-- A claim with both classes: adding its volume first and stamping last makes no difference. -/
theorem thread_builtinActions_reversed :
    let mapping := Dict.ofPairs [("slow", "fast")]
    let claim : Json := .obj [("kind", .str "PersistentVolumeClaim"),
      ("metadata", .obj [("annotations", .obj [(StorageClass.annotationKey, .str "slow")])]),
      ("spec", .obj [("storageClassName", .str "slow"), ("volumeName", .str "pv-1")])]
    let restore : Json := .obj [("metadata", .obj [("name", .str "restore-1")])]
    let reversed : List (RestoreAction Unit) :=
      [ClaimedVolume.action, StorageClass.action mapping, Annotations.action]
    reversed.Perm (builtinActions mapping) ∧
      thread claim restore reversed { item := claim } () =
        thread claim restore (builtinActions mapping) { item := claim } () := by
  intro mapping claim restore reversed
  have horder : reversed.Perm (builtinActions mapping) :=
    List.reverse_perm (builtinActions mapping)
  exact ⟨horder, thread_builtinActions_perm mapping claim claim restore horder ()⟩

end RestorePlugins
