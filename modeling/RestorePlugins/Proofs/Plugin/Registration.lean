import Mathlib.Data.List.Perm.Basic
import RestorePlugins.Plugin.Registry
import RestorePlugins.Proofs.Dictionaries
import RestorePlugins.Proofs.Text.ByteOrder

namespace RestorePlugins

/-!
# What a registry holds after registrations

Plugins are registered one after the other, and a registration that is refused changes nothing.

* `Registry.attempt`, `Registry.after` — one registration and many.
* `Registry.accepted` — those of them that succeed.
* `Registry.Admits` — a registration succeeds, which is when its name is valid and free.
* `find?_after` — a kind and a name lead to the plugin of the first registration that succeeded.
* `registrations` — a registry is a list of the registrations that succeeded, in the order of kinds
  and names, and their order in time does not matter.
-/

/-- One plugin is listed before another: restore item actions first, then by the bytes of names. -/
def PluginIdentifier.Before (a b : PluginIdentifier) : Prop :=
  (a.kind = .restoreItemAction ∧ b.kind = .volumeSnapshotter) ∨
    (a.kind = b.kind ∧ utf8 a.name < utf8 b.name)

namespace Registry

variable {W : Type} {r : Registry W} {call other : String × Plugin W}

/-! ### Registrations -/

/-- The kind and the name under which a plugin is registered. -/
def keyOf (call : String × Plugin W) : PluginKind × String := (call.2.kind, call.1)

/-- The plugin of a kind and name, by the look-up for its kind. -/
def lookUp (kind : PluginKind) (name : String) (r : Registry W) : Except PluginError (Plugin W) :=
  match kind with
  | .restoreItemAction => (r.action name).map .action
  | .volumeSnapshotter => (r.snapshotter name).map .snapshotter

/-- One registration; a refused one leaves the registry as it is. -/
def attempt (call : String × Plugin W) (r : Registry W) : Except PluginError Unit × Registry W :=
  match r.register call.1 call.2 with
  | .ok registered => (.ok (), registered)
  | .error e => (.error e, r)

/-- The registry after registrations. -/
def after (calls : List (String × Plugin W)) (r : Registry W) : Registry W :=
  calls.foldl (fun r call => (r.attempt call).2) r

/-- The registrations that succeed, in order. -/
def accepted : List (String × Plugin W) → Registry W → List (String × Plugin W)
  | [], _ => []
  | call :: rest, r =>
    if (r.attempt call).1.isOk then call :: accepted rest (r.attempt call).2
    else accepted rest (r.attempt call).2

/-! ### Look-ups -/

theorem lookUp_eq (kind : PluginKind) (name : String) (r : Registry W) :
    r.lookUp kind name = (r.find? kind name).elim (.error (.notFound kind name)) .ok := by
  cases kind with
  | restoreItemAction => cases h : r.actions.get? name <;> simp [lookUp, action, find?, h, Except.map]
  | volumeSnapshotter =>
    cases h : r.snapshotters.get? name <;> simp [lookUp, snapshotter, find?, h, Except.map]

/-- A plugin that is put in stands under its kind and name, and no other look-up changes. -/
theorem find?_put (name : String) (plugin : Plugin W) (kind : PluginKind) (wanted : String) :
    (r.put name plugin).find? kind wanted =
      if plugin.kind = kind ∧ name = wanted then some plugin else r.find? kind wanted := by
  cases plugin with
  | action action =>
    cases kind with
    | restoreItemAction =>
      by_cases h : name = wanted <;> simp [find?, put, Plugin.kind, Dict.get?_insert, h]
    | volumeSnapshotter => simp [find?, put, Plugin.kind]
  | snapshotter snapshotter =>
    cases kind with
    | restoreItemAction => simp [find?, put, Plugin.kind]
    | volumeSnapshotter =>
      by_cases h : name = wanted <;> simp [find?, put, Plugin.kind, Dict.get?_insert, h]

/-- Plugins with different kinds or names may be put in in any order. -/
theorem put_comm (h : keyOf call ≠ keyOf other) (r : Registry W) :
    (r.put call.1 call.2).put other.1 other.2 = (r.put other.1 other.2).put call.1 call.2 := by
  obtain ⟨name, plugin⟩ := call
  obtain ⟨otherName, otherPlugin⟩ := other
  have hcomm : ∀ {α : Type} (x y : α) (d : Dict α), name ≠ otherName →
      (d.insert name x).insert otherName y = (d.insert otherName y).insert name x :=
    fun x y d hne => Dict.ext (Entries.insert_comm hne.symm y x d.entries)
  cases plugin with
  | action action =>
    cases otherPlugin with
    | action otherAction =>
      have hne : name ≠ otherName := fun heq => h (by simp [keyOf, Plugin.kind, heq])
      simp only [put, hcomm _ _ _ hne]
    | snapshotter otherSnapshotter => rfl
  | snapshotter snapshotter =>
    cases otherPlugin with
    | action otherAction => rfl
    | snapshotter otherSnapshotter =>
      have hne : name ≠ otherName := fun heq => h (by simp [keyOf, Plugin.kind, heq])
      simp only [put, hcomm _ _ _ hne]

/-! ### One registration -/

/-- A registration is admitted: its name is valid, and no plugin of its kind has it. -/
def Admits (r : Registry W) (call : String × Plugin W) : Prop :=
  checkPluginName call.1 = .ok () ∧ r.find? call.2.kind call.1 = none

theorem attempt_of_admits (h : r.Admits call) :
    r.attempt call = (.ok (), r.put call.1 call.2) := by
  simp [attempt, register, h.1, h.2, bind, Except.bind]

/-- A registration that is not admitted is refused: for its name, or because that is taken. -/
theorem attempt_of_not_admits (h : ¬ r.Admits call) : ∃ e, r.attempt call = (.error e, r) := by
  cases hname : checkPluginName call.1 with
  | error e => exact ⟨e, by simp [attempt, register, hname, bind, Except.bind]⟩
  | ok _ =>
    have htaken : (r.find? call.2.kind call.1).isSome = true :=
      Option.isSome_iff_ne_none.2 fun hnone => h ⟨hname, hnone⟩
    exact ⟨.alreadyRegistered call.2.kind call.1, by
      simp [attempt, register, hname, htaken, bind, Except.bind]⟩

theorem isOk_attempt_iff : (r.attempt call).1.isOk = true ↔ r.Admits call := by
  by_cases h : r.Admits call
  · rw [attempt_of_admits h]
    exact iff_of_true rfl h
  · obtain ⟨e, he⟩ := attempt_of_not_admits h
    rw [he]
    exact iff_of_false Bool.false_ne_true h

/-- A plugin that is put in stands in the way of registrations of its own kind and name only. -/
theorem admits_put (h : keyOf call ≠ keyOf other) :
    (r.put call.1 call.2).Admits other ↔ r.Admits other := by
  have hne : ¬ (call.2.kind = other.2.kind ∧ call.1 = other.1) := fun heq =>
    h (Prod.ext heq.1 heq.2)
  rw [Admits, Admits, find?_put, if_neg hne]

/-- **Exchange.** Registrations of different kinds or names may change places. -/
theorem attempt_comm (h : keyOf call ≠ keyOf other) (r : Registry W) :
    ((r.attempt call).2.attempt other).2 = ((r.attempt other).2.attempt call).2 := by
  by_cases hcall : r.Admits call
  · by_cases hother : r.Admits other
    · rw [attempt_of_admits hcall, attempt_of_admits hother,
        attempt_of_admits ((admits_put h).2 hother), attempt_of_admits ((admits_put h.symm).2 hcall),
        put_comm h]
    · obtain ⟨e, he⟩ := attempt_of_not_admits hother
      obtain ⟨e', he'⟩ := attempt_of_not_admits (mt (admits_put h).1 hother)
      rw [attempt_of_admits hcall, he, he', attempt_of_admits hcall]
  · obtain ⟨e, he⟩ := attempt_of_not_admits hcall
    by_cases hother : r.Admits other
    · obtain ⟨e', he'⟩ := attempt_of_not_admits (mt (admits_put h.symm).1 hcall)
      rw [he, attempt_of_admits hother, he']
    · obtain ⟨e', he'⟩ := attempt_of_not_admits hother
      rw [he, he', he]

/-! ### Many registrations -/

/-- The successful registrations of a sequence with a first one. -/
theorem accepted_cons_of_admits (h : r.Admits call) (rest : List (String × Plugin W)) :
    accepted (call :: rest) r = call :: accepted rest (r.put call.1 call.2) := by
  rw [accepted, attempt_of_admits h]
  exact if_pos rfl

theorem accepted_cons_of_not_admits (h : ¬ r.Admits call) (rest : List (String × Plugin W)) :
    accepted (call :: rest) r = accepted rest r := by
  obtain ⟨e, he⟩ := attempt_of_not_admits h
  rw [accepted, he]
  exact if_neg Bool.false_ne_true

theorem after_cons_of_admits (h : r.Admits call) (rest : List (String × Plugin W)) :
    after (call :: rest) r = after rest (r.put call.1 call.2) := by
  rw [after, List.foldl_cons, attempt_of_admits h, after]

theorem after_cons_of_not_admits (h : ¬ r.Admits call) (rest : List (String × Plugin W)) :
    after (call :: rest) r = after rest r := by
  obtain ⟨e, he⟩ := attempt_of_not_admits h
  rw [after, List.foldl_cons, he, after]

/-- **Look-ups.** A kind and a name lead to the plugin that stood there, or else to that of the first
registration that succeeded with them. -/
theorem find?_after (calls : List (String × Plugin W)) (r : Registry W) (kind : PluginKind)
    (name : String) :
    (after calls r).find? kind name = (r.find? kind name).or
      (((accepted calls r).find? fun call => keyOf call = (kind, name)).map Prod.snd) := by
  induction calls generalizing r with
  | nil => exact Option.or_none.symm
  | cons call rest ih =>
    by_cases h : r.Admits call
    · rw [after_cons_of_admits h, accepted_cons_of_admits h, ih, find?_put, List.find?_cons]
      by_cases hkey : call.2.kind = kind ∧ call.1 = name
      · obtain ⟨rfl, rfl⟩ := hkey
        simp [keyOf, h.2]
      · have hne : ¬ keyOf call = (kind, name) := fun heq =>
          hkey ⟨congrArg Prod.fst heq, congrArg Prod.snd heq⟩
        simp [hkey, hne]
    · rw [after_cons_of_not_admits h, accepted_cons_of_not_admits h, ih]

theorem find?_after_empty (calls : List (String × Plugin W)) (kind : PluginKind) (name : String) :
    (after calls empty).find? kind name =
      ((accepted calls empty).find? fun call => keyOf call = (kind, name)).map Prod.snd := by
  have hempty : (empty : Registry W).find? kind name = none := by cases kind <;> rfl
  rw [find?_after, hempty, Option.none_or]

/-- What succeeds was free before, and of one kind and name only one registration succeeds. -/
theorem accepted_free (calls : List (String × Plugin W)) (r : Registry W) :
    (∀ call ∈ accepted calls r, r.find? call.2.kind call.1 = none) ∧
      ((accepted calls r).map keyOf).Nodup := by
  induction calls generalizing r with
  | nil => exact ⟨fun _ h => (List.not_mem_nil h).elim, List.nodup_nil⟩
  | cons call rest ih =>
    by_cases h : r.Admits call
    · obtain ⟨hfree, hnodup⟩ := ih (r.put call.1 call.2)
      rw [accepted_cons_of_admits h]
      -- Behind the first registration its own kind and name are taken.
      have hother : ∀ later ∈ accepted rest (r.put call.1 call.2),
          keyOf later ≠ keyOf call ∧ r.find? later.2.kind later.1 = none := by
        intro later hlater
        have hfound := hfree later hlater
        rw [find?_put] at hfound
        split at hfound
        · cases hfound
        · next hne =>
          exact ⟨fun heq => hne ⟨(congrArg Prod.fst heq).symm, (congrArg Prod.snd heq).symm⟩, hfound⟩
      constructor
      · intro later hlater
        rcases List.mem_cons.1 hlater with rfl | hlater
        · exact h.2
        · exact (hother later hlater).2
      · rw [List.map_cons, List.nodup_cons]
        refine ⟨fun hmem => ?_, hnodup⟩
        obtain ⟨later, hlater, hkey⟩ := List.mem_map.1 hmem
        exact (hother later hlater).1 hkey
    · rw [accepted_cons_of_not_admits h]
      exact ih r

/-- Refused registrations may be left out. -/
theorem after_accepted (calls : List (String × Plugin W)) (r : Registry W) :
    after (accepted calls r) r = after calls r := by
  induction calls generalizing r with
  | nil => rfl
  | cons call rest ih =>
    by_cases h : r.Admits call
    · rw [accepted_cons_of_admits h, after_cons_of_admits h, after_cons_of_admits h, ih]
    · rw [accepted_cons_of_not_admits h, after_cons_of_not_admits h, ih]

/-- Different registrations make the same registry in any order. -/
theorem after_perm {calls others : List (String × Plugin W)} (hperm : calls.Perm others)
    (hdistinct : (calls.map keyOf).Nodup) (r : Registry W) : after others r = after calls r := by
  refine (hperm.foldl_eq' (fun call hcall other hother r => ?_) r).symm
  by_cases hkey : keyOf call = keyOf other
  · rw [List.inj_on_of_nodup_map hdistinct hcall hother hkey]
  · exact attempt_comm hkey r

/-! ### Listings -/

theorem mem_list_iff {command : String} {id : PluginIdentifier} :
    id ∈ r.list command ↔ id.command = command ∧ (r.find? id.kind id.name).isSome = true := by
  obtain ⟨shown, kind, name⟩ := id
  simp only [list, List.mem_append, List.mem_map, Dict.mem_keys_iff, PluginIdentifier.mk.injEq]
  cases kind with
  | restoreItemAction =>
    simp only [find?, Option.isSome_map, reduceCtorEq, false_and, and_false, exists_false, or_false]
    constructor
    · rintro ⟨_, hfound, hcommand, -, rfl⟩
      exact ⟨hcommand.symm, hfound⟩
    · rintro ⟨rfl, hfound⟩
      exact ⟨name, hfound, rfl, trivial, rfl⟩
  | volumeSnapshotter =>
    simp only [find?, Option.isSome_map, reduceCtorEq, false_and, and_false, exists_false, false_or]
    constructor
    · rintro ⟨_, hfound, hcommand, -, rfl⟩
      exact ⟨hcommand.symm, hfound⟩
    · rintro ⟨rfl, hfound⟩
      exact ⟨name, hfound, rfl, trivial, rfl⟩

/-- A listing ascends by kind and by the bytes of names. -/
theorem list_before (command : String) (r : Registry W) :
    (r.list command).Pairwise PluginIdentifier.Before := by
  have hkind : ∀ (kind : PluginKind) (names : List String), names.Pairwise (· < ·) →
      (names.map fun name => (⟨command, kind, name⟩ : PluginIdentifier)).Pairwise
        PluginIdentifier.Before :=
    fun kind names h => List.pairwise_map.2 (h.imp fun hlt => .inr ⟨rfl, utf8_lt_iff.2 hlt⟩)
  refine List.pairwise_append.2 ⟨hkind _ _ r.actions.keys_ascending,
    hkind _ _ r.snapshotters.keys_ascending, fun a ha b hb => ?_⟩
  obtain ⟨_, -, rfl⟩ := List.mem_map.1 ha
  obtain ⟨_, -, rfl⟩ := List.mem_map.1 hb
  exact .inl ⟨rfl, rfl⟩

theorem not_before_self (id : PluginIdentifier) : ¬ id.Before id := by
  rintro (⟨haction, hsnapshotter⟩ | ⟨-, hlt⟩)
  · rw [haction] at hsnapshotter
    cases hsnapshotter
  · exact List.lt_irrefl _ hlt

theorem list_nodup (command : String) (r : Registry W) : (r.list command).Nodup := by
  refine List.Pairwise.imp ?_ (list_before command r)
  rintro a _ hbefore rfl
  exact not_before_self a hbefore

/-- A listing shows each registration that succeeded, once. -/
theorem list_after_perm (command : String) (calls : List (String × Plugin W)) :
    ((after calls empty).list command).Perm
      ((accepted calls empty).map fun call => ⟨command, call.2.kind, call.1⟩) := by
  obtain ⟨-, hnodup⟩ := accepted_free calls empty
  have hshown : ((accepted calls empty).map fun call =>
      (⟨command, call.2.kind, call.1⟩ : PluginIdentifier)).Nodup := by
    refine List.pairwise_map.2 ((List.pairwise_map.1 hnodup).imp fun {a b} hne heq => hne ?_)
    exact Prod.ext (congrArg PluginIdentifier.kind heq) (congrArg PluginIdentifier.name heq)
  refine (List.perm_ext_iff_of_nodup (list_nodup command _) hshown).2 fun id => ?_
  rw [mem_list_iff, find?_after_empty, Option.isSome_map, List.find?_isSome, List.mem_map]
  constructor
  · rintro ⟨rfl, call, hcall, hkey⟩
    have hkey := of_decide_eq_true hkey
    refine ⟨call, hcall, ?_⟩
    rw [show call.2.kind = id.kind from congrArg Prod.fst hkey,
      show call.1 = id.name from congrArg Prod.snd hkey]
  · rintro ⟨call, hcall, rfl⟩
    exact ⟨rfl, call, hcall, decide_eq_true rfl⟩

/-- A listing shows what look-ups find. -/
theorem mem_list_iff_lookUp {command : String} {id : PluginIdentifier} :
    id ∈ r.list command ↔
      id.command = command ∧ ∃ plugin, r.lookUp id.kind id.name = .ok plugin := by
  rw [mem_list_iff, lookUp_eq]
  cases r.find? id.kind id.name <;> simp

/-! ### The registry of a host -/

/-- **Registrations.** From an empty registry, a registration succeeds exactly if its name is valid and
none that succeeded had its kind and name, and a refused one leaves no trace; a kind and a name lead
to the one that succeeded with them; a listing shows those that succeeded, once each and in order,
which are those that look-ups find; and different registrations may come in any order. -/
theorem registrations (command : String) (calls : List (String × Plugin W)) :
    (∀ call,
      (((after calls empty).attempt call).1.isOk = true ↔ checkPluginName call.1 = .ok () ∧
        ∀ earlier ∈ accepted calls empty, keyOf earlier ≠ keyOf call) ∧
      (((after calls empty).attempt call).1.isOk = false →
        ((after calls empty).attempt call).2 = after calls empty)) ∧
    after (accepted calls empty) empty = after calls empty ∧
    (∀ kind name, (after calls empty).lookUp kind name =
      ((accepted calls empty).find? fun call => keyOf call = (kind, name)).elim
        (.error (.notFound kind name)) fun call => .ok call.2) ∧
    ((after calls empty).list command).Perm
      ((accepted calls empty).map fun call => ⟨command, call.2.kind, call.1⟩) ∧
    ((after calls empty).list command).Pairwise PluginIdentifier.Before ∧
    (∀ id, id ∈ (after calls empty).list command ↔
      id.command = command ∧ ∃ plugin, (after calls empty).lookUp id.kind id.name = .ok plugin) ∧
    (∀ others : List (String × Plugin W), calls.Perm others → (calls.map keyOf).Nodup →
      (∀ kind name,
        (after others empty).lookUp kind name = (after calls empty).lookUp kind name) ∧
      (after others empty).list command = (after calls empty).list command) := by
  refine ⟨fun call => ⟨?_, fun hfailed => ?_⟩, after_accepted calls empty, fun kind name => ?_,
    list_after_perm command calls, list_before command _, fun id => mem_list_iff_lookUp,
    fun others hperm hdistinct => ?_⟩
  · rw [isOk_attempt_iff, Admits, find?_after_empty, Option.map_eq_none_iff, List.find?_eq_none]
    simp only [decide_eq_true_eq]
    rfl
  · obtain ⟨e, he⟩ := attempt_of_not_admits
      (mt isOk_attempt_iff.2 (Bool.eq_false_iff.1 hfailed))
    rw [he]
  · rw [lookUp_eq, find?_after_empty]
    cases (accepted calls empty).find? fun call => keyOf call = (kind, name) <;> rfl
  · rw [after_perm hperm hdistinct]
    exact ⟨fun _ _ => rfl, rfl⟩

/-- An action, a snapshotter of the same name and a second action of that name: the third is refused,
and the first two may change places. -/
theorem registrations_of_shared_name :
    let action : Plugin Unit := .action (.ofRule {} fun _ => .ok .unchanged)
    let other : Plugin Unit := .action (.ofRule {} fun _ => .ok .skip)
    let snapshotter : Plugin Unit := .snapshotter
      { init := fun _ => Call.pure (.ok ()), createVolume := fun _ => Call.pure (.ok ""),
        volumeInfo := fun _ _ => Call.pure (.ok ⟨"", none⟩),
        createSnapshot := fun _ => Call.pure (.ok ""), deleteSnapshot := fun _ => Call.pure (.ok ()),
        volumeId := fun _ => Call.pure (.ok ""), setVolumeId := fun pv _ => Call.pure (.ok pv) }
    let calls := [("example.com/a", action), ("example.com/a", snapshotter)]
    checkPluginName "example.com/a" = .ok () ∧
      (((after calls empty).attempt ("example.com/a", other)).2 = after calls empty) ∧
      (after calls.reverse empty).lookUp .restoreItemAction "example.com/a" =
        (after calls empty).lookUp .restoreItemAction "example.com/a" := by
  intro action other snapshotter calls
  obtain ⟨hattempt, -, -, -, -, -, hperm⟩ := registrations "host" calls
  refine ⟨by decide, (hattempt _).2 ?_, (hperm _ (List.reverse_perm calls).symm ?_).1 _ _⟩
  · decide
  · decide

end Registry

end RestorePlugins
