import RestorePlugins.Proofs.CommandLine.Assignments

namespace RestorePlugins.CommandLine

/-!
# The fields of a command

* `Field`, `assignmentsOf` — the arguments of a command with the texts spelled for them, and the
  words that give them.
* `Arranged` — words before and behind a command that give it its fields in any order.
* `holds_field` — **what was given holds every field** if no text is left out but an empty one.
* `Program.OffersFields.read_of_missing` — a command is refused if a required field is left out.
* `Program.OffersFields.read_of_complete` — otherwise it is built of what was given.
-/

variable {α : Type}

/-! ### Arrangements -/

/-- An argument of a command with the text that is spelled for it, if there is one. -/
abbrev Field := Argument × Option String

/-- The words that the fields with a text are given by. -/
def assignmentsOf (fields : List Field) : List Assignment :=
  fields.filterMap fun field => field.2.map (⟨field.1, ·⟩)

/-- An empty text, which stands for a text that is not given at all. -/
def Assignment.IsDefault (a : Assignment) : Prop :=
  a.argument.kind = .text ∧ a.argument.required = false ∧ a.text = ""

/-- What was given holds the text of a field, or nothing instead of an empty text. -/
def Given.Holds (given : Given) (field : Field) : Prop :=
  given.values? field.1.name = field.2.map (fun text => Assignment.values ⟨field.1, text⟩) ∨
    ∃ text, field.2 = some text ∧ Assignment.IsDefault ⟨field.1, text⟩ ∧
      given.values? field.1.name = none

/-- The words before and behind a command give it what it is to be given, in any order, except
for some words that are left out.  Only what all commands take stands before the command. -/
structure Arranged (own shared before after left : List Assignment) : Prop where
  perm : (before ++ after ++ left).Perm (own ++ shared)
  before_shared : ∀ a ∈ before, a ∈ shared
  left_own : ∀ a ∈ left, a ∈ own

theorem mem_assignmentsOf {fields : List Field} {a : Assignment} :
    a ∈ assignmentsOf fields ↔ (a.argument, some a.text) ∈ fields := by
  rw [assignmentsOf, List.mem_filterMap]
  constructor
  · rintro ⟨⟨argument, text⟩, hmem, htext⟩
    obtain ⟨s, rfl, rfl⟩ := Option.map_eq_some_iff.1 htext
    exact hmem
  · intro hmem
    exact ⟨_, hmem, rfl⟩

theorem argument_mem_of_mem {fields : List Field} {a : Assignment} (h : a ∈ assignmentsOf fields) :
    a.argument ∈ fields.map Prod.fst :=
  List.mem_map_of_mem (f := Prod.fst) (mem_assignmentsOf.1 h)

theorem assignmentsOf_append (fields others : List Field) :
    assignmentsOf (fields ++ others) = assignmentsOf fields ++ assignmentsOf others :=
  List.filterMap_append

theorem assignmentsOf_names (fields : List Field) :
    ((assignmentsOf fields).map Assignment.name).Sublist (fields.map (·.1.name)) := by
  induction fields with
  | nil => exact List.Sublist.refl _
  | cons field fields ih =>
    obtain ⟨argument, text⟩ := field
    cases text with
    | none => exact ih.cons _
    | some text => exact ih.cons_cons _

theorem values?_row {row : List Assignment} (hnodup : (row.map Assignment.name).Nodup)
    {a : Assignment} (h : a ∈ row) :
    Given.values? (row.map Assignment.given) a.name = some a.values := by
  induction row with
  | nil => exact absurd h List.not_mem_nil
  | cons b row ih =>
    obtain ⟨hnew, hrest⟩ := List.nodup_cons.1 hnodup
    show ((b.name, b.values) :: row.map Assignment.given).lookup a.name = _
    rcases List.mem_cons.1 h with rfl | hmem
    · exact List.lookup_cons_self
    · have hne : (a.name == b.name) = false := by
        refine beq_false_of_ne fun heq => hnew ?_
        rw [← heq]
        exact List.mem_map_of_mem hmem
      rw [List.lookup_cons, hne]
      exact ih hrest hmem

theorem values?_row_eq_none {row : List Assignment} {name : String}
    (h : ∀ a ∈ row, a.name ≠ name) : Given.values? (row.map Assignment.given) name = none := by
  refine List.lookup_eq_none_iff.2 ?_
  intro entry hmem
  obtain ⟨a, ha, rfl⟩ := List.mem_map.1 hmem
  exact bne_iff_ne.2 (h a ha).symm

namespace Arranged

variable {own shared before after left : List Assignment}

theorem mem_row (h : Arranged own shared before after left) {a : Assignment}
    (hmem : a ∈ after ++ before) : a ∈ own ++ shared := by
  refine h.perm.subset (List.mem_append_left left ?_)
  exact List.perm_append_comm.subset hmem

/-- What is not left out is given. -/
theorem mem_or_left (h : Arranged own shared before after left) {a : Assignment}
    (hmem : a ∈ own ++ shared) : a ∈ after ++ before ∨ a ∈ left := by
  rcases List.mem_append.1 (h.perm.symm.subset hmem) with hrow | hleft
  · exact .inl (List.perm_append_comm.subset hrow)
  · exact .inr hleft

variable (hnodup : ((own ++ shared).map Assignment.name).Nodup)

include hnodup in
theorem names_nodup (h : Arranged own shared before after left) :
    ((after ++ before).map Assignment.name ++ left.map Assignment.name).Nodup := by
  have hperm : (after ++ before ++ left).Perm (own ++ shared) :=
    (List.perm_append_comm.append_right left).trans h.perm
  rw [← List.map_append]
  exact (hperm.map Assignment.name).nodup_iff.2 hnodup

include hnodup in
theorem row_nodup (h : Arranged own shared before after left) :
    ((after ++ before).map Assignment.name).Nodup :=
  (List.nodup_append.1 (h.names_nodup hnodup)).1

include hnodup in
theorem after_nodup (h : Arranged own shared before after left) :
    (after.map Assignment.name).Nodup := by
  have hrow := h.row_nodup hnodup
  rw [List.map_append] at hrow
  exact (List.nodup_append.1 hrow).1

include hnodup in
/-- What is left out is not given by another word. -/
theorem name_ne (h : Arranged own shared before after left) {a b : Assignment}
    (ha : a ∈ left) (hb : b ∈ after ++ before) : b.name ≠ a.name := by
  obtain ⟨-, -, hapart⟩ := List.nodup_append.1 (h.names_nodup hnodup)
  exact hapart _ (List.mem_map_of_mem hb) _ (List.mem_map_of_mem ha)

end Arranged

/-! ### What is given -/

section Fields

variable {own shared : List Field} {before after left : List Assignment}
variable (hnodup : ((own ++ shared).map (·.1.name)).Nodup)
variable (h : Arranged (assignmentsOf own) (assignmentsOf shared) before after left)

include hnodup in
theorem field_eq {field other : Field} (hfield : field ∈ own ++ shared)
    (hother : other ∈ own ++ shared) (hname : field.1.name = other.1.name) : field = other :=
  List.inj_on_of_nodup_map hnodup hfield hother hname

include hnodup in
theorem assignmentsOf_nodup :
    ((assignmentsOf own ++ assignmentsOf shared).map Assignment.name).Nodup := by
  rw [← assignmentsOf_append]
  exact hnodup.sublist (assignmentsOf_names _)

include hnodup h in
/-- A field of which nothing is left out is given as it is. -/
theorem values?_field {field : Field} (hmem : field ∈ own ++ shared)
    (hkept : ∀ a ∈ left, a.name ≠ field.1.name) :
    Given.values? ((after ++ before).map Assignment.given) field.1.name =
      field.2.map fun text => Assignment.values ⟨field.1, text⟩ := by
  obtain ⟨argument, text⟩ := field
  cases text with
  | none =>
    -- A word with the name of the field would come from the field, which has no text.
    refine values?_row_eq_none fun b hb hname => ?_
    have hother : (b.argument, some b.text) ∈ own ++ shared := by
      have hrow := h.mem_row hb
      rw [← assignmentsOf_append] at hrow
      exact mem_assignmentsOf.1 hrow
    cases field_eq hnodup hother hmem hname
  | some text =>
    have hown : (⟨argument, text⟩ : Assignment) ∈ assignmentsOf own ++ assignmentsOf shared := by
      rw [← assignmentsOf_append]
      exact mem_assignmentsOf.2 hmem
    rcases h.mem_or_left hown with hrow | hleft
    · exact values?_row (h.row_nodup (assignmentsOf_nodup hnodup)) hrow
    · exact absurd rfl (hkept _ hleft)

include hnodup h in
/-- **All fields are held** by what is given if only empty texts are left out. -/
theorem holds_field (hdefault : ∀ a ∈ left, a.IsDefault) {field : Field}
    (hmem : field ∈ own ++ shared) :
    Given.Holds ((after ++ before).map Assignment.given) field := by
  by_cases hleft : ∃ a ∈ left, a.name = field.1.name
  · -- What is left out is the text of this very field, for no other has its name.
    obtain ⟨a, ha, hname⟩ := hleft
    have hown := mem_assignmentsOf.1 (h.left_own a ha)
    have hfield := field_eq hnodup (List.mem_append_left shared hown) hmem hname
    refine .inr ⟨a.text, ?_, ?_, ?_⟩
    · rw [← hfield]
    · rw [← hfield]
      exact hdefault a ha
    · rw [← hname]
      exact values?_row_eq_none fun b hb => h.name_ne (assignmentsOf_nodup hnodup) ha hb
  · refine .inl (values?_field hnodup h hmem ?_)
    intro a ha hname
    exact hleft ⟨a, ha, hname⟩

include hnodup h in
/-- The fields that all commands take are never left out. -/
theorem values?_shared {field : Field} (hmem : field ∈ shared) :
    Given.values? ((after ++ before).map Assignment.given) field.1.name =
      field.2.map fun text => Assignment.values ⟨field.1, text⟩ := by
  refine values?_field hnodup h (List.mem_append_right own hmem) ?_
  intro a ha hname
  -- Left out are only words of the command, whose names are not those of what all commands take.
  have hown := mem_assignmentsOf.1 (h.left_own a ha)
  have happart := hnodup
  rw [List.map_append] at happart
  obtain ⟨-, -, hne⟩ := List.nodup_append.1 happart
  exact hne _ (List.mem_map_of_mem hown) _ (List.mem_map_of_mem hmem) hname

end Fields

/-! ### Commands and their fields -/

section Commands

variable {p : Program α} {group word : String} {build : Given → Option α}
variable {own shared : List Field} {before after left : List Assignment}

/-- A program offers a command with some fields, and there are fields for what all its commands
take.  Only a command of its own may require an argument. -/
structure Program.OffersFields (p : Program α) (group word : String) (own shared : List Field)
    (build : Given → Option α) : Prop where
  offers : p.Offers group word (own.map Prod.fst) build
  shared_eq : shared.map Prod.fst = p.shared
  shared_free : ∀ argument ∈ p.shared, argument.required = false
  readable : ∀ a ∈ assignmentsOf (own ++ shared), a.Readable

namespace Program.OffersFields

variable (h : p.OffersFields group word own shared build)
variable (harranged : Arranged (assignmentsOf own) (assignmentsOf shared) before after left)

include h in
theorem nodup : ((own ++ shared).map (·.1.name)).Nodup := by
  have hnodup := h.offers.byName.nodup
  rw [← h.shared_eq, ← List.map_append, List.map_map] at hnodup
  exact hnodup

include h in
theorem argument_of_mem {a : Assignment} (hmem : a ∈ assignmentsOf own ++ assignmentsOf shared) :
    a.argument ∈ own.map Prod.fst ++ p.shared ∧ a.Readable := by
  rw [← assignmentsOf_append] at hmem
  refine ⟨?_, h.readable a hmem⟩
  rw [← h.shared_eq, ← List.map_append]
  exact argument_mem_of_mem hmem

include h harranged in
theorem before_free {a : Assignment} (hmem : a ∈ before) :
    a.argument ∈ p.shared ∧ a.argument.required = false := by
  have hargument := argument_mem_of_mem (harranged.before_shared a hmem)
  rw [h.shared_eq] at hargument
  exact ⟨hargument, h.shared_free _ hargument⟩

include h harranged in
/-- What comes of a command that is given its fields in some arrangement. -/
theorem read_eq :
    p.read (before.map Assignment.word ++ group :: word :: after.map Assignment.word) =
      if (p.level (.leaf (own.map Prod.fst) build) (after.map Assignment.given)).lacks then
        .error .missingArgument
      else match build ((after ++ before).map Assignment.given) with
        | some a => .ok ((after ++ before).map Assignment.given, a)
        | none => .error .missingArgument := by
  refine h.offers.read_words ?_ ?_ (harranged.row_nodup (assignmentsOf_nodup h.nodup))
  · intro a hmem
    have hshared := List.mem_append_right (assignmentsOf own) (harranged.before_shared a hmem)
    exact ⟨(h.before_free harranged hmem).1, (h.argument_of_mem hshared).2⟩
  · intro a hmem
    exact h.argument_of_mem (harranged.mem_row (List.mem_append_left before hmem))

include h harranged in
/-- **A command without a required argument** is refused. -/
theorem read_of_missing (hmissing : ∃ a ∈ left, a.argument.required = true) :
    p.read (before.map Assignment.word ++ group :: word :: after.map Assignment.word) =
      .error .missingArgument := by
  obtain ⟨a, hmem, hrequired⟩ := hmissing
  have hlacks : (p.level (.leaf (own.map Prod.fst) build) (after.map Assignment.given)).lacks =
      true := by
    refine Level.lacks_eq_true_iff.2 ⟨a.argument, ?_, hrequired, ?_⟩
    · exact (h.argument_of_mem (List.mem_append_left _ (harranged.left_own a hmem))).1
    · refine values?_row_eq_none fun b hb => ?_
      exact harranged.name_ne (assignmentsOf_nodup h.nodup) hmem (List.mem_append_left before hb)
  rw [h.read_eq harranged, hlacks]
  rfl

include h harranged in
/-- A required argument is given behind the command. -/
theorem required_given (hdefault : ∀ a ∈ left, a.IsDefault) {field : Field} (hfield : field ∈ own)
    (hneeded : field.1.required = true) (hsome : field.2.isSome) :
    Given.values? (after.map Assignment.given) field.1.name ≠ none := by
  obtain ⟨text, htext⟩ := Option.isSome_iff_exists.1 hsome
  let a : Assignment := ⟨field.1, text⟩
  have hown : a ∈ assignmentsOf own := by
    refine mem_assignmentsOf.2 ?_
    show (field.1, some text) ∈ own
    rw [← htext]
    exact hfield
  -- It is neither one of the arguments before the command nor left out: those are not required.
  have hnot : a.argument.required ≠ false := by
    rw [hneeded]
    decide
  rcases harranged.mem_or_left (List.mem_append_left _ hown) with hrow | hleft
  · rcases List.mem_append.1 hrow with hafter | hbefore
    · show Given.values? (after.map Assignment.given) a.name ≠ none
      rw [values?_row (harranged.after_nodup (assignmentsOf_nodup h.nodup)) hafter]
      exact Option.some_ne_none _
    · exact absurd (h.before_free harranged hbefore).2 hnot
  · exact absurd (hdefault a hleft).2.1 hnot

include h harranged in
/-- **A command with all its required arguments** is built of what is given. -/
theorem read_of_complete (hrequired : ∀ field ∈ own, field.1.required = true → field.2.isSome)
    (hdefault : ∀ a ∈ left, a.IsDefault) {command : α}
    (hbuild : build ((after ++ before).map Assignment.given) = some command) :
    p.read (before.map Assignment.word ++ group :: word :: after.map Assignment.word) =
      .ok ((after ++ before).map Assignment.given, command) := by
  have hlacks : (p.level (.leaf (own.map Prod.fst) build) (after.map Assignment.given)).lacks =
      false := by
    refine Bool.eq_false_iff.2 fun hlacks => ?_
    obtain ⟨argument, hmem, hneeded, hnone⟩ := Level.lacks_eq_true_iff.1 hlacks
    rcases List.mem_append.1 hmem with hown | hshared
    · obtain ⟨field, hfield, rfl⟩ := List.mem_map.1 hown
      exact h.required_given harranged hdefault hfield hneeded (hrequired field hfield hneeded)
        hnone
    · exact absurd (hneeded.symm.trans (h.shared_free argument hshared)) (by decide)
  rw [h.read_eq harranged, hlacks, hbuild]
  rfl

end Program.OffersFields

end Commands

end RestorePlugins.CommandLine
