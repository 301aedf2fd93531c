import RestorePlugins.Proofs.Json.Members

namespace RestorePlugins.Json

/-!
# Written records are read back

What is written for a record is one of the texts it is read from.

* `objectText_encode` — a record is written as an object with its written members.
* `decode_encode` — writing and reading is the identity on records with distinct field names.
* `ReadBack`, `readBack` — what holds of each type of records: they are read from what is written
  for them, from their members in any order and among others, and from no object in which a field is
  repeated, missing or of another type.
-/

/-! ### Written records -/

/-- The members of a row as they are written. -/
def writtenMembers : (fields : List (String × FieldKind)) → Row fields → List (String × Bytes)
  | [], () => []
  | field :: more, (value, values) =>
    (field.1, field.2.write value) :: writtenMembers more values

theorem lists_writtenMembers (fields : List (String × FieldKind)) (row : Row fields) :
    Lists fields row (writtenMembers fields row) := by
  induction fields with
  | nil => exact .nil
  | cons field more ih =>
    obtain ⟨value, values⟩ := row
    exact .member (field.2.spells_write value) (ih values)

theorem writeRow_eq_map (fields : List (String × FieldKind)) (row : Row fields) :
    writeRow fields row = (writtenMembers fields row).map writtenMember := by
  induction fields with
  | nil => rfl
  | cons field more ih =>
    obtain ⟨value, values⟩ := row
    rw [writeRow, ih values]
    rfl

theorem valueText_of_lists {fields : List (String × FieldKind)} {row : Row fields}
    {members : List (String × Bytes)} (h : Lists fields row members) :
    ∀ member ∈ members, ValueText member.2 := by
  induction h with
  | nil => exact fun _ h => (List.not_mem_nil h).elim
  | member hspells _ ih => exact List.forall_mem_cons.2 ⟨hspells.valueText, ih⟩
  | leftOut _ _ ih => exact ih

/-- An object as it is written. -/
def writtenObject (members : List (String × Bytes)) : Bytes :=
  0x7b :: (commaList (members.map writtenMember) ++ [0x7d])

theorem objectText_written {members : List (String × Bytes)}
    (hall : ∀ member ∈ members, ValueText member.2) :
    ObjectText members (writtenObject members) := by
  rw [writtenObject, commaList_eq_joined]
  exact .mk blanks_nil blanks_nil (holdsMembers_joined true members) hall

/-- A record is written as an object with its written members. -/
theorem objectText_encode {α : Type} [Record α] (a : α) :
    ObjectText (writtenMembers (Record.layout α).fields (Record.row a)) (encode a) := by
  have hwritten : encode a =
      writtenObject (writtenMembers (Record.layout α).fields (Record.row a)) := by
    rw [encode, Layout.write, writeRow_eq_map]
    rfl
  rw [hwritten]
  exact objectText_written (valueText_of_lists (lists_writtenMembers _ _))

/-- **Round trip.** A record whose fields have different names is what its text spells. -/
theorem decode_encode {α : Type} [Record α]
    (hdistinct : ((Record.layout α).fields.map Prod.fst).Nodup) (a : α) :
    decode α (encode a) = .ok a :=
  have hfilled := (lists_writtenMembers (Record.layout α).fields (Record.row a)).filledBy hdistinct
  (decode_object_iff hdistinct (objectText_encode a)).2 ⟨Record.row a, hfilled, Record.ofRow_row a⟩

/-! ### Laws of reading -/

/-- Each field of a filled row has its value from its texts. -/
theorem FilledBy.takenFrom {members : List (String × Bytes)} {fields : List (String × FieldKind)}
    {row : Row fields} (h : FilledBy members fields row) {field : String × FieldKind}
    (hfield : field ∈ fields) : ∃ value, field.2.TakenFrom value (textsOf field.1 members) := by
  induction fields with
  | nil => exact absurd hfield List.not_mem_nil
  | cons first more ih =>
    obtain ⟨value, values⟩ := row
    rcases List.mem_cons.1 hfield with rfl | hfield
    · exact ⟨value, h.1⟩
    · exact ih h.2 hfield

theorem FieldKind.TakenFrom.length_le {kind : FieldKind} {value : kind.Value} {texts : List Bytes}
    (h : kind.TakenFrom value texts) : texts.length ≤ 1 := by
  cases h with
  | present => exact Nat.le_refl _
  | absent => exact Nat.zero_le _

/-- Only an integer is taken from no text. -/
theorem FieldKind.TakenFrom.eq_integer {kind : FieldKind} {value : kind.Value}
    (h : kind.TakenFrom value []) : kind = .integer := by
  cases h with
  | absent habsent =>
    cases kind with
    | integer => rfl
    | text => cases habsent
    | texts => cases habsent
    | textMap => cases habsent
    | choice names => cases habsent

/-- What reading makes of the texts of a type of records. -/
structure ReadBack (α : Type) [Record α] : Prop where
  /-- A record is read from what is written for it. -/
  written : ∀ a : α, decode α (encode a) = .ok a
  /-- What is written is an object, whose members list the record. -/
  object : ∀ a : α, ∃ members, ObjectText members (encode a) ∧
    Lists (Record.layout α).fields (Record.row a) members
  /-- A record is read from the members that it is listed with, in any order and among others. -/
  listed : ∀ (a : α) {members listed : List (String × Bytes)} {bytes : Bytes},
    ObjectText members bytes → Lists (Record.layout α).fields (Record.row a) listed →
    (knownMembers (Record.layout α).fields members).Perm listed → decode α bytes = .ok a
  /-- No record is read where a field is repeated. -/
  repeated : ∀ {members : List (String × Bytes)} {bytes : Bytes} {field : String × FieldKind},
    ObjectText members bytes → field ∈ (Record.layout α).fields →
    2 ≤ (members.map Prod.fst).count field.1 → ∃ e, decode α bytes = .error e
  /-- No record is read where a field other than an integer is missing. -/
  missing : ∀ {members : List (String × Bytes)} {bytes : Bytes} {field : String × FieldKind},
    ObjectText members bytes → field ∈ (Record.layout α).fields → field.2 ≠ .integer →
    field.1 ∉ members.map Prod.fst → ∃ e, decode α bytes = .error e
  /-- No record is read where a field has a text that spells none of its values. -/
  illTyped : ∀ {members : List (String × Bytes)} {bytes text : Bytes}
    {field : String × FieldKind}, ObjectText members bytes → field ∈ (Record.layout α).fields →
    (field.1, text) ∈ members → (∀ value, ¬ field.2.Spells value text) →
    ∃ e, decode α bytes = .error e

theorem length_textsOf (key : String) (members : List (String × Bytes)) :
    (textsOf key members).length = (members.map Prod.fst).count key := by
  rw [textsOf, List.length_map, List.count, List.countP_map, List.countP_eq_length_filter]
  congr 1

/-- Where no row is filled no record is read. -/
theorem exists_error_of_not_filledBy {α : Type} [Record α]
    (hdistinct : ((Record.layout α).fields.map Prod.fst).Nodup)
    {members : List (String × Bytes)} {bytes : Bytes} (h : ObjectText members bytes)
    (hnone : ∀ row, ¬ FilledBy members (Record.layout α).fields row) :
    ∃ e, decode α bytes = .error e := by
  cases hanswer : decode α bytes with
  | error e => exact ⟨e, rfl⟩
  | ok a =>
    obtain ⟨row, hfilled, -⟩ := (decode_object_iff hdistinct h).1 hanswer
    exact absurd hfilled (hnone row)

/-- **Laws.** They hold of all records whose fields have different names. -/
theorem readBack {α : Type} [Record α]
    (hdistinct : ((Record.layout α).fields.map Prod.fst).Nodup) : ReadBack α where
  written a := decode_encode hdistinct a
  object a := ⟨_, objectText_encode a, lists_writtenMembers _ _⟩
  listed a members listed bytes h hlists hperm := by
    refine (decode_object_iff hdistinct h).2 ⟨Record.row a, ?_, Record.ofRow_row a⟩
    exact hlists.filledBy_of_perm hdistinct hperm
  repeated {members bytes field} h hfield hcount := by
    refine exists_error_of_not_filledBy hdistinct h fun row hfilled => ?_
    obtain ⟨value, htaken⟩ := hfilled.takenFrom hfield
    have hlength := htaken.length_le
    rw [length_textsOf] at hlength
    omega
  missing {members bytes field} h hfield hkind hmissing := by
    refine exists_error_of_not_filledBy hdistinct h fun row hfilled => ?_
    obtain ⟨value, htaken⟩ := hfilled.takenFrom hfield
    have hnone : textsOf field.1 members = [] := textsOf_eq_nil_iff.2 fun member hmember heq =>
      hmissing (heq ▸ List.mem_map_of_mem hmember)
    rw [hnone] at htaken
    exact hkind htaken.eq_integer
  illTyped h hfield hmember hnone := by
    refine exists_error_of_not_filledBy hdistinct h fun row hfilled => ?_
    obtain ⟨value, htaken⟩ := hfilled.takenFrom hfield
    obtain ⟨front, back, rfl⟩ := List.append_of_mem hmember
    rw [textsOf_append, textsOf_cons_self] at htaken
    exact hnone value htaken.spells.2.2

end RestorePlugins.Json
