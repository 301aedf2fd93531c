import RestorePlugins.Proofs.Json.RecordTexts

namespace RestorePlugins.Json

/-!
# What a record is read from

The text of an object has one list of members, and they settle which record it is read as.

* `ObjectText` — the texts of an object with given members.
* `decode_object_iff` — an object is read as the record whose row its members fill.
* `Lists` — the members that a record is listed with, one for each field that is not left out.
-/

/-! ### An object has its members -/

/-- The texts of an object with members, between blanks. -/
inductive ObjectText (members : List (String × Bytes)) : Bytes → Prop
  | mk {front body back : Bytes} (hfront : Blanks front) (hback : Blanks back)
      (h : HoldsMembers SpellsText true members body)
      (hall : ∀ member ∈ members, ValueText member.2) :
      ObjectText members (front ++ 0x7b :: (body ++ 0x7d :: back))

/-- Values with something behind them are the same where the bytes are, whatever blanks stand before
them. -/
theorem ValueText.unique_blanks {text other rest back : Bytes} (h : ValueText text)
    (hother : ValueText other) (hends : EndsNumber rest) (hback : EndsNumber back)
    {front before : Bytes} (hfront : Blanks front) (hbefore : Blanks before)
    (heq : front ++ (text ++ rest) = before ++ (other ++ back)) : text = other ∧ rest = back := by
  obtain ⟨b, tail, rfl, hb, -⟩ := h.begins
  obtain ⟨c, last, rfl, hc, -⟩ := hother.begins
  have hskip := congrArg skipBlanks heq
  rw [skipBlanks_append hfront, skipBlanks_append hbefore, List.cons_append, List.cons_append,
    skipBlanks_cons hb, skipBlanks_cons hc] at hskip
  exact h.unique hother hends hback hskip

/-- **Where members stand.** Bytes hold at most one list of members. -/
theorem HoldsMembers.unique {first : Bool} {members others : List (String × Bytes)}
    {body other : Bytes} (h : HoldsMembers SpellsText first members body)
    (hother : HoldsMembers SpellsText first others other)
    (hall : ∀ member ∈ members, ValueText member.2) (hothers : ∀ member ∈ others, ValueText member.2)
    {rest back : Bytes} (heq : body ++ 0x7d :: rest = other ++ 0x7d :: back) :
    members = others := by
  induction members generalizing first others body other with
  | nil =>
    cases h with
    | nil hblanks =>
      have hend := nextKey_blanks hblanks first rest
      cases hother with
      | nil => rfl
      | cons hsep =>
        rw [heq, List.append_assoc, List.cons_append, nextKey_of_separates hsep] at hend
        cases hend
  | cons member members ih =>
    obtain ⟨htext, htexts⟩ := List.forall_mem_cons.1 hall
    cases h with
    | @cons _ key text _ sep name mid front body hsep hkey hmid hfront hrest =>
      simp only [List.append_assoc, List.cons_append] at heq
      have hnext := nextKey_of_separates hsep
        (name ++ 0x22 :: (mid ++ 0x3a :: (front ++ (text ++ (body ++ 0x7d :: rest)))))
      cases hother with
      | nil hblanks =>
        rw [heq, nextKey_blanks hblanks] at hnext
        cases hnext
      | @cons _ key' text' _ sep' name' mid' front' body' hsep' hkey' hmid' hfront' hrest' =>
        obtain ⟨htext', htexts'⟩ := List.forall_mem_cons.1 hothers
        -- Each part of the member is what the reader of that part finds.
        simp only [List.append_assoc, List.cons_append] at heq
        rw [heq, nextKey_of_separates hsep'] at hnext
        have hname := readText_of_spells hkey
          (mid ++ 0x3a :: (front ++ (text ++ (body ++ 0x7d :: rest))))
        rw [← (Prod.mk.inj (Except.ok.inj hnext)).2, readText_of_spells hkey'] at hname
        obtain ⟨rfl, hbehind⟩ := Prod.mk.inj (Except.ok.inj hname)
        have hcolon := readColon_append hmid (front ++ (text ++ (body ++ 0x7d :: rest)))
        rw [← hbehind, readColon_append hmid'] at hcolon
        obtain ⟨rfl, hlast⟩ := ValueText.unique_blanks htext' htext (hrest'.endsNumber back)
          (hrest.endsNumber rest) hfront' hfront (Except.ok.inj hcolon)
        rw [ih hrest hrest' htexts htexts' hlast.symm]

/-- **Objects.** The text of an object is read as the record whose row its members fill. -/
theorem decode_object_iff {α : Type} [Record α]
    (hdistinct : ((Record.layout α).fields.map Prod.fst).Nodup)
    {members : List (String × Bytes)} {bytes : Bytes} (h : ObjectText members bytes) {a : α} :
    decode α bytes = .ok a ↔
      ∃ row, FilledBy members (Record.layout α).fields row ∧ Record.ofRow row = a := by
  rw [decode_eq_ok_iff hdistinct]
  cases h with
  | @mk front body back hfront hback h hall =>
    constructor
    · rintro ⟨row, before, text, last, hbefore, htext, -, hrow, heq⟩
      have hskip := congrArg skipBlanks heq
      rw [skipBlanks_append hfront, skipBlanks_append hbefore, skipBlanks_cons (by decide)] at hskip
      cases htext with
      | object hmembers hothers hfilled =>
        rw [List.cons_append, skipBlanks_cons (by decide), List.append_assoc] at hskip
        have hsame := h.unique hmembers hall hothers (List.cons.inj hskip).2
        exact ⟨row, hsame ▸ hfilled, hrow⟩
      | array =>
        rw [List.cons_append, skipBlanks_cons (by decide)] at hskip
        cases hskip
    · rintro ⟨row, hfilled, hrow⟩
      exact ⟨row, front, 0x7b :: (body ++ [0x7d]), back, hfront, .object h hall hfilled, hback, hrow,
        by simp⟩

/-! ### Listed records -/

/-- The members that a row is listed with: in declared order each field with a text of its value,
where a field may be left out if its value is what leaving it out means. -/
inductive Lists : (fields : List (String × FieldKind)) → Row fields → List (String × Bytes) → Prop
  | nil : Lists [] () []
  | member {field : String × FieldKind} {more : List (String × FieldKind)} {value : field.2.Value}
      {values : Row more} {text : Bytes} {members : List (String × Bytes)}
      (h : field.2.Spells value text) (hmore : Lists more values members) :
      Lists (field :: more) (value, values) ((field.1, text) :: members)
  | leftOut {field : String × FieldKind} {more : List (String × FieldKind)} {value : field.2.Value}
      {values : Row more} {members : List (String × Bytes)} (h : field.2.absent? = some value)
      (hmore : Lists more values members) : Lists (field :: more) (value, values) members

theorem Lists.key_mem {fields : List (String × FieldKind)} {row : Row fields}
    {members : List (String × Bytes)} (h : Lists fields row members) {member : String × Bytes}
    (hmember : member ∈ members) : member.1 ∈ fields.map Prod.fst := by
  induction h with
  | nil => exact absurd hmember List.not_mem_nil
  | member _ _ ih =>
    rcases List.mem_cons.1 hmember with rfl | hmember
    · exact List.mem_cons_self
    · exact List.mem_cons_of_mem _ (ih hmember)
  | leftOut _ _ ih => exact List.mem_cons_of_mem _ (ih hmember)

theorem textsOf_eq_nil_iff {key : String} {members : List (String × Bytes)} :
    textsOf key members = [] ↔ ∀ member ∈ members, member.1 ≠ key := by
  simp [textsOf]

/-- The same texts of each field, in any order, fill the same rows: a field has at most one. -/
theorem FilledBy.of_perm {members others : List (String × Bytes)}
    {fields : List (String × FieldKind)} {row : Row fields} (h : FilledBy members fields row)
    (hperm : ∀ field ∈ fields, (textsOf field.1 others).Perm (textsOf field.1 members)) :
    FilledBy others fields row := by
  induction fields with
  | nil => trivial
  | cons field more ih =>
    obtain ⟨value, values⟩ := row
    obtain ⟨hfield, hmore⟩ := List.forall_mem_cons.1 hperm
    refine ⟨?_, ih h.2 hmore⟩
    have htaken := h.1
    generalize textsOf field.1 members = texts at htaken hfield
    cases htaken with
    | present hspells =>
      rw [List.perm_singleton.1 hfield]
      exact .present hspells
    | absent habsent =>
      rw [List.perm_nil.1 hfield]
      exact .absent habsent

/-- A row is filled by the members that it is listed with. -/
theorem Lists.filledBy {fields : List (String × FieldKind)}
    (hdistinct : (fields.map Prod.fst).Nodup) {row : Row fields} {members : List (String × Bytes)}
    (h : Lists fields row members) : FilledBy members fields row := by
  induction h with
  | nil => trivial
  | @member field more value values text members hspells hmore ih =>
    rw [List.map_cons, List.nodup_cons] at hdistinct
    have hnone : textsOf field.1 members = [] :=
      textsOf_eq_nil_iff.2 fun member hmember heq => hdistinct.1 (heq ▸ hmore.key_mem hmember)
    refine ⟨?_, (ih hdistinct.2).of_perm fun other hother => ?_⟩
    · rw [textsOf_cons_self, hnone]
      exact .present hspells
    · have hne : field.1 ≠ other.1 := fun heq =>
        hdistinct.1 (heq ▸ List.mem_map_of_mem hother)
      rw [textsOf_cons_of_ne hne]
  | @leftOut field more value values members habsent hmore ih =>
    rw [List.map_cons, List.nodup_cons] at hdistinct
    have hnone : textsOf field.1 members = [] :=
      textsOf_eq_nil_iff.2 fun member hmember heq => hdistinct.1 (heq ▸ hmore.key_mem hmember)
    exact ⟨by rw [hnone]; exact .absent habsent, ih hdistinct.2⟩

/-- The members whose keys are fields. -/
def knownMembers (fields : List (String × FieldKind)) (members : List (String × Bytes)) :
    List (String × Bytes) :=
  members.filter fun member => member.1 ∈ fields.map Prod.fst

theorem textsOf_knownMembers {fields : List (String × FieldKind)} {key : String}
    (hkey : key ∈ fields.map Prod.fst) (members : List (String × Bytes)) :
    textsOf key (knownMembers fields members) = textsOf key members := by
  rw [textsOf, textsOf, knownMembers, List.filter_filter]
  congr 1
  refine List.filter_congr fun member _ => ?_
  by_cases hmember : member.1 = key
  · rw [hmember]
    simpa using hkey
  · simp [hmember]

/-- **Order and others.** Members fill a row if those that it is listed with are among them, in any
order, and no others have keys of fields. -/
theorem Lists.filledBy_of_perm {fields : List (String × FieldKind)}
    (hdistinct : (fields.map Prod.fst).Nodup) {row : Row fields}
    {listed members : List (String × Bytes)} (h : Lists fields row listed)
    (hperm : (knownMembers fields members).Perm listed) : FilledBy members fields row := by
  refine (h.filledBy hdistinct).of_perm fun field hfield => ?_
  rw [← textsOf_knownMembers (List.mem_map_of_mem hfield) members]
  exact (hperm.filter _).map _

end RestorePlugins.Json
