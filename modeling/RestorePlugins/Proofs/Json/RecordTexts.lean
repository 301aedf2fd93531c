import RestorePlugins.Proofs.Json.Fields

namespace RestorePlugins.Json

/-!
# Which texts are records

A record is read from an object that has each of its fields once, or lacks a field that may be
absent, in any order and among any other members; or from an array of its fields in declared order.

* `FilledBy`, `ListedBy` — what the members of an object and the items of an array make of a row.
* `SpellsRow`, `SpellsRecord` — the texts of a row and, with blanks around them, of a record.
* `Layout.reads`, `decode_eq_ok_iff` — records are read from just these texts.
-/

/-! ### Rows and members -/

/-- The texts of the members with a key. -/
def textsOf (key : String) (members : List (String × Bytes)) : List Bytes :=
  (members.filter fun member => member.1 = key).map Prod.snd

theorem textsOf_append (key : String) (members others : List (String × Bytes)) :
    textsOf key (members ++ others) = textsOf key members ++ textsOf key others := by
  rw [textsOf, List.filter_append, List.map_append]
  rfl

theorem textsOf_cons_self (key : String) (text : Bytes) (members : List (String × Bytes)) :
    textsOf key ((key, text) :: members) = text :: textsOf key members := by
  simp [textsOf]

theorem textsOf_cons_of_ne {key other : String} (h : key ≠ other) (text : Bytes)
    (members : List (String × Bytes)) :
    textsOf other ((key, text) :: members) = textsOf other members := by
  simp [textsOf, h]

/-- A value is taken from the only text of its field, or, where the field may be absent, from none. -/
inductive FieldKind.TakenFrom (kind : FieldKind) : kind.Value → List Bytes → Prop
  | present {value : kind.Value} {text : Bytes} (h : kind.Spells value text) :
      TakenFrom kind value [text]
  | absent {value : kind.Value} (h : kind.absent? = some value) : TakenFrom kind value []

/-- The members of an object fill a row: each field has its value, whatever else there is. -/
def FilledBy (members : List (String × Bytes)) :
    (fields : List (String × FieldKind)) → Row fields → Prop
  | [], () => True
  | field :: more, (value, values) =>
    field.2.TakenFrom value (textsOf field.1 members) ∧ FilledBy members more values

/-- The items of an array are the values of a row in declared order. -/
def ListedBy : (fields : List (String × FieldKind)) → Row fields → List Bytes → Prop
  | [], (), texts => texts = []
  | field :: more, (value, values), texts =>
    ∃ text others, texts = text :: others ∧ field.2.Spells value text ∧ ListedBy more values others

/-- Bytes spell a row as an object or as an array. -/
inductive SpellsRow (fields : List (String × FieldKind)) (row : Row fields) : Bytes → Prop
  | object {members : List (String × Bytes)} {body : Bytes}
      (h : HoldsMembers SpellsText true members body)
      (hall : ∀ member ∈ members, ValueText member.2) (hfilled : FilledBy members fields row) :
      SpellsRow fields row (0x7b :: (body ++ [0x7d]))
  | array {texts : List Bytes} {body : Bytes} (h : HoldsItems true texts body)
      (hlisted : ListedBy fields row texts) : SpellsRow fields row (0x5b :: (body ++ [0x5d]))

/-! ### Slots -/

/-- A slot keeps what was read from the texts of its field. -/
inductive FieldKind.Keeps (kind : FieldKind) : Option kind.Value → List Bytes → Prop
  | empty : Keeps kind none []
  | filled {value : kind.Value} {text : Bytes} (h : kind.Spells value text) :
      Keeps kind (some value) [text]

/-- The slots keep what was read from members. -/
def SlotsKeep (members : List (String × Bytes)) :
    (fields : List (String × FieldKind)) → Slots fields → Prop
  | [], () => True
  | field :: more, (slot, slots) =>
    field.2.Keeps slot (textsOf field.1 members) ∧ SlotsKeep members more slots

theorem slotsKeep_empty (fields : List (String × FieldKind)) :
    SlotsKeep [] fields (Slots.empty fields) := by
  induction fields with
  | nil => trivial
  | cons field more ih => exact ⟨.empty, ih⟩

theorem FieldKind.Keeps.eq_nil {kind : FieldKind} {texts : List Bytes} (h : kind.Keeps none texts) :
    texts = [] := by
  cases h
  rfl

/-- A value that is taken from texts among which one is known is taken from that one. -/
theorem FieldKind.TakenFrom.spells {kind : FieldKind} {value : kind.Value} {front back : List Bytes}
    {text : Bytes} (h : kind.TakenFrom value (front ++ text :: back)) :
    front = [] ∧ back = [] ∧ kind.Spells value text := by
  generalize htexts : front ++ text :: back = texts at h
  cases h with
  | present h =>
    obtain ⟨hfront, hback⟩ | ⟨-, hback⟩ := List.append_eq_singleton_iff.1 htexts
    · obtain ⟨rfl, hnone⟩ := List.cons.inj hback
      exact ⟨hfront, hnone, h⟩
    · exact absurd hback (List.cons_ne_nil _ _)
  | absent => exact absurd (List.append_eq_nil_iff.1 htexts).2 (List.cons_ne_nil _ _)

/-- A value is taken from the texts of a field just when the slot or its default has it. -/
theorem FieldKind.Keeps.takenFrom_iff {kind : FieldKind} {slot : Option kind.Value}
    {texts : List Bytes} (h : kind.Keeps slot texts) (value : kind.Value) :
    kind.TakenFrom value texts ↔ slot.or kind.absent? = some value := by
  cases h with
  | empty =>
    rw [Option.none_or]
    constructor
    · rintro ⟨h⟩
      assumption
    · exact .absent
  | @filled kept text hkept =>
    rw [Option.some_or]
    constructor
    · intro h
      cases h with
      | present h => rw [hkept.unique h]
    · intro h
      cases h
      exact .present hkept

/-- The slots make just the rows that the members fill. -/
theorem fillRow_iff {members : List (String × Bytes)} {fields : List (String × FieldKind)}
    {slots : Slots fields} (h : SlotsKeep members fields slots) (row : Row fields) :
    fillRow fields slots = .ok row ↔ FilledBy members fields row := by
  induction fields with
  | nil => exact ⟨fun _ => trivial, fun _ => rfl⟩
  | cons field more ih =>
    obtain ⟨slot, slots⟩ := slots
    obtain ⟨value, values⟩ := row
    obtain ⟨hslot, hslots⟩ := h
    have htaken := hslot.takenFrom_iff value
    have hmore := ih hslots values
    show _ ↔ field.2.TakenFrom value (textsOf field.1 members) ∧ FilledBy members more values
    rw [htaken, ← hmore, fillRow]
    cases slot.or field.2.absent? with
    | none =>
      constructor
      · intro h
        cases h
      · rintro ⟨hkept, -⟩
        cases hkept
    | some kept =>
      cases fillRow more slots with
      | error name =>
        constructor
        · intro h
          cases h
        · rintro ⟨-, hothers⟩
          cases hothers
      | ok others =>
        constructor
        · intro h
          obtain ⟨rfl, rfl⟩ := Prod.mk.inj (Except.ok.inj h)
          exact ⟨rfl, rfl⟩
        · rintro ⟨hkept, hothers⟩
          cases hkept
          cases hothers
          rfl

/-- A member with another key changes no slot. -/
theorem SlotsKeep.snoc_other {members : List (String × Bytes)} {fields : List (String × FieldKind)}
    {slots : Slots fields} (h : SlotsKeep members fields slots) {key : String}
    (hkey : key ∉ fields.map Prod.fst) (text : Bytes) :
    SlotsKeep (members ++ [(key, text)]) fields slots := by
  induction fields with
  | nil => trivial
  | cons field more ih =>
    obtain ⟨slot, slots⟩ := slots
    rw [List.map_cons, List.mem_cons, not_or] at hkey
    refine ⟨?_, ih h.2 hkey.2⟩
    rw [textsOf_append, textsOf_cons_of_ne hkey.1]
    simpa [textsOf] using h.1

/-! ### Reading a member -/

section

variable {key : String} {members : List (String × Bytes)}

/-- **A step.** What is read behind a key is the text of a value, and the slots keep it. -/
theorem keep_of_readField {fields : List (String × FieldKind)}
    (hdistinct : (fields.map Prod.fst).Nodup) {slots after : Slots fields}
    (hslots : SlotsKeep members fields slots) {bs rest : Bytes}
    (h : readField key fields slots bs = .ok (after, rest)) :
    ∃ mid front text, Blanks mid ∧ Blanks front ∧ ValueText text ∧
      bs = mid ++ 0x3a :: (front ++ (text ++ rest)) ∧
      SlotsKeep (members ++ [(key, text)]) fields after := by
  induction fields with
  | nil =>
    obtain ⟨afterColon, hcolon, hnext⟩ := exists_of_bind h
    obtain ⟨mid, hmid, rfl⟩ := colon_of_readColon hcolon
    obtain ⟨afterValue, hvalue, hlast⟩ := exists_of_bind hnext
    cases hlast
    obtain ⟨front, text, hfront, htext, rfl⟩ := valueText_of_skipValue _ hvalue
    exact ⟨mid, front, text, hmid, hfront, htext, rfl, trivial⟩
  | cons field more ih =>
    obtain ⟨slot, slots⟩ := slots
    obtain ⟨hslot, hmore⟩ := hslots
    rw [List.map_cons, List.nodup_cons] at hdistinct
    rw [readField] at h
    split at h
    · next hkey =>
      split at h
      · cases h
      · next hempty =>
        subst hkey
        obtain ⟨afterColon, hcolon, hnext⟩ := exists_of_bind h
        obtain ⟨mid, hmid, rfl⟩ := colon_of_readColon hcolon
        obtain ⟨⟨value, afterValue⟩, hvalue, hlast⟩ := exists_of_bind hnext
        cases hlast
        obtain ⟨front, text, hfront, htext, rfl⟩ := field.2.reads.sound hvalue
        refine ⟨mid, front, text, hmid, hfront, htext.valueText, rfl, ?_,
          hmore.snoc_other hdistinct.1 text⟩
        cases slot with
        | some value => exact absurd rfl hempty
        | none =>
          rw [textsOf_append, hslot.eq_nil, textsOf_cons_self]
          exact .filled htext
    · next hkey =>
      obtain ⟨⟨others, afterValue⟩, hothers, hlast⟩ := exists_of_bind h
      cases hlast
      obtain ⟨mid, front, text, hmid, hfront, htext, rfl, hafter⟩ := ih hdistinct.2 hmore hothers
      refine ⟨mid, front, text, hmid, hfront, htext, rfl, ?_, hafter⟩
      rw [textsOf_append, textsOf_cons_of_ne (Ne.symm hkey)]
      simpa [textsOf] using hslot

/-- **A step, the other way.** A member of an object that fills a row is read behind its key, and the
slots keep it. -/
theorem readField_of_filledBy {fields : List (String × FieldKind)}
    (hdistinct : (fields.map Prod.fst).Nodup) {slots : Slots fields}
    (hslots : SlotsKeep members fields slots) {text : Bytes} (htext : ValueText text)
    {back : List (String × Bytes)} {row : Row fields}
    (hfilled : FilledBy (members ++ (key, text) :: back) fields row) {mid front rest : Bytes}
    (hmid : Blanks mid) (hfront : Blanks front) (hends : EndsNumber rest) :
    ∃ after, readField key fields slots (mid ++ 0x3a :: (front ++ (text ++ rest))) =
      .ok (after, rest) ∧ SlotsKeep (members ++ [(key, text)]) fields after := by
  induction fields with
  | nil =>
    have hskip := htext.passedOver (enoughFuel (front ++ (text ++ rest))) hfront
      (by simp only [enoughFuel, List.length_append]; omega) hends
    refine ⟨(), ?_, trivial⟩
    show (readColon _ >>= fun rest => skipValue (enoughFuel rest) rest >>= fun rest =>
      Except.ok ((), rest)) = _
    rw [readColon_append hmid]
    show (skipValue _ _ >>= _) = _
    rw [hskip]
    rfl
  | cons field more ih =>
    obtain ⟨slot, slots⟩ := slots
    obtain ⟨hslot, hmore⟩ := hslots
    obtain ⟨value, values⟩ := row
    obtain ⟨htaken, hfilled⟩ := hfilled
    rw [List.map_cons, List.nodup_cons] at hdistinct
    by_cases hkey : field.1 = key
    · subst hkey
      -- The field has this text and no other, so its slot is still empty.
      rw [textsOf_append, textsOf_cons_self] at htaken
      obtain ⟨hnone, -, hspells⟩ := htaken.spells
      rw [hnone] at hslot
      cases hslot with
      | empty =>
        have hread := field.2.reads.complete hfront hspells hends
        refine ⟨(some value, slots), ?_, ?_, hmore.snoc_other hdistinct.1 text⟩
        · simp [readField, readColon_append hmid, hread, bind, Except.bind]
        · rw [textsOf_append, hnone, textsOf_cons_self]
          exact .filled hspells
    · obtain ⟨after, hread, hafter⟩ := ih hdistinct.2 hmore hfilled
      refine ⟨(slot, after), ?_, ?_, hafter⟩
      · simp [readField, hkey, hread, bind, Except.bind]
      · rw [textsOf_append, textsOf_cons_of_ne (Ne.symm hkey)]
        simpa [textsOf] using hslot

end

/-! ### Reading objects -/

section

variable {fields : List (String × FieldKind)} {first : Bool} {row : Row fields}

/-- **A run.** Members that fill a row are read up to the brace. -/
theorem readRowFields_of_members (hdistinct : (fields.map Prod.fst).Nodup)
    {back : List (String × Bytes)} (hall : ∀ member ∈ back, ValueText member.2) {body : Bytes}
    (h : HoldsMembers SpellsText first back body) (rest : Bytes) :
    ∀ (fuel : Nat) (front : List (String × Bytes)) {slots : Slots fields}, back.length < fuel →
      SlotsKeep front fields slots → FilledBy (front ++ back) fields row →
      readRowFields fields fuel first slots (body ++ 0x7d :: rest) = .ok (row, rest) := by
  induction back generalizing first body with
  | nil =>
    intro fuel front slots hfuel hslots hfilled
    obtain ⟨fuel, rfl⟩ : ∃ n, fuel = n + 1 := ⟨fuel - 1, by omega⟩
    rw [List.append_nil] at hfilled
    have hfill := (fillRow_iff hslots row).2 hfilled
    cases h with
    | nil hblanks => simp [readRowFields, nextKey_blanks hblanks, hfill, bind, Except.bind]
  | cons member back ih =>
    intro fuel front slots hfuel hslots hfilled
    rw [List.length_cons] at hfuel
    obtain ⟨fuel, rfl⟩ : ∃ n, fuel = n + 1 := ⟨fuel - 1, by omega⟩
    obtain ⟨htext, htexts⟩ := List.forall_mem_cons.1 hall
    cases h with
    | cons hsep hkey hmid hfront hrest =>
      obtain ⟨after, hread, hafter⟩ := readField_of_filledBy hdistinct hslots htext hfilled hmid
        hfront (hrest.endsNumber rest)
      rw [List.append_cons] at hfilled
      have hmore := ih htexts hrest fuel _ (by omega) hafter hfilled
      dsimp only at hread
      simp [readRowFields, nextKey_of_separates hsep, readText_of_spells hkey, hread, hmore, bind,
        Except.bind]

/-- **A run, the other way.** What is read up to the brace are members that fill the row. -/
theorem members_of_readRowFields (hdistinct : (fields.map Prod.fst).Nodup) (fuel : Nat)
    {front : List (String × Bytes)} {slots : Slots fields} (hslots : SlotsKeep front fields slots)
    {bs rest : Bytes} (h : readRowFields fields fuel first slots bs = .ok (row, rest)) :
    ∃ back body, HoldsMembers SpellsText first back body ∧
      (∀ member ∈ back, ValueText member.2) ∧ FilledBy (front ++ back) fields row ∧
      bs = body ++ 0x7d :: rest := by
  induction fuel generalizing first front slots bs with
  | zero => cases h
  | succ fuel ih =>
    obtain ⟨⟨more, after⟩, hnext, hlast⟩ := exists_of_bind h
    cases more with
    | false =>
      obtain ⟨blanks, tail, hblanks, rfl, rfl⟩ := brace_of_nextKey hnext
      dsimp only at hlast
      split at hlast
      · next hfill =>
        cases hlast
        refine ⟨[], blanks, .nil hblanks, fun _ h => (List.not_mem_nil h).elim, ?_, rfl⟩
        rw [List.append_nil]
        exact (fillRow_iff hslots row).1 hfill
      · cases hlast
    | true =>
      obtain ⟨sep, hsep, rfl⟩ := separates_of_nextKey hnext
      obtain ⟨⟨key, afterKey⟩, hkey, hmember⟩ := exists_of_bind hlast
      obtain ⟨name, rfl, hname⟩ := spellsText_of_readText hkey
      obtain ⟨⟨filled, afterValue⟩, hread, hothers⟩ := exists_of_bind hmember
      obtain ⟨mid, before, text, hmid, hbefore, htext, rfl, hkeep⟩ :=
        keep_of_readField hdistinct hslots hread
      obtain ⟨back, body, hmembers, hall, hfilled, rfl⟩ := ih hkeep hothers
      rw [List.append_assoc] at hfilled
      exact ⟨(key, text) :: back, _, .cons hsep hname hmid hbefore hmembers,
        List.forall_mem_cons.2 ⟨htext, hall⟩, hfilled, by simp⟩

end

/-! ### Reading arrays -/

/-- Listed items are read up to the bracket. -/
theorem readRowItems_of_items (arity : String) {fields : List (String × FieldKind)}
    {row : Row fields} {texts : List Bytes} (hlisted : ListedBy fields row texts) (done : Nat)
    {body : Bytes} (h : HoldsItems (done == 0) texts body) (rest : Bytes) :
    readRowItems arity fields done (body ++ 0x5d :: rest) = .ok (row, rest) := by
  induction fields generalizing texts done body with
  | nil =>
    obtain rfl : texts = [] := hlisted
    cases h with
    | nil hblanks =>
      rw [readRowItems, skipBlanks_append hblanks, skipBlanks_cons (by decide)]
      rfl
  | cons field more ih =>
    obtain ⟨value, values⟩ := row
    obtain ⟨text, others, rfl, htext, hothers⟩ := hlisted
    cases h with
    | @cons _ _ _ sep body hsep hrest =>
      have hread := field.2.reads.complete blanks_nil htext (hrest.endsNumber rest)
      have hmore := ih hothers (done + 1) hrest
      obtain ⟨b, tail, rfl, hb⟩ := htext.valueText.begins
      have hnext := nextItem_of_separates hsep hb (tail ++ (body ++ 0x5d :: rest))
      simp only [List.nil_append, List.cons_append] at hread
      simp [readRowItems, hnext, hread, hmore, bind, Except.bind]

/-- Items that are read are listed. -/
theorem items_of_readRowItems (arity : String) {fields : List (String × FieldKind)}
    {row : Row fields} {done : Nat} {bs rest : Bytes}
    (h : readRowItems arity fields done bs = .ok (row, rest)) :
    ∃ texts body, HoldsItems (done == 0) texts body ∧ ListedBy fields row texts ∧
      bs = body ++ 0x5d :: rest := by
  induction fields generalizing done bs with
  | nil =>
    rw [readRowItems] at h
    split at h
    · next hbs =>
      cases h
      obtain ⟨blanks, hblanks, rfl⟩ := exists_blanks_of_skipBlanks hbs
      exact ⟨[], blanks, .nil hblanks, rfl, rfl⟩
    · split at h <;> cases h
    · cases h
    · cases h
  | cons field more ih =>
    obtain ⟨⟨another, after⟩, hnext, hlast⟩ := exists_of_bind h
    cases another with
    | false => cases hlast
    | true =>
      obtain ⟨sep, hsep, rfl⟩ := separates_of_nextItem hnext
      obtain ⟨⟨value, afterValue⟩, hvalue, hothers⟩ := exists_of_bind hlast
      obtain ⟨blanks, text, hblanks, htext, rfl⟩ := field.2.reads.sound hvalue
      obtain ⟨⟨values, afterAll⟩, hmore, hdone⟩ := exists_of_bind hothers
      cases hdone
      obtain ⟨texts, body, hitems, hlisted, rfl⟩ := ih hmore
      exact ⟨text :: texts, (sep ++ blanks) ++ (text ++ body), .cons (hsep.append hblanks) hitems,
        ⟨text, texts, rfl, htext, hlisted⟩, by simp⟩

/-! ### Records -/

/-- **Rows.** A row of fields with different names is read from just its texts. -/
theorem Layout.reads {layout : Layout} (hdistinct : (layout.fields.map Prod.fst).Nodup) :
    Reads layout.read (SpellsRow layout.fields) where
  sound := by
    intro bs rest row h
    unfold Layout.read at h
    split at h
    · cases h
    · next hbs =>
      obtain ⟨blanks, hblanks, rfl⟩ := exists_blanks_of_skipBlanks hbs
      obtain ⟨texts, body, hitems, hlisted, rfl⟩ := items_of_readRowItems layout.arity h
      exact ⟨blanks, 0x5b :: (body ++ [0x5d]), hblanks, .array hitems hlisted, by simp⟩
    · next hbs =>
      obtain ⟨blanks, hblanks, rfl⟩ := exists_blanks_of_skipBlanks hbs
      obtain ⟨members, body, hmembers, hall, hfilled, rfl⟩ :=
        members_of_readRowFields hdistinct _ (slotsKeep_empty layout.fields) h
      exact ⟨blanks, 0x7b :: (body ++ [0x7d]), hblanks, .object hmembers hall hfilled, by simp⟩
    · cases h
  complete := by
    intro blanks text rest row hblanks htext _
    cases htext with
    | @object members body hmembers hall hfilled =>
      have hlength := hmembers.length_le
      have hread := readRowFields_of_members hdistinct hall hmembers rest
        ((body ++ 0x7d :: rest).length + 1) [] (by rw [List.length_append]; omega)
        (slotsKeep_empty layout.fields) hfilled
      simp only [Layout.read, skipBlanks_append hblanks, List.cons_append, List.append_assoc,
        List.nil_append, skipBlanks_cons (b := 0x7b) (by decide), hread]
    | @array texts body hitems hlisted =>
      have hread := readRowItems_of_items layout.arity hlisted 0 hitems rest
      simp only [Layout.read, skipBlanks_append hblanks, List.cons_append, List.append_assoc,
        List.nil_append, skipBlanks_cons (b := 0x5b) (by decide), hread]

theorem readEnd_eq_ok_iff (bs : Bytes) : readEnd bs = .ok () ↔ Blanks bs := by
  have hall : skipBlanks bs = [] ↔ Blanks bs := by
    constructor
    · intro hnone
      obtain ⟨blanks, hblanks, heq⟩ := exists_blanks bs
      rw [heq, hnone, List.append_nil]
      exact hblanks
    · intro hblanks
      have hskip := skipBlanks_append hblanks []
      rwa [List.append_nil] at hskip
  rw [← hall, readEnd]
  cases skipBlanks bs with
  | nil => exact ⟨fun _ => rfl, fun _ => rfl⟩
  | cons b rest =>
    constructor
    · intro h
      cases h
    · intro h
      cases h

/-- A whole text is read just when it is a text of the grammar between blanks. -/
theorem readAll_eq_ok_iff {α : Type} {read : Bytes → Except Fault (α × Bytes)}
    {Text : α → Bytes → Prop} (h : Reads read Text) {bytes : Bytes} {a : α} :
    readAll read bytes = .ok a ↔ ∃ front text back, Blanks front ∧ Text a text ∧ Blanks back ∧
      bytes = front ++ (text ++ back) := by
  constructor
  · intro hall
    unfold readAll at hall
    cases hread : read bytes with
    | error fault => rw [hread] at hall; cases hall
    | ok answer =>
      obtain ⟨value, back⟩ := answer
      obtain ⟨front, text, hfront, htext, rfl⟩ := h.sound hread
      cases hend : readEnd back with
      | error fault =>
        simp only [hread, bind, Except.bind, hend] at hall
        cases hall
      | ok u =>
        simp only [hread, bind, Except.bind, hend] at hall
        cases hall
        exact ⟨front, text, back, hfront, htext, (readEnd_eq_ok_iff back).1 hend, rfl⟩
  · rintro ⟨front, text, back, hfront, htext, hback, rfl⟩
    have hends : EndsNumber back := by
      have hblanks := endsNumber_blanks hback endsNumber_nil
      rwa [List.append_nil] at hblanks
    have hread := h.complete hfront htext hends
    have hend := (readEnd_eq_ok_iff back).2 hback
    simp only [readAll, hread, bind, Except.bind, hend]
    rfl

/-- Bytes spell a record: a row that makes it, between blanks. -/
def SpellsRecord {α : Type} [Record α] (a : α) (bytes : Bytes) : Prop :=
  ∃ row front text back, Blanks front ∧ SpellsRow (Record.layout α).fields row text ∧
    Blanks back ∧ Record.ofRow row = a ∧ bytes = front ++ (text ++ back)

/-- **Records.** A record is read from just its texts. -/
theorem decode_eq_ok_iff {α : Type} [Record α]
    (hdistinct : ((Record.layout α).fields.map Prod.fst).Nodup) {bytes : Bytes} {a : α} :
    decode α bytes = .ok a ↔ SpellsRecord a bytes := by
  have hreads {row : Row (Record.layout α).fields} := @readAll_eq_ok_iff _ _ _
    (Layout.reads hdistinct) bytes row
  constructor
  · intro h
    unfold decode at h
    cases hrow : readAll (Record.layout α).read bytes with
    | error fault => rw [hrow] at h; cases h
    | ok row =>
      rw [hrow] at h
      cases h
      obtain ⟨front, text, back, hfront, htext, hback, heq⟩ := hreads.1 hrow
      exact ⟨row, front, text, back, hfront, htext, hback, rfl, heq⟩
  · rintro ⟨row, front, text, back, hfront, htext, hback, rfl, heq⟩
    have hrow := hreads.2 ⟨front, text, back, hfront, htext, hback, heq⟩
    rw [decode, hrow]
    rfl

end RestorePlugins.Json
