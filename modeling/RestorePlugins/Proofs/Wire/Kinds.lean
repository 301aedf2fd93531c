import RestorePlugins.Proofs.Dictionaries
import RestorePlugins.Proofs.Wire.Varint
import RestorePlugins.Wire.Kinds

namespace RestorePlugins.Wire

/-!
# Written fields are read back

A map may be written entry by entry in any order, so a message has several spellings, of which
`write` is one.

* `FieldSpellings`, `SpellsRow` — bytes spell a field, and a row.
* `Layout.Numbered` — the fields of a message have different numbers.
* `run_row` — a spelled row is a run of fields from the default row to that row, when each of its
  fields is.
* `Cell.run`, `Part.run` — each kind of field is.
-/

/-! ### Spellings -/

/-- The spellings of fields. -/
class FieldSpellings (K : Type) [FieldKinds K] where
  /-- The bytes spell the field with a number. -/
  Spells : (kind : K) → Nat → FieldKinds.Value kind → Bytes → Prop
  spells_write : ∀ kind number value, Spells kind number value (FieldKinds.write kind number value)

section

variable {K : Type} [FieldKinds K] [FieldSpellings K]

/-- The bytes spell a row, field by field in the order of the layout. -/
def SpellsRow : (fields : List (Field K)) → Row fields → Bytes → Prop
  | [], (), bs => bs = []
  | field :: rest, (value, values), bs =>
    ∃ first more, bs = first ++ more ∧
      FieldSpellings.Spells field.kind field.number value first ∧ SpellsRow rest values more

theorem spellsRow_write (fields : List (Field K)) (row : Row fields) :
    SpellsRow fields row (writeRow fields row) := by
  induction fields with
  | nil => rfl
  | cons field rest ih => exact ⟨_, _, rfl, FieldSpellings.spells_write .., ih row.2⟩

end

namespace Cell

/-- The entries of a map stand in any order, and any other cell is as it is written. -/
def Spells : (cell : Cell) → Nat → cell.Value → Bytes → Prop
  | textMap, number, d, bs => ∃ entries : List (String × String), entries.Perm (Dict.entries d) ∧
    bs = entries.flatMap fun entry => writeDelimited number (writeEntry entry)
  | cell, number, value, bs => bs = cell.write number value

instance : FieldSpellings Cell where
  Spells := Spells
  spells_write cell number value := by
    cases cell with
    | textMap => exact ⟨_, List.Perm.refl _, rfl⟩
    | _ => rfl

end Cell

namespace Part

/-- Inner messages are spelled behind their lengths. -/
def Spells : (part : Part) → Nat → part.Value → Bytes → Prop
  | cell c, number, value, bs => c.Spells number value bs
  | one _, _, none, bs => bs = []
  | one layout, number, some row, bs =>
    ∃ body, SpellsRow layout.fields row body ∧ bs = Cell.writeDelimited number body
  | many layout, number, rows, bs => ∃ bodies, List.Forall₂ (SpellsRow layout.fields) rows bodies ∧
    bs = bodies.flatMap (Cell.writeDelimited number)

instance : FieldSpellings Part where
  Spells := Spells
  spells_write part number value := by
    cases part with
    | cell c => exact FieldSpellings.spells_write c number value
    | one layout =>
      cases value with
      | none => rfl
      | some row => exact ⟨_, spellsRow_write _ row, rfl⟩
    | many layout =>
      refine ⟨List.map (encodeRow layout) value, ?_, (List.flatMap_map ..).symm⟩
      exact List.forall₂_map_right_iff.2 (List.forall₂_same.2 fun row _ => spellsRow_write _ row)

end Part

/-! ### Rows -/

section

variable {K : Type} [FieldKinds K] [FieldSpellings K]

/-- Different fields have different numbers, all of which a key can hold. -/
structure Layout.Numbered (layout : Layout K) : Prop where
  distinct : (layout.fields.map Field.number).Nodup
  isNumber : ∀ number ∈ layout.fields.map Field.number, IsFieldNumber number

instance (layout : Layout K) : Decidable layout.Numbered :=
  decidable_of_iff ((layout.fields.map Field.number).Nodup ∧
      ∀ number ∈ layout.fields.map Field.number, IsFieldNumber number)
    ⟨fun h => ⟨h.1, h.2⟩, fun h => ⟨h.distinct, h.isNumber⟩⟩

/-- Reads a field of one kind, whatever its number. -/
def takeOne (depth : Nat) (kind : K) : Take (FieldKinds.Value kind) :=
  fun _ form value bs => FieldKinds.read kind depth form value bs

/-- Reads the fields of a message. -/
def takeAny (message : String) (depth : Nat) (fields : List (Field K)) : Take (Row fields) :=
  fun number form row bs => readValue message depth number form fields row bs

omit [FieldSpellings K] in
theorem readField_eq (layout : Layout K) (depth : Nat) :
    readField layout depth = stepOf (takeAny layout.name depth layout.fields) := rfl

/-- A spelling of the field is a run from its default value. -/
def Field.Runs (depth : Nat) (field : Field K) : Prop :=
  ∀ value bs, FieldSpellings.Spells field.kind field.number value bs → bs.length < UInt64.size →
    Run (takeOne depth field.kind) [field.number] (FieldKinds.default field.kind) bs value

/-- **Rows.** A spelled row is a run from the default row, when each of its fields is.  The fields
stand in the order of the layout, so the run goes through the row from the front. -/
theorem run_row (message : String) (depth : Nat) (fields : List (Field K))
    (hdistinct : (fields.map Field.number).Nodup) (hruns : ∀ field ∈ fields, field.Runs depth)
    (row : Row fields) (bs : Bytes) (hspells : SpellsRow fields row bs)
    (hlength : bs.length < UInt64.size) :
    Run (takeAny message depth fields) (fields.map Field.number) (Row.default fields) bs row := by
  induction fields generalizing bs with
  | nil =>
    obtain rfl : bs = [] := hspells
    exact Run.done _
  | cons field more ih =>
    obtain ⟨value, values⟩ := row
    rw [List.map_cons, List.nodup_cons] at hdistinct
    obtain ⟨first, back, rfl, hvalue, hvalues⟩ := hspells
    rw [List.length_append] at hlength
    have hfirst := hruns field List.mem_cons_self value first hvalue (by omega)
    have hmore := ih hdistinct.2 (fun other hother => hruns other (List.mem_cons_of_mem _ hother))
      values back hvalues (by omega)
    -- The first field fills its own cell; the others have other numbers and fill the rest.
    refine Run.append (b := (value, Row.default more)) ?_ ?_
    · refine Run.lift (fun v => (v, Row.default more)) (by simp) ?_ hfirst
      intro number hnumber form a bs b rest hread
      obtain rfl := List.mem_singleton.1 hnumber
      simp only [takeOne] at hread
      simp only [takeAny, readValue, if_true, hread, bind, Except.bind]
      rfl
    · refine Run.lift (fun vs => (value, vs))
        (fun number hnumber => List.mem_cons_of_mem _ hnumber) ?_ hmore
      intro number hnumber form a bs b rest hread
      have hne : field.number ≠ number := fun heq => hdistinct.1 (heq ▸ hnumber)
      simp only [takeAny] at hread
      simp only [takeAny, readValue, hne, if_false, hread, bind, Except.bind]
      rfl

end

/-! ### Cells -/

namespace Cell

theorem readText_withLength {s : String} (h : (utf8 s).length < UInt64.size) (rest : Bytes) :
    readText .lengthDelimited (withLength (utf8 s) ++ rest) = .ok (s, rest) := by
  simp [readText, expectForm_self, readBytes_withLength h, bind, Except.bind]

theorem readNumber_varint {n : Nat} (h : n < UInt64.size) (rest : Bytes) :
    readNumber .varint (varint n ++ rest) = .ok (n, rest) := by
  simp [readNumber, expectForm_self, readVarint_varint h, bind, Except.bind]

theorem eq_empty_of_utf8_isEmpty {s : String} (h : (utf8 s).isEmpty = true) : s = "" := by
  have hread := utf8Text?_utf8 s
  rw [List.isEmpty_iff.1 h] at hread
  exact Option.some.inj (hread.symm.trans (by decide))

/-- Bytes that are written as a field are shorter than the field. -/
theorem length_lt_writeDelimited (number : Nat) (body : Bytes) :
    body.length < (writeDelimited number body).length := by
  have hkey := List.length_pos_iff.2 (key_ne_nil number .lengthDelimited)
  simp only [writeDelimited, withLength, List.length_append]
  omega

variable {α : Type} {take : Take α} {number : Nat} {numbers : List Nat}

/-- Bytes that are left out when there are none. -/
theorem run_writeSome {body : Bytes} {a b : α} (hmem : number ∈ numbers)
    (hnone : body.isEmpty = true → a = b)
    (hread : body.length < UInt64.size → ∀ rest,
      take number .lengthDelimited a (withLength body ++ rest) = .ok (b, rest))
    (hlength : (writeSome number body).length < UInt64.size) :
    Run take numbers a (writeSome number body) b := by
  unfold writeSome at hlength ⊢
  split at hlength
  · next hempty =>
    rw [if_pos hempty, hnone hempty]
    exact Run.done b
  · next hempty =>
    rw [if_neg hempty]
    exact Run.single hmem (hread (Nat.lt_trans (length_lt_writeDelimited number body) hlength))

/-- A number that is left out when it is zero. -/
theorem run_writeNumber {n : Nat} {a b : α} (hmem : number ∈ numbers) (hzero : n = 0 → a = b)
    (hread : ∀ rest, take number .varint a (varint n ++ rest) = .ok (b, rest)) :
    Run take numbers a (writeNumber number n) b := by
  unfold writeNumber
  split
  · next hn =>
    rw [hzero hn]
    exact Run.done b
  · exact Run.single hmem hread

/-- Takes one field of an entry, behind its key. -/
def takeEntry (depth number : Nat) (form : WireType) (entry : String × String) (bs : Bytes) :
    Except WireFault ((String × String) × Bytes) :=
  if number = 1 then (readText form bs).map fun read => ((read.1, entry.2), read.2)
  else if number = 2 then (readText form bs).map fun read => ((entry.1, read.1), read.2)
  else (skipUnknown depth form number bs).map fun rest => (entry, rest)

theorem readEntryField_eq (depth : Nat) : readEntryField depth = stepOf (takeEntry depth) := rfl

/-- An entry of a map is read on top of empty texts. -/
theorem run_writeEntry (depth : Nat) (entry : String × String)
    (hlength : (writeEntry entry).length < UInt64.size) :
    Run (takeEntry depth) [1, 2] ("", "") (writeEntry entry) entry := by
  simp only [writeEntry, List.length_append] at hlength ⊢
  refine Run.append (b := (entry.1, "")) ?_ ?_
  · refine run_writeSome (by simp) ?_ ?_ (by omega)
    · intro hempty
      rw [eq_empty_of_utf8_isEmpty hempty]
    · intro hshort rest
      simp [takeEntry, readText_withLength hshort, Except.map]
  · refine run_writeSome (by simp) ?_ ?_ (by omega)
    · intro hempty
      rw [← eq_empty_of_utf8_isEmpty hempty]
    · intro hshort rest
      simp [takeEntry, readText_withLength hshort, Except.map]

/-- An entry of a map is read back behind its length. -/
theorem readEntry_withLength {depth : Nat} (hdepth : depth ≠ 0) (entry : String × String)
    (hlength : (writeEntry entry).length < UInt64.size) (rest : Bytes) :
    readEntry depth (withLength (writeEntry entry) ++ rest) = .ok (entry, rest) := by
  rw [readEntry, if_neg hdepth, readEntryField_eq]
  exact readDelimited_run (by decide) (run_writeEntry (depth - 1) entry hlength) hlength rest

/-- Texts are added to those that were read before. -/
theorem run_writeTexts (depth : Nat) (front back : List String)
    (hlength : (texts.write number back).length < UInt64.size) :
    Run (takeOne depth texts) [number] front (texts.write number back) (front ++ back) := by
  induction back generalizing front with
  | nil =>
    rw [List.append_nil]
    exact Run.done front
  | cons s back ih =>
    have hsplit : texts.write number (s :: back) =
        writeDelimited number (utf8 s) ++ texts.write number back := rfl
    rw [hsplit, List.length_append] at hlength
    have hshort := length_lt_writeDelimited number (utf8 s)
    have hmore := ih (front ++ [s]) (by omega)
    rw [List.append_assoc] at hmore
    rw [hsplit]
    refine Run.append (Run.single (by simp) fun rest => ?_) hmore
    show Cell.read texts depth .lengthDelimited front _ = _
    simp only [Cell.read, readText_withLength (s := s) (by omega), bind, Except.bind]
    rfl

/-- Entries are put in with those that were read before. -/
theorem run_entries {depth : Nat} (hdepth : depth ≠ 0) (front whole : Dict String)
    (back : List (String × String))
    (hwhole : whole.entries =
      back.foldl (fun entries pair => Entries.insert pair.1 pair.2 entries) front.entries)
    (hlength : (back.flatMap fun e => writeDelimited number (writeEntry e)).length < UInt64.size) :
    Run (takeOne depth textMap) [number] front
      (back.flatMap fun e => writeDelimited number (writeEntry e)) whole := by
  induction back generalizing front with
  | nil =>
    obtain rfl : whole = front := Dict.ext hwhole
    exact Run.done whole
  | cons entry back ih =>
    rw [List.flatMap_cons, List.length_append] at hlength
    have hshort := length_lt_writeDelimited number (writeEntry entry)
    have hmore := ih (front.insert entry.1 entry.2) hwhole (by omega)
    rw [List.flatMap_cons]
    refine Run.append (Run.single (by simp) fun rest => ?_) hmore
    show Cell.read textMap depth .lengthDelimited front _ = _
    simp only [Cell.read, readEntry_withLength hdepth entry (by omega), bind, Except.bind]

/-- A signed number of thirty-two bits is written with its sign extended to sixty-four, of which
the reader drops the upper half. -/
theorem toInt32_ofNat_toInt64 (i : Int32) :
    (UInt32.ofNat i.toInt64.toUInt64.toNat).toInt32 = i := by
  apply Int32.toBitVec_inj.1
  show BitVec.ofNat 32 (i.toBitVec.signExtend 64).toNat = i.toBitVec
  rw [BitVec.ofNat_toNat]
  ext k hk
  rw [BitVec.getElem_setWidth, BitVec.getLsbD_signExtend]
  simp [hk, Nat.lt_trans hk (by decide : 32 < 64)]

theorem toInt64_ofNat (i : Int64) : (UInt64.ofNat i.toUInt64.toNat).toInt64 = i := by
  simp

/-- **Cells.** A spelled cell is a run from its default value.  An entry of a map counts as a
message, so one has to be allowed. -/
theorem run {depth : Nat} (hdepth : depth ≠ 0) (name : String) (number : Nat) (cell : Cell) :
    Field.Runs depth (⟨name, number, cell⟩ : Field Cell) := by
  intro value bs hspells hlength
  show Run (takeOne depth cell) [number] cell.default bs value
  change cell.Spells number value bs at hspells
  -- A default is not written, and is what the cell holds before anything is read.
  cases cell with
  | text =>
    obtain rfl := hspells
    refine run_writeSome (by simp) (fun hempty => (eq_empty_of_utf8_isEmpty hempty).symm) ?_ hlength
    exact readText_withLength
  | bytes =>
    obtain rfl := hspells
    refine run_writeSome (by simp) (fun hempty => (List.isEmpty_iff.1 hempty).symm) ?_ hlength
    intro hshort rest
    show Cell.read bytes depth .lengthDelimited bytes.default _ = _
    simp only [Cell.read, expectForm_self, readBytes_withLength hshort, bind, Except.bind]
    rfl
  | int32 =>
    obtain rfl := hspells
    have hvalue := toInt32_ofNat_toInt64 value
    refine run_writeNumber (by simp) (fun hzero => ?_) fun rest => ?_
    · rw [hzero] at hvalue
      exact hvalue
    · show Cell.read int32 depth .varint int32.default _ = _
      simp only [Cell.read, readNumber_varint (UInt64.toNat_lt _), bind, Except.bind]
      rw [hvalue]
  | int64 =>
    obtain rfl := hspells
    have hvalue := toInt64_ofNat value
    refine run_writeNumber (by simp) (fun hzero => ?_) fun rest => ?_
    · rw [hzero] at hvalue
      exact hvalue
    · show Cell.read int64 depth .varint int64.default _ = _
      simp only [Cell.read, readNumber_varint (UInt64.toNat_lt _), bind, Except.bind]
      rw [hvalue]
  | flag =>
    obtain rfl := hspells
    have hsmall : Bool.toNat value < UInt64.size :=
      Nat.lt_of_lt_of_le (Bool.toNat_lt value) (by decide)
    have hvalue : (Bool.toNat value != 0) = value := by cases value <;> rfl
    refine run_writeNumber (by simp) (fun hzero => ?_) fun rest => ?_
    · rw [hzero] at hvalue
      exact hvalue
    · show Cell.read flag depth .varint flag.default _ = _
      simp only [Cell.read, readNumber_varint hsmall, bind, Except.bind]
      rw [hvalue]
  | texts =>
    obtain rfl := hspells
    exact run_writeTexts depth [] value hlength
  | textMap =>
    obtain ⟨entries, hperm, rfl⟩ := hspells
    have hentries := congrArg Dict.entries (Dict.ofPairs_of_perm hperm)
    exact run_entries hdepth ∅ value entries hentries.symm hlength

end Cell

/-! ### Parts -/

namespace Part

/-- The inner messages of the part have different numbers. -/
def Numbered : Part → Prop
  | cell _ => True
  | one layout => layout.Numbered
  | many layout => layout.Numbered

instance : (part : Part) → Decidable part.Numbered
  | cell _ => inferInstanceAs (Decidable True)
  | one layout => inferInstanceAs (Decidable layout.Numbered)
  | many layout => inferInstanceAs (Decidable layout.Numbered)

/-- A spelled message of cells is read back behind its length. -/
theorem readInner_withLength {layout : Layout Cell} (h : layout.Numbered) {depth : Nat}
    (hdepth : 2 ≤ depth) {row : Row layout.fields} {body : Bytes}
    (hspells : SpellsRow layout.fields row body) (hlength : body.length < UInt64.size)
    (rest : Bytes) :
    readInner layout depth .lengthDelimited (Row.default _) (withLength body ++ rest) =
      .ok (row, rest) := by
  have hrun := run_row layout.name (depth - 1) layout.fields h.distinct
    (fun field _ => Cell.run (by omega) field.name field.number field.kind) row body hspells hlength
  have hnonzero : depth ≠ 0 := by omega
  simp only [readInner, expectForm_self, hnonzero, if_false, readField_eq, bind, Except.bind]
  exact readDelimited_run h.isNumber hrun hlength rest

/-- Messages are added to those that were read before. -/
theorem run_many {layout : Layout Cell} (h : layout.Numbered) {depth : Nat} (hdepth : 2 ≤ depth)
    {number : Nat} (front : List (Row layout.fields)) {back : List (Row layout.fields)}
    {bodies : List Bytes} (hspells : List.Forall₂ (SpellsRow layout.fields) back bodies)
    (hlength : (bodies.flatMap (Cell.writeDelimited number)).length < UInt64.size) :
    Run (takeOne depth (many layout)) [number] front
      (bodies.flatMap (Cell.writeDelimited number)) (front ++ back) := by
  induction hspells generalizing front with
  | nil =>
    rw [List.append_nil]
    exact Run.done front
  | @cons row body back bodies hrow _ ih =>
    rw [List.flatMap_cons, List.length_append] at hlength
    have hshort := Cell.length_lt_writeDelimited number body
    have hmore := ih (front ++ [row]) (by omega)
    rw [List.append_assoc] at hmore
    rw [List.flatMap_cons]
    refine Run.append (Run.single (by simp) fun rest => ?_) hmore
    show Part.read (many layout) depth .lengthDelimited front _ = _
    simp only [Part.read, readInner_withLength h hdepth hrow (by omega), bind, Except.bind]
    rfl

/-- **Parts.** A spelled part is a run from its default value.  Two messages have to be allowed
around each other: an inner message, and an entry of a map in it. -/
theorem run {depth : Nat} (hdepth : 2 ≤ depth) (name : String) (number : Nat) {part : Part}
    (h : part.Numbered) : Field.Runs depth (⟨name, number, part⟩ : Field Part) := by
  intro value bs hspells hlength
  cases part with
  | cell cell => exact Cell.run (by omega) name number cell value bs hspells hlength
  | one layout =>
    cases value with
    | none =>
      obtain rfl : bs = [] := hspells
      exact Run.done _
    | some row =>
      obtain ⟨body, hrow, rfl⟩ := hspells
      change (Cell.writeDelimited number body).length < UInt64.size at hlength
      have hshort := Cell.length_lt_writeDelimited number body
      refine Run.single (by simp) fun rest => ?_
      show Part.read (one layout) depth .lengthDelimited none _ = _
      simp only [Part.read, Option.getD_none, readInner_withLength h hdepth hrow (by omega), bind,
        Except.bind]
  | many layout =>
    obtain ⟨bodies, hrows, rfl⟩ := hspells
    exact run_many h hdepth [] hrows hlength

end Part

/-! ### Messages -/

/-- A row of the layout is what each of its spellings is read as, as long as a length can be told. -/
def Layout.Readable {K : Type} [FieldKinds K] [FieldSpellings K] (layout : Layout K) : Prop :=
  ∀ row bs, SpellsRow layout.fields row bs → bs.length < UInt64.size →
    decodeRow layout bs = .ok row

theorem readable_of_runs {K : Type} [FieldKinds K] [FieldSpellings K] {layout : Layout K}
    (h : layout.Numbered) (hruns : ∀ field ∈ layout.fields, field.Runs depthLimit) :
    layout.Readable := by
  intro row bs hspells hlength
  have hrun := run_row layout.name depthLimit layout.fields h.distinct hruns row bs hspells hlength
  have hloop := readWhile_run h.isNumber hrun [] _ (Nat.le_refl _)
  rw [List.append_nil, List.length_nil] at hloop
  simp only [decodeRow, readField_eq, hloop, bind, Except.bind]

theorem readable_cells {layout : Layout Cell} (h : layout.Numbered) : layout.Readable :=
  readable_of_runs h fun field _ => Cell.run (by decide) field.name field.number field.kind

theorem readable_parts {layout : Layout Part} (h : layout.Numbered)
    (hparts : ∀ field ∈ layout.fields, field.kind.Numbered) : layout.Readable :=
  readable_of_runs h fun field hfield =>
    Part.run (by decide) field.name field.number (hparts field hfield)

section

variable {α : Type} [Message α] [FieldSpellings (Message.Kind α)]

/-- The bytes spell a message. -/
def Spells (a : α) (bs : Bytes) : Prop :=
  SpellsRow (Message.layout : Layout (Message.Kind α)).fields (Message.row a) bs

theorem spells_encode (a : α) : Spells a (encode a) := spellsRow_write _ (Message.row a)

/-- **Messages.** A message is what its spellings are read as, when its layout is readable. -/
theorem decode_of_spells (h : (Message.layout : Layout (Message.Kind α)).Readable) {a : α}
    {bs : Bytes} (hspells : Spells a bs) (hlength : bs.length < UInt64.size) :
    decode α bs = .ok a := by
  simp only [decode, h (Message.row a) bs hspells hlength, Except.map, Message.ofRow_row]

end

end RestorePlugins.Wire
