import RestorePlugins.Json.Parser
import RestorePlugins.Proofs.Dictionaries
import RestorePlugins.Proofs.Json.Numbers
import RestorePlugins.Proofs.Json.Texts

namespace RestorePlugins.Json

/-!
# Spelled documents are read

One document has many spellings: blanks stand around values, fields stand in any order and can be
repeated, in which case the last one counts, and characters can be escaped.

* `Spells n` — bytes spell a document with at most `n` arrays and objects around each other.
* `SpellsElement`, `SpellsItems`, `SpellsField`, `SpellsFields` — the parts of arrays and objects.
* `readValue_of_spells` — a spelled value is read as that value, whatever stands behind it.
* `parse_of_spells` — a text that spells a document is parsed as that document.
-/

/-! ### Spellings -/

/-- Blanks, tabs and line ends, any number of them. -/
def Blanks (bs : Bytes) : Prop := ∀ b ∈ bs, isBlank b = true

theorem blanks_nil : Blanks [] := fun _ h => (List.not_mem_nil h).elim

theorem Blanks.append {front back : Bytes} (hfront : Blanks front) (hback : Blanks back) :
    Blanks (front ++ back) := by
  intro b hb
  rcases List.mem_append.1 hb with hb | hb
  · exact hfront b hb
  · exact hback b hb

mutual

/-- Bytes spell a value. -/
inductive Spells : Nat → Json → Bytes → Prop
  | null {n : Nat} : Spells n .null (utf8 "null")
  | true {n : Nat} : Spells n (.bool true) (utf8 "true")
  | false {n : Nat} : Spells n (.bool false) (utf8 "false")
  | int {n : Nat} {i : Int} (h : minInt ≤ i ∧ i ≤ maxInt) : Spells n (.int i) (decimalInt i)
  | str {n : Nat} {s : String} {body : Bytes} (h : SpellsText s body) :
      Spells n (.str s) (0x22 :: (body ++ [0x22]))
  | emptyArr {n : Nat} {blanks : Bytes} (h : Blanks blanks) :
      Spells (n + 1) (.arr []) (0x5b :: (blanks ++ [0x5d]))
  | arr {n : Nat} {items : List Json} {body : Bytes} (h : SpellsItems n items body) :
      Spells (n + 1) (.arr items) (0x5b :: (body ++ [0x5d]))
  | emptyObj {n : Nat} {blanks : Bytes} (h : Blanks blanks) :
      Spells (n + 1) (.obj []) (0x7b :: (blanks ++ [0x7d]))
  | obj {n : Nat} {fields : List (String × Json)} {body : Bytes} (h : SpellsFields n fields body) :
      Spells (n + 1) (.obj (Entries.ofPairs fields)) (0x7b :: (body ++ [0x7d]))

/-- Bytes spell a value between blanks. -/
inductive SpellsElement : Nat → Json → Bytes → Prop
  | mk {n : Nat} {doc : Json} {front text back : Bytes} (hfront : Blanks front)
      (h : Spells n doc text) (hback : Blanks back) : SpellsElement n doc (front ++ (text ++ back))

/-- Bytes spell the items of an array, with commas between them. -/
inductive SpellsItems : Nat → List Json → Bytes → Prop
  | one {n : Nat} {item : Json} {text : Bytes} (h : SpellsElement n item text) :
      SpellsItems n [item] text
  | more {n : Nat} {item : Json} {items : List Json} {text rest : Bytes}
      (h : SpellsElement n item text) (hrest : SpellsItems n items rest) :
      SpellsItems n (item :: items) (text ++ 0x2c :: rest)

/-- Bytes spell a field: its key between blanks, a colon, and its value. -/
inductive SpellsField : Nat → String × Json → Bytes → Prop
  | mk {n : Nat} {key : String} {value : Json} {front body back text : Bytes}
      (hfront : Blanks front) (hkey : SpellsText key body) (hback : Blanks back)
      (h : SpellsElement n value text) :
      SpellsField n (key, value) (front ++ 0x22 :: (body ++ 0x22 :: (back ++ 0x3a :: text)))

/-- Bytes spell the fields of an object, with commas between them. -/
inductive SpellsFields : Nat → List (String × Json) → Bytes → Prop
  | one {n : Nat} {field : String × Json} {text : Bytes} (h : SpellsField n field text) :
      SpellsFields n [field] text
  | more {n : Nat} {field : String × Json} {fields : List (String × Json)} {text rest : Bytes}
      (h : SpellsField n field text) (hrest : SpellsFields n fields rest) :
      SpellsFields n (field :: fields) (text ++ 0x2c :: rest)

end

/-! ### Blanks are skipped -/

theorem skipBlanks_cons {b : UInt8} (h : isBlank b = false) (rest : Bytes) :
    skipBlanks (b :: rest) = b :: rest := by
  simp [skipBlanks, h]

theorem skipBlanks_append {blanks : Bytes} (h : Blanks blanks) (rest : Bytes) :
    skipBlanks (blanks ++ rest) = skipBlanks rest := by
  induction blanks with
  | nil => rfl
  | cons b blanks ih =>
    have hrest := ih fun other hother => h other (List.mem_cons_of_mem b hother)
    rw [List.cons_append, skipBlanks, List.dropWhile_cons_of_pos (h b List.mem_cons_self)]
    exact hrest

/-- Blanks do not go on with a number. -/
theorem endsNumber_blanks {blanks rest : Bytes} (h : Blanks blanks) (hrest : EndsNumber rest) :
    EndsNumber (blanks ++ rest) := by
  cases blanks with
  | nil => exact hrest
  | cons b blanks =>
    have hb := h b List.mem_cons_self
    simp only [isBlank, Bool.or_eq_true, beq_iff_eq] at hb
    rcases hb with ((rfl | rfl) | rfl) | rfl <;> exact endsNumber_cons (by decide)

/-- A value is read behind blanks. -/
theorem readValue_congr {a b : Bytes} (h : skipBlanks a = skipBlanks b) (fuel depth : Nat) :
    readValue (fuel + 1) depth a = readValue (fuel + 1) depth b := by
  simp only [readValue, h]

/-! ### First bytes -/

/-- A digit is none of the bytes with which other values begin. -/
theorem digit_ne {b : UInt8} (h : isDigit b = true) :
    isBlank b = false ∧ b ≠ 0x6e ∧ b ≠ 0x74 ∧ b ≠ 0x66 ∧ b ≠ 0x2d ∧ b ≠ 0x5d := by
  have hlow : 48 ≤ b.toNat := by
    simp only [isDigit, Bool.and_eq_true, decide_eq_true_eq] at h
    exact h.1
  refine ⟨?_, ?_, ?_, ?_, ?_, ?_⟩
  · simp only [isBlank, Bool.or_eq_false_iff, beq_eq_false_iff_ne]
    refine ⟨⟨⟨?_, ?_⟩, ?_⟩, ?_⟩ <;> rintro rfl <;> simp at hlow
  all_goals rintro rfl; revert h; decide

/-- A byte with which a value can begin: it is no blank and ends no array. -/
def Begins (b : UInt8) : Prop := isBlank b = false ∧ b ≠ 0x5d

instance (b : UInt8) : Decidable (Begins b) := inferInstanceAs (Decidable (_ ∧ _))

/-- A spelled value begins with such a byte. -/
theorem Spells.begins {n : Nat} {doc : Json} {text : Bytes} (h : Spells n doc text) :
    ∃ b tail, text = b :: tail ∧ Begins b := by
  cases h with
  | null => exact ⟨0x6e, utf8 "ull", by decide, by decide⟩
  | true => exact ⟨0x74, utf8 "rue", by decide, by decide⟩
  | false => exact ⟨0x66, utf8 "alse", by decide, by decide⟩
  | @int _ i =>
    obtain ⟨b, digits, hb, hdigit⟩ := exists_digit_decimal i.natAbs
    by_cases hneg : i < 0
    · exact ⟨0x2d, decimal i.natAbs, by simp [decimalInt, hneg], by decide⟩
    · obtain ⟨hblank, -, -, -, -, hbracket⟩ := digit_ne hdigit
      exact ⟨b, digits, by simp [decimalInt, hneg, hb], hblank, hbracket⟩
  | str => exact ⟨0x22, _, rfl, by decide⟩
  | emptyArr => exact ⟨0x5b, _, rfl, by decide⟩
  | arr => exact ⟨0x5b, _, rfl, by decide⟩
  | emptyObj => exact ⟨0x7b, _, rfl, by decide⟩
  | obj => exact ⟨0x7b, _, rfl, by decide⟩

theorem SpellsElement.begins {n : Nat} {doc : Json} {text : Bytes} (h : SpellsElement n doc text)
    (rest : Bytes) : ∃ b tail, skipBlanks (text ++ rest) = b :: tail ∧ Begins b := by
  cases h with
  | @mk _ _ front text back hfront h _ =>
    obtain ⟨b, tail, rfl, hb⟩ := h.begins
    refine ⟨b, tail ++ (back ++ rest), ?_, hb⟩
    rw [List.append_assoc, skipBlanks_append hfront, List.append_assoc, List.cons_append,
      skipBlanks_cons hb.1]

theorem SpellsElement.length_pos {n : Nat} {doc : Json} {text : Bytes}
    (h : SpellsElement n doc text) : 0 < text.length := by
  obtain ⟨-, hvalue, -⟩ := h
  obtain ⟨b, tail, rfl, -⟩ := hvalue.begins
  simp only [List.length_append, List.length_cons]
  omega

theorem SpellsItems.begins {n : Nat} {items : List Json} {body : Bytes} (h : SpellsItems n items body)
    (rest : Bytes) : ∃ b tail, skipBlanks (body ++ rest) = b :: tail ∧ Begins b := by
  cases h with
  | one h => exact h.begins rest
  | more h _ =>
    rw [List.append_assoc]
    exact h.begins _

theorem SpellsItems.length_pos {n : Nat} {items : List Json} {body : Bytes}
    (h : SpellsItems n items body) : 0 < body.length := by
  cases h with
  | one h => exact h.length_pos
  | more h _ =>
    have hpos := h.length_pos
    rw [List.length_append]
    omega

/-! ### Words and numbers -/

/-- A word is read where it stands. -/
theorem readWord_append (word rest : Bytes) : readWord word (word ++ rest) = .ok rest := by
  induction word with
  | nil => rfl
  | cons b word ih => simp [readWord, ih]

/-- A literal is read where it stands. -/
theorem readLiteral_append (word : Bytes) (value : Json) (rest : Bytes) :
    readLiteral word value (word ++ rest) = .ok (value, rest) := by
  simp [readLiteral, readWord_append, bind, Except.bind]

/-- An integer is read as a document. -/
theorem readValue_decimalInt {i : Int} (h : minInt ≤ i ∧ i ≤ maxInt) (fuel depth : Nat)
    {rest : Bytes} (hends : EndsNumber rest) :
    readValue (fuel + 1) depth (decimalInt i ++ rest) = .ok (.int i, rest) := by
  simp only [minInt, maxInt] at h
  rcases readNumber_decimalInt h.1 (by simp only [maxSignificand]; omega) hends with
    ⟨bs, htext, hread⟩ | ⟨b, tail, htext, hdigit, hread⟩
  · simp [htext, readValue, skipBlanks_cons (b := 0x2d) (by decide), readNumberValue, hread, bind,
      Except.bind, Number.toJson]
  · obtain ⟨hblank, hn, ht, hf, hminus, -⟩ := digit_ne hdigit
    simp [htext, readValue, skipBlanks_cons hblank, hn, ht, hf, hminus, hdigit, readNumberValue,
      hread, bind, Except.bind, Number.toJson]

/-! ### Items -/

/-- Reads an item and those behind it. -/
def readFrom (fuel depth : Nat) (bs : Bytes) : Except Fault (List Json × Bytes) := do
  let (item, rest) ← readValue fuel depth bs
  let (items, rest) ← readMoreItems fuel depth rest
  .ok (item :: items, rest)

/-- A first item is read, and then the others. -/
theorem readItems_of_begins {fuel depth : Nat} {bs tail : Bytes} {b : UInt8}
    (hbs : skipBlanks bs = b :: tail) (hb : Begins b) :
    readItems (fuel + 2) depth bs = readFrom (fuel + 1) depth bs := by
  have hskip : readValue (fuel + 1) depth bs = readValue (fuel + 1) depth (b :: tail) :=
    readValue_congr (by rw [hbs, skipBlanks_cons hb.1]) fuel depth
  simp [readItems, hbs, hb.2, readFrom, hskip]

/-- A further item is read behind a comma, and then the others. -/
theorem readMoreItems_of_begins {fuel depth : Nat} {back bs tail : Bytes} {b : UInt8}
    (hback : Blanks back) (hbs : skipBlanks bs = b :: tail) (hb : Begins b) :
    readMoreItems (fuel + 2) depth (back ++ 0x2c :: bs) = readFrom (fuel + 1) depth bs := by
  have hskip : readValue (fuel + 1) depth bs = readValue (fuel + 1) depth (b :: tail) :=
    readValue_congr (by rw [hbs, skipBlanks_cons hb.1]) fuel depth
  simp [readMoreItems, skipBlanks_append hback, skipBlanks_cons (b := 0x2c) (by decide), hbs, hb.2,
    readFrom, hskip]

theorem readItems_end {fuel depth : Nat} {blanks : Bytes} (h : Blanks blanks) (rest : Bytes) :
    readItems (fuel + 1) depth (blanks ++ 0x5d :: rest) = .ok ([], rest) := by
  simp [readItems, skipBlanks_append h, skipBlanks_cons (b := 0x5d) (by decide)]

theorem readMoreItems_end {fuel depth : Nat} {back : Bytes} (hback : Blanks back) (rest : Bytes) :
    readMoreItems (fuel + 1) depth (back ++ 0x5d :: rest) = .ok ([], rest) := by
  simp [readMoreItems, skipBlanks_append hback, skipBlanks_cons (b := 0x5d) (by decide)]

/-! ### Fields -/

/-- Reads a field behind its opening quote, puts it in with those before it, and reads those behind
it. -/
def readFieldFrom (fuel depth : Nat) (front : List (String × Json)) (bs : Bytes) :
    Except Fault (List (String × Json) × Bytes) := do
  let (key, rest) ← readText bs
  let rest ← readColon rest
  let (value, rest) ← readValue fuel depth rest
  readMoreFields fuel depth (Entries.insert key value front) rest

theorem readFields_of_quote {fuel depth : Nat} {bs tail : Bytes}
    (hbs : skipBlanks bs = 0x22 :: tail) :
    readFields (fuel + 1) depth bs = readFieldFrom fuel depth [] tail := by
  simp [readFields, hbs, readFieldFrom]

theorem readMoreFields_of_quote {fuel depth : Nat} {front : List (String × Json)}
    {back bs tail : Bytes} (hback : Blanks back) (hbs : skipBlanks bs = 0x22 :: tail) :
    readMoreFields (fuel + 1) depth front (back ++ 0x2c :: bs) =
      readFieldFrom fuel depth front tail := by
  simp [readMoreFields, skipBlanks_append hback, skipBlanks_cons (b := 0x2c) (by decide), hbs,
    readFieldFrom]

theorem readFields_end {fuel depth : Nat} {blanks : Bytes} (h : Blanks blanks) (rest : Bytes) :
    readFields (fuel + 1) depth (blanks ++ 0x7d :: rest) = .ok ([], rest) := by
  simp [readFields, skipBlanks_append h, skipBlanks_cons (b := 0x7d) (by decide)]

theorem readMoreFields_end {fuel depth : Nat} {front : List (String × Json)} {back : Bytes}
    (hback : Blanks back) (rest : Bytes) :
    readMoreFields (fuel + 1) depth front (back ++ 0x7d :: rest) = .ok (front, rest) := by
  simp [readMoreFields, skipBlanks_append hback, skipBlanks_cons (b := 0x7d) (by decide)]

/-- A colon is read behind a key. -/
theorem readColon_append {back : Bytes} (hback : Blanks back) (rest : Bytes) :
    readColon (back ++ 0x3a :: rest) = .ok rest := by
  simp [readColon, skipBlanks_append hback, skipBlanks_cons (b := 0x3a) (by decide)]

/-! ### Documents -/

mutual

/-- **Values.** A spelled value is read.  Each step of the reader passes a byte, so the length of the
text bounds the steps. -/
theorem readValue_of_spells {n : Nat} {doc : Json} {text : Bytes} : Spells n doc text →
    ∀ (fuel : Nat) (rest : Bytes), text.length < fuel + 1 → EndsNumber rest →
      readValue (fuel + 1) (n + 1) (text ++ rest) = .ok (doc, rest)
  | .null, fuel, rest, _, _ => by
    show readValue (fuel + 1) (n + 1) (0x6e :: (utf8 "ull" ++ rest)) = _
    rw [readValue, skipBlanks_cons (b := 0x6e) (by decide)]
    exact readLiteral_append _ _ _
  | .true, fuel, rest, _, _ => by
    show readValue (fuel + 1) (n + 1) (0x74 :: (utf8 "rue" ++ rest)) = _
    rw [readValue, skipBlanks_cons (b := 0x74) (by decide)]
    exact readLiteral_append _ _ _
  | .false, fuel, rest, _, _ => by
    show readValue (fuel + 1) (n + 1) (0x66 :: (utf8 "alse" ++ rest)) = _
    rw [readValue, skipBlanks_cons (b := 0x66) (by decide)]
    exact readLiteral_append _ _ _
  | .int h, fuel, rest, _, hends => readValue_decimalInt h fuel (n + 1) hends
  | .str h, fuel, rest, _, _ => by
    simp only [List.cons_append, List.append_assoc, List.nil_append, readValue,
      skipBlanks_cons (b := 0x22) (by decide)]
    simp [readText_of_spells h, isDigit, bind, Except.bind]
  | .emptyArr h, fuel, rest, hfuel, _ => by
    simp only [List.length_cons, List.length_append, List.length_nil] at hfuel
    obtain ⟨fuel, rfl⟩ : ∃ m, fuel = m + 1 := ⟨fuel - 1, by omega⟩
    simp only [List.cons_append, List.append_assoc, List.nil_append, readValue,
      skipBlanks_cons (b := 0x5b) (by decide)]
    simp [isDigit, readItems_end h, bind, Except.bind]
  | .arr h, fuel, rest, hfuel, _ => by
    obtain ⟨b, tail, hbs, hb⟩ := h.begins (0x5d :: rest)
    have hpos := h.length_pos
    simp only [List.length_cons, List.length_append, List.length_nil] at hfuel
    obtain ⟨fuel, rfl⟩ : ∃ m, fuel = m + 2 := ⟨fuel - 2, by omega⟩
    have hread := readFrom_of_items h fuel rest (by omega)
    simp only [List.cons_append, List.append_assoc, List.nil_append, readValue,
      skipBlanks_cons (b := 0x5b) (by decide)]
    simp [isDigit, readItems_of_begins hbs hb, hread, bind, Except.bind]
  | .emptyObj h, fuel, rest, hfuel, _ => by
    simp only [List.length_cons, List.length_append, List.length_nil] at hfuel
    obtain ⟨fuel, rfl⟩ : ∃ m, fuel = m + 1 := ⟨fuel - 1, by omega⟩
    simp only [List.cons_append, List.append_assoc, List.nil_append, readValue,
      skipBlanks_cons (b := 0x7b) (by decide)]
    simp [isDigit, readFields_end h, bind, Except.bind]
  | .obj h, fuel, rest, hfuel, _ => by
    simp only [List.length_cons, List.length_append, List.length_nil] at hfuel
    obtain ⟨fuel, rfl⟩ : ∃ m, fuel = m + 2 := ⟨fuel - 2, by omega⟩
    obtain ⟨tail, hbs, hread⟩ := readFieldFrom_of_fields h fuel [] rest (by omega)
    simp only [List.cons_append, List.append_assoc, List.nil_append, readValue,
      skipBlanks_cons (b := 0x7b) (by decide)]
    simp [isDigit, readFields_of_quote hbs, hread, Entries.ofPairs, bind, Except.bind]

/-- A spelled element is read, up to the blanks behind it. -/
theorem readValue_of_element {n : Nat} {doc : Json} {text : Bytes} : SpellsElement n doc text →
    ∀ (fuel : Nat) (rest : Bytes), text.length < fuel + 1 → EndsNumber rest →
      ∃ back, Blanks back ∧
        readValue (fuel + 1) (n + 1) (text ++ rest) = .ok (doc, back ++ rest)
  | @SpellsElement.mk _ _ front text back hfront h hback, fuel, rest, hfuel, hends => by
    simp only [List.length_append] at hfuel
    refine ⟨back, hback, ?_⟩
    have hskip : skipBlanks (front ++ (text ++ back) ++ rest) = skipBlanks (text ++ (back ++ rest)) := by
      rw [List.append_assoc, skipBlanks_append hfront, List.append_assoc]
    rw [readValue_congr hskip]
    exact readValue_of_spells h fuel (back ++ rest) (by omega) (endsNumber_blanks hback hends)

/-- Spelled items are read up to the bracket. -/
theorem readFrom_of_items {n : Nat} {items : List Json} {body : Bytes} : SpellsItems n items body →
    ∀ (fuel : Nat) (rest : Bytes), body.length < fuel + 1 →
      readFrom (fuel + 1) (n + 1) (body ++ 0x5d :: rest) = .ok (items, rest)
  | .one h, fuel, rest, hfuel => by
    obtain ⟨back, hback, hread⟩ := readValue_of_element h fuel (0x5d :: rest) hfuel
      (endsNumber_cons (by decide))
    simp [readFrom, hread, readMoreItems_end hback, bind, Except.bind]
  | @SpellsItems.more _ _ _ text body h hrest, fuel, rest, hfuel => by
    have hpos := h.length_pos
    have hposRest := hrest.length_pos
    simp only [List.length_append, List.length_cons] at hfuel
    obtain ⟨fuel, rfl⟩ : ∃ m, fuel = m + 1 := ⟨fuel - 1, by omega⟩
    obtain ⟨back, hback, hread⟩ := readValue_of_element h (fuel + 1)
      (0x2c :: (body ++ 0x5d :: rest)) (by omega) (endsNumber_cons (by decide))
    obtain ⟨b, tail, hbs, hb⟩ := hrest.begins (0x5d :: rest)
    have hmore := readFrom_of_items hrest fuel rest (by omega)
    rw [List.append_assoc, List.cons_append, readFrom, hread]
    simp [readMoreItems_of_begins hback hbs hb, hmore, bind, Except.bind]

/-- A spelled field is read behind its opening quote, up to the blanks behind its value. -/
theorem readFieldFrom_of_field {n : Nat} {field : String × Json} {text : Bytes} :
    SpellsField n field text → ∀ (fuel : Nat) (front : List (String × Json)) (rest : Bytes),
      text.length < fuel + 1 → EndsNumber rest →
      ∃ tail back, Blanks back ∧ skipBlanks (text ++ rest) = 0x22 :: tail ∧
        readFieldFrom (fuel + 1) (n + 1) front tail =
          readMoreFields (fuel + 1) (n + 1) (Entries.insert field.1 field.2 front) (back ++ rest)
  | @SpellsField.mk _ key value blanks body mid text hfront hkey hmid h, fuel, front, rest, hfuel,
      hends => by
    simp only [List.length_append, List.length_cons] at hfuel
    obtain ⟨back, hback, hread⟩ := readValue_of_element h fuel rest (by omega) hends
    refine ⟨body ++ 0x22 :: (mid ++ 0x3a :: (text ++ rest)), back, hback, ?_, ?_⟩
    · rw [List.append_assoc, skipBlanks_append hfront, List.cons_append,
        skipBlanks_cons (by decide)]
      simp only [List.append_assoc, List.cons_append]
    · simp only [readFieldFrom, readText_of_spells hkey, readColon_append hmid, hread, bind,
        Except.bind]

/-- Spelled fields are read up to the brace, each put in with those before it. -/
theorem readFieldFrom_of_fields {n : Nat} {fields : List (String × Json)} {body : Bytes} :
    SpellsFields n fields body → ∀ (fuel : Nat) (front : List (String × Json)) (rest : Bytes),
      body.length < fuel + 1 →
      ∃ tail, skipBlanks (body ++ 0x7d :: rest) = 0x22 :: tail ∧
        readFieldFrom (fuel + 1) (n + 1) front tail =
          .ok (fields.foldl (fun front field => Entries.insert field.1 field.2 front) front, rest)
  | .one h, fuel, front, rest, hfuel => by
    obtain ⟨tail, back, hback, hbs, hread⟩ := readFieldFrom_of_field h fuel front (0x7d :: rest)
      hfuel (endsNumber_cons (by decide))
    exact ⟨tail, hbs, hread.trans (readMoreFields_end hback rest)⟩
  | @SpellsFields.more _ field _ text body h hrest, fuel, front, rest, hfuel => by
    simp only [List.length_append, List.length_cons] at hfuel
    obtain ⟨fuel, rfl⟩ : ∃ m, fuel = m + 1 := ⟨fuel - 1, by omega⟩
    obtain ⟨tail, back, hback, hbs, hread⟩ := readFieldFrom_of_field h (fuel + 1) front
      (0x2c :: (body ++ 0x7d :: rest)) (by omega) (endsNumber_cons (by decide))
    obtain ⟨next, hnext, hmore⟩ := readFieldFrom_of_fields hrest fuel
      (Entries.insert field.1 field.2 front) rest (by omega)
    refine ⟨tail, ?_, ?_⟩
    · rw [List.append_assoc, List.cons_append, hbs]
    · rw [hread, readMoreFields_of_quote hback hnext, hmore, List.foldl_cons]

end

/-- **Documents.** A text that spells a document of at most 127 levels is parsed as that document. -/
theorem parse_of_spells {doc : Json} {text : Bytes} (h : SpellsElement 127 doc text) :
    parse text = .ok doc := by
  obtain ⟨back, hback, hread⟩ := readValue_of_element h (2 * text.length + 1) [] (by omega)
    endsNumber_nil
  have hend : skipBlanks back = [] := by
    have hskip := skipBlanks_append hback []
    rwa [List.append_nil] at hskip
  rw [List.append_nil, List.append_nil] at hread
  have hread : readValue (enoughFuel text) maxDepth text = .ok (doc, back) := hread
  simp only [parse, readAll, hread, readEnd, bind, Except.bind, hend]
  rfl

end RestorePlugins.Json
