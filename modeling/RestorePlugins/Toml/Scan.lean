namespace RestorePlugins.Toml

/-!
# Words of TOML

Readers for the parts of a document without inner values.  Each reads from the front of the
unread characters and gives what it read and the rest, or nothing.

* `skipBlanks`, `skipLine`, `skipLines` — blanks, the rest of a line, and empty lines.
* `readBasic`, `readLiteral`, `readLongBasic`, `readLongLiteral` — the four kinds of texts.
* `readInteger`, `readReal`, `readMoment` — numbers and dates.
-/

/-- The characters that are still unread. -/
abbrev Chars := List Char

/-! ### Characters -/

/-- A blank inside of a line. -/
def isBlank (c : Char) : Bool := c = ' ' || c = '\t'

/-- A digit. -/
def isDigit (c : Char) : Bool := '0' ≤ c && c ≤ '9'

/-- The value of a digit up to sixteen. -/
def digitValue (c : Char) : Nat :=
  if isDigit c then c.toNat - 48
  else if 'a' ≤ c && c ≤ 'f' then c.toNat - 87
  else if 'A' ≤ c && c ≤ 'F' then c.toNat - 55
  else 16

/-- A digit to some base up to sixteen. -/
def isDigitTo (base : Nat) (c : Char) : Bool := decide (digitValue c < base)

/-- A character of a bare key. -/
def isBareKey (c : Char) : Bool :=
  isDigit c || ('a' ≤ c && c ≤ 'z') || ('A' ≤ c && c ≤ 'Z') || c = '_' || c = '-'

/-- A character that stands for itself in comments and texts. -/
def isPlain (c : Char) : Bool := c = '\t' || (' ' ≤ c && c ≠ '\x7f')

/-! ### Blanks and lines -/

/-- The characters after blanks. -/
def skipBlanks (cs : Chars) : Chars := cs.dropWhile isBlank

/-- A line break. -/
def readBreak : Chars → Option Chars
  | '\n' :: rest => some rest
  | '\r' :: '\n' :: rest => some rest
  | _ => none

/-- The characters after a comment, if there is one. -/
def skipComment : Chars → Chars
  | '#' :: rest => rest.dropWhile isPlain
  | cs => cs

/-- The rest of a line: blanks, perhaps a comment, and a line break or the end. -/
def skipLine (cs : Chars) : Option Chars :=
  match skipComment (skipBlanks cs) with
  | [] => some []
  | rest => readBreak rest

/-- Blanks, comments and line breaks up to the next other character.  A comment ends with its
line. -/
def skipLines : Nat → Chars → Option Chars
  | 0, cs => some cs
  | fuel + 1, cs =>
    match skipBlanks cs with
    | [] => some []
    | '#' :: rest => (readBreak (rest.dropWhile isPlain)).bind (skipLines fuel)
    | rest =>
      match readBreak rest with
      | some rest => skipLines fuel rest
      | none => some rest

/-! ### Texts -/

/-- The character with a code, if it is one. -/
def charOfCode (code : Nat) : Option Char :=
  if h : code.isValidChar then some (Char.ofNatAux code h) else none

/-- The number that digits to base sixteen spell, if they are digits. -/
def hexNumber (cs : List Char) : Option Nat :=
  if cs.all (isDigitTo 16) then some (cs.foldl (fun n c => 16 * n + digitValue c) 0) else none

/-- What a backslash and a letter stand for. -/
def shortEscape : Char → Option Char
  | 'b' => some '\x08'
  | 't' => some '\t'
  | 'n' => some '\n'
  | 'f' => some '\x0c'
  | 'r' => some '\r'
  | '"' => some '"'
  | '\\' => some '\\'
  | _ => none

/-- Puts a character in front of a text that was read. -/
def prepend (c : Char) (answer : Option (List Char × Chars)) : Option (List Char × Chars) :=
  answer.map fun (text, rest) => (c :: text, rest)

/-- Puts the character with a code in front of a text that was read. -/
def prependCode (digits : List Char) (answer : Option (List Char × Chars)) :
    Option (List Char × Chars) :=
  ((hexNumber digits).bind charOfCode).bind fun c => prepend c answer

/-- A text on one line with escapes, after its opening quote. -/
def readBasic : Chars → Option (List Char × Chars)
  | [] => none
  | '"' :: rest => some ([], rest)
  | '\\' :: 'u' :: a :: b :: c :: d :: rest => prependCode [a, b, c, d] (readBasic rest)
  | '\\' :: 'U' :: a :: b :: c :: d :: e :: f :: g :: h :: rest =>
    prependCode [a, b, c, d, e, f, g, h] (readBasic rest)
  | '\\' :: c :: rest => (shortEscape c).bind fun e => prepend e (readBasic rest)
  | c :: rest => if isPlain c && c ≠ '\\' then prepend c (readBasic rest) else none

/-- A text on one line without escapes, after its opening quote. -/
def readLiteral : Chars → Option (List Char × Chars)
  | [] => none
  | '\'' :: rest => some ([], rest)
  | c :: rest => if isPlain c then prepend c (readLiteral rest) else none

/-- The place of a reader in a text over several lines. -/
inductive LongPlace where
  | inText
  /-- After a backslash, before the break that it escapes. -/
  | beforeBreak
  /-- After an escaped break, where blanks and breaks are passed over. -/
  | afterBreak
  deriving DecidableEq

/-- A text over several lines with escapes, after its opening quotes.  Up to two quotes may
stand before the closing ones. -/
def readLongBasic : LongPlace → Chars → Option (List Char × Chars)
  | _, [] => none
  | .inText, '\n' :: rest => prepend '\n' (readLongBasic .inText rest)
  | .inText, '\r' :: '\n' :: rest => prepend '\n' (readLongBasic .inText rest)
  | _, '\n' :: rest => readLongBasic .afterBreak rest
  | _, '\r' :: '\n' :: rest => readLongBasic .afterBreak rest
  | .beforeBreak, c :: rest => if isBlank c then readLongBasic .beforeBreak rest else none
  | .inText, ' ' :: rest => prepend ' ' (readLongBasic .inText rest)
  | .inText, '\t' :: rest => prepend '\t' (readLongBasic .inText rest)
  | .afterBreak, ' ' :: rest => readLongBasic .afterBreak rest
  | .afterBreak, '\t' :: rest => readLongBasic .afterBreak rest
  | _, '"' :: '"' :: '"' :: '"' :: '"' :: rest => some (['"', '"'], rest)
  | _, '"' :: '"' :: '"' :: '"' :: rest => some (['"'], rest)
  | _, '"' :: '"' :: '"' :: rest => some ([], rest)
  | _, '\\' :: 'u' :: a :: b :: c :: d :: rest =>
    prependCode [a, b, c, d] (readLongBasic .inText rest)
  | _, '\\' :: 'U' :: a :: b :: c :: d :: e :: f :: g :: h :: rest =>
    prependCode [a, b, c, d, e, f, g, h] (readLongBasic .inText rest)
  | _, '\\' :: c :: rest =>
    match shortEscape c with
    | some e => prepend e (readLongBasic .inText rest)
    | none => if isBlank c || c = '\n' || c = '\r' then readLongBasic .beforeBreak (c :: rest)
      else none
  | _, c :: rest => if isPlain c && c ≠ '\\' then prepend c (readLongBasic .inText rest) else none

/-- A text over several lines without escapes, after its opening quotes. -/
def readLongLiteral : Chars → Option (List Char × Chars)
  | [] => none
  | '\n' :: rest => prepend '\n' (readLongLiteral rest)
  | '\r' :: '\n' :: rest => prepend '\n' (readLongLiteral rest)
  | '\'' :: '\'' :: '\'' :: '\'' :: '\'' :: rest => some (['\'', '\''], rest)
  | '\'' :: '\'' :: '\'' :: '\'' :: rest => some (['\''], rest)
  | '\'' :: '\'' :: '\'' :: rest => some ([], rest)
  | c :: rest => if isPlain c then prepend c (readLongLiteral rest) else none

/-- The characters after a line break that follows opening quotes. -/
def skipFirstBreak (cs : Chars) : Chars := (readBreak cs).getD cs

/-- A text on one line, with either quote. -/
def readLineText : Chars → Option (List Char × Chars)
  | '"' :: rest => readBasic rest
  | '\'' :: rest => readLiteral rest
  | _ => none

/-- A text of any of the four kinds. -/
def readAnyText : Chars → Option (List Char × Chars)
  | '"' :: '"' :: '"' :: rest => readLongBasic .inText (skipFirstBreak rest)
  | '\'' :: '\'' :: '\'' :: rest => readLongLiteral (skipFirstBreak rest)
  | cs => readLineText cs

/-! ### Numbers -/

/-- Digits to a base, with single underscores between them. -/
def readDigits (base : Nat) : Chars → List Char × Chars
  | '_' :: c :: rest =>
    if isDigitTo base c then
      let (digits, rest) := readDigits base rest
      (c :: digits, rest)
    else ([], '_' :: c :: rest)
  | c :: rest =>
    if isDigitTo base c then
      let (digits, rest) := readDigits base rest
      (c :: digits, rest)
    else ([], c :: rest)
  | [] => ([], [])

/-- A first digit to a base and those that follow. -/
def readSomeDigits (base : Nat) : Chars → Option (List Char × Chars)
  | c :: rest =>
    if isDigitTo base c then
      let (digits, rest) := readDigits base rest
      some (c :: digits, rest)
    else none
  | [] => none

/-- The number that digits spell to a base. -/
def digitsNumber (base : Nat) (digits : List Char) : Nat :=
  digits.foldl (fun n c => base * n + digitValue c) 0

/-- A sign, if there is one: whether it is a minus. -/
def readSign : Chars → Bool × Chars
  | '+' :: rest => (false, rest)
  | '-' :: rest => (true, rest)
  | cs => (false, cs)

/-- Digits of a whole number, which begin with zero only if that is all. -/
def readWhole : Chars → Option (List Char × Chars)
  | '0' :: rest => some (['0'], rest)
  | cs => readSomeDigits 10 cs

/-- A whole number of sixty-four signed bits. -/
def inRange (i : Int) : Option Int :=
  if -0x8000000000000000 ≤ i ∧ i < 0x8000000000000000 then some i else none

/-- A whole number, to base ten with a sign or to another base behind its mark. -/
def readInteger : Chars → Option (Int × Chars)
  | '0' :: 'x' :: rest => marked 16 rest
  | '0' :: 'o' :: rest => marked 8 rest
  | '0' :: 'b' :: rest => marked 2 rest
  | cs => do
    let (negative, rest) := readSign cs
    let (digits, rest) ← readWhole rest
    let n : Int := digitsNumber 10 digits
    let i ← inRange (if negative then -n else n)
    some (i, rest)
where
  /-- Digits behind the mark of a base. -/
  marked (base : Nat) (cs : Chars) : Option (Int × Chars) := do
    let (digits, rest) ← readSomeDigits base cs
    let i ← inRange (digitsNumber base digits)
    some (i, rest)

/-- The least value that is too large for a binary64 number. -/
def tooLarge : Nat := Nat.pow 2 1024 - Nat.pow 2 970

/-- Whether digits with an exponent of ten are too large for a binary64 number. -/
def overflows (digits : List Char) (exponent : Int) : Bool :=
  let significant := digits.dropWhile (· = '0')
  let size : Int := significant.length + exponent
  if significant.isEmpty then false
  else if 310 < size then true
  else if size < 308 then false
  else if 0 ≤ exponent then
    decide (tooLarge ≤ digitsNumber 10 significant * Nat.pow 10 exponent.toNat)
  else decide (tooLarge * Nat.pow 10 (-exponent).toNat ≤ digitsNumber 10 significant)

/-- The digits after a point, if there is one. -/
def readFraction : Chars → Option (Option (List Char) × Chars)
  | '.' :: rest => (readSomeDigits 10 rest).map fun (digits, rest) => (some digits, rest)
  | cs => some (none, cs)

/-- The exponent after its letter, if there is one. -/
def readExponent (cs : Chars) : Option (Option Int × Chars) :=
  let number (rest : Chars) : Option (Option Int × Chars) := do
    let (negative, rest) := readSign rest
    let (digits, rest) ← readSomeDigits 10 rest
    let n : Int := digitsNumber 10 digits
    some (some (if negative then -n else n), rest)
  match cs with
  | 'e' :: rest => number rest
  | 'E' :: rest => number rest
  | cs => some (none, cs)

/-- A number with a fraction or an exponent, or one of the words for what is no number.  A
positive number has to be in range. -/
def readReal (cs : Chars) : Option Chars :=
  let (negative, unsigned) := readSign cs
  match unsigned with
  | 'i' :: 'n' :: 'f' :: rest => some rest
  | 'n' :: 'a' :: 'n' :: rest => some rest
  | _ => do
    let (whole, rest) ← readWhole unsigned
    let (fraction, rest) ← readFraction rest
    let (exponent, rest) ← readExponent rest
    if fraction.isNone && exponent.isNone then none
    else
      let places := fraction.getD []
      let scale := exponent.getD 0 - places.length
      if !negative && overflows (whole ++ places) scale then none else some rest

/-! ### Dates and times -/

/-- Two digits within bounds. -/
def readTwo (low high : Nat) : Chars → Option (Nat × Chars)
  | a :: b :: rest =>
    let n := 10 * digitValue a + digitValue b
    if isDigit a && isDigit b && decide (low ≤ n ∧ n ≤ high) then some (n, rest) else none
  | _ => none

/-- A given character. -/
def readChar (c : Char) : Chars → Option Chars
  | d :: rest => if d = c then some rest else none
  | [] => none

/-- The count of days of a month. -/
def monthDays (year month : Nat) : Nat :=
  if month = 2 then
    if year % 4 = 0 ∧ (year % 100 ≠ 0 ∨ year % 400 = 0) then 29 else 28
  else if month = 4 ∨ month = 6 ∨ month = 9 ∨ month = 11 then 30
  else 31

/-- A date. -/
def readDate (cs : Chars) : Option Chars := do
  let (century, rest) ← readTwo 0 99 cs
  let (year, rest) ← readTwo 0 99 rest
  let rest ← readChar '-' rest
  let (month, rest) ← readTwo 1 12 rest
  let rest ← readChar '-' rest
  let (_, rest) ← readTwo 1 (monthDays (100 * century + year) month) rest
  some rest

/-- Parts of a second, if there are any. -/
def skipSecondParts : Chars → Chars
  | '.' :: c :: rest => if isDigit c then rest.dropWhile isDigit else '.' :: c :: rest
  | cs => cs

/-- A time of day. -/
def readTime (cs : Chars) : Option Chars := do
  let (_, rest) ← readTwo 0 23 cs
  let rest ← readChar ':' rest
  let (_, rest) ← readTwo 0 59 rest
  let rest ← readChar ':' rest
  let (_, rest) ← readTwo 0 60 rest
  some (skipSecondParts rest)

/-- An offset from universal time, if there is one. -/
def skipOffset (cs : Chars) : Option Chars :=
  let signed (rest : Chars) : Option Chars := do
    let (_, rest) ← readTwo 0 23 rest
    let rest ← readChar ':' rest
    let (_, rest) ← readTwo 0 59 rest
    some rest
  match cs with
  | 'Z' :: rest => some rest
  | 'z' :: rest => some rest
  | '+' :: rest => signed rest
  | '-' :: rest => signed rest
  | cs => some cs

/-- What may follow a date: a time with an offset. -/
def skipTimeOfDate (cs : Chars) : Option Chars :=
  match cs with
  | [] => some []
  | c :: rest =>
    if c = 'T' || c = 't' || c = ' ' then
      match readTime rest with
      | some rest => skipOffset rest
      | none => some cs
    else some cs

/-- A date, a time, or both. -/
def readMoment (cs : Chars) : Option Chars :=
  match readDate cs with
  | some rest => skipTimeOfDate rest
  | none => readTime cs

end RestorePlugins.Toml
