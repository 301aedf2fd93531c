import RestorePlugins.Text.CharacterWidth
import RestorePlugins.Text.Emoji

namespace RestorePlugins

/-!
# How many columns a text takes

The width of a text is the sum of the widths of its characters, except that

* a carriage return takes no column before a line feed;
* a picture of several characters takes two columns: pictures with joiners between them, a person
  with a skin tone, and a character that a selector turns into a picture;
* a picture that a selector turns into text takes one column;
* an Arabic lam with an alef after it takes one column together with the alef.

So a text is read from its end, and each character looks at `Following`.

* `widthBefore` — the columns of one character before what follows.
* `displayWidth` — the columns of a text.
-/

/-- What follows a character, as far as the character's width depends on it. -/
inductive Following where
  | plain
  | lineFeed
  /-- A picture begins here. -/
  | picture
  /-- A joiner stands before a picture. -/
  | joined
  /-- A skin tone. -/
  | skinTone
  /-- A selector of the form as a picture, with a joined picture after it or without. -/
  | asPicture (joined : Bool)
  /-- A selector of the form as text. -/
  | asText
  | alef
  deriving DecidableEq, Repr

/-- Arabic letters of the group of lam. -/
def lams : Array (Nat × Nat) := #[
  (0x644, 0x644), (0x6b5, 0x6b8), (0x76a, 0x76a), (0x8a6, 0x8a6), (0x8c7, 0x8c7)]

/-- Arabic letters of the group of alef. -/
def alefs : Array (Nat × Nat) := #[
  (0x622, 0x623), (0x625, 0x625), (0x627, 0x627), (0x671, 0x673), (0x675, 0x675), (0x773, 0x774),
  (0x870, 0x882)]

/-- The character that joins pictures. -/
def joiner : Char := '\u200d'

/-- The selector of the form as a picture. -/
def pictureSelector : Char := '\ufe0f'

/-- The selector of the form as text. -/
def textSelector : Char := '\ufe0e'

/-- Whether a mark leaves a lam and an alef together. -/
def leavesTogether (c : Char) : Bool :=
  charWidth c == 0 && c ≠ joiner && c ≠ '\u200c'

/-- Whether a picture has a form as text that is narrower. -/
def hasTextForm (c : Char) : Bool := isPicture c && !(0x1f200 ≤ c.toNat && c.toNat ≤ 0x1f2ff)

/-- The columns of a character that does not depend on what follows, and what it is to the
character before it. -/
def widthAlone (c : Char) : Nat × Following :=
  let follows : Following :=
    if c = '\n' then .lineFeed
    else if c = pictureSelector then .asPicture false
    else if c = textSelector then .asText
    else if isSkinTone c then .skinTone
    else if isPicture c then .picture
    else if inRanges alefs c then .alef
    else .plain
  (charWidth c, follows)

/-- A character before a joined picture. -/
def widthJoined (c : Char) : Nat × Following :=
  if c = pictureSelector then (0, .asPicture true)
  else if isSkinTone c then (0, .skinTone)
  else if isPicture c then (0, .picture)
  else widthAlone c

/-- The columns of a character before what follows, and what it is to the one before it. -/
def widthBefore (c : Char) : Following → Nat × Following
  | .plain => widthAlone c
  | .lineFeed => if c = '\r' then (0, .plain) else widthAlone c
  | .picture => if c = joiner then (0, .joined) else widthAlone c
  | .joined => widthJoined c
  | .skinTone =>
    if c = joiner then (0, .joined) else if isPerson c then (0, .picture) else widthAlone c
  | .asPicture joined =>
    if isEmoji c then (if joined then 0 else 2, .picture)
    else if joined then widthJoined c else widthAlone c
  | .asText => if hasTextForm c then (1, .plain) else widthAlone c
  | .alef =>
    if inRanges lams c then (0, .plain)
    else if leavesTogether c then (0, .alef)
    else widthAlone c

/-- The columns of a text, and what it is to a character before it. -/
def widthFrom : List Char → Nat × Following
  | [] => (0, .plain)
  | c :: rest =>
    let (columns, following) := widthFrom rest
    let (own, follows) := widthBefore c following
    (own + columns, follows)

/-- The columns that a text takes. -/
def displayWidth (s : String) : Nat := (widthFrom s.toList).1

end RestorePlugins
