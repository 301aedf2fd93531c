import RestorePlugins.Text.Ranges

namespace RestorePlugins

/-!
# White space

* `isWhiteSpace` — the characters with this property.
* `trim` — a text without white space at its ends.
-/

/-- Code points of white space, in ascending ranges. -/
def whiteSpace : Array (Nat × Nat) := #[
  (0x9, 0xd), (0x20, 0x20), (0x85, 0x85), (0xa0, 0xa0), (0x1680, 0x1680), (0x2000, 0x200a),
  (0x2028, 0x2029), (0x202f, 0x202f), (0x205f, 0x205f), (0x3000, 0x3000)]

/-- Whether a character is white space. -/
def isWhiteSpace (c : Char) : Bool := inRanges whiteSpace c

/-- A text without white space at its ends. -/
def trim (s : String) : String :=
  String.ofList ((s.toList.dropWhile isWhiteSpace).reverse.dropWhile isWhiteSpace).reverse

end RestorePlugins
