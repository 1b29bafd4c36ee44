import Shortcode.Text.Range

/-!
# Blank characters

`isBlank` holds of the characters that separate words: the blanks and line ends of every script,
the four ASCII separators included, the zero-width characters not.  `trim` removes them from both
ends of a text.
-/

namespace Shortcode.Text

/-- The blanks, as ranges of code points. -/
def blankRanges : List (Nat × Nat) := [
  (0x9, 0xd), (0x1c, 0x20), (0x85, 0x85), (0xa0, 0xa0), (0x1680, 0x1680), (0x2000, 0x200a),
  (0x2028, 0x2029), (0x202f, 0x202f), (0x205f, 0x205f), (0x3000, 0x3000)]

/-- A character that separates words. -/
def isBlank (char : Char) : Bool := inRanges blankRanges char

/-- The text without the characters of a class at its end. -/
def dropEndWhile (member : Char → Bool) (text : List Char) : List Char :=
  (text.reverse.dropWhile member).reverse

/-- The text without the blanks at its start. -/
def trimStart (text : List Char) : List Char := text.dropWhile isBlank

/-- The text without the blanks at its end. -/
def trimEnd (text : List Char) : List Char := dropEndWhile isBlank text

/-- The text without the blanks at either end. -/
def trim (text : List Char) : List Char := trimEnd (trimStart text)

/-- The words of a text: its longest parts without blanks. -/
def words (text : List Char) : List (List Char) :=
  (text.splitBy fun left right => isBlank left == isBlank right).filter fun part =>
    part.any fun char => !isBlank char

end Shortcode.Text
