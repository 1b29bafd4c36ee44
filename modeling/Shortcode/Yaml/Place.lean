import Shortcode.Text.Search

/-!
# Places in a YAML text

Indentation decides what belongs together, so a place in the text knows its line and its column.
`forward` moves on and keeps both right: every line end starts a new line, and a `\r\n` is one.
-/

namespace Shortcode.Yaml

/-- A character that ends a line. -/
def isBreak (char : Char) : Bool :=
  char == '\r' || char == '\n' || char == '\x85' || char == '\u2028' || char == '\u2029'

/-- A character that ends a word. -/
def isSpace (char : Char) : Bool := char == ' ' || char == '\t' || isBreak char

/-- A character that a YAML text may hold. -/
def isAllowed (char : Char) : Bool :=
  let code := char.toNat
  code == 0x9 || code == 0xa || code == 0xd || (0x20 ≤ code && code ≤ 0x7e) || code == 0x85 ||
    (0xa0 ≤ code && code ≤ 0xd7ff) || (0xe000 ≤ code && code ≤ 0xfffd) || 0x10000 ≤ code

/-- A place: its offset, line and column, and the text that is left. -/
structure Place where
  rest : List Char
  offset : Nat
  line : Nat
  column : Nat

/-- The start of a text. -/
def Place.ofText (text : List Char) : Place := ⟨text, 0, 0, 0⟩

/-- Moves past one character. -/
def Place.step (place : Place) : Place :=
  match place.rest with
  | [] => place
  | char :: rest =>
    if isBreak char && !(char == '\r' && rest.head? == some '\n') then
      ⟨rest, place.offset + 1, place.line + 1, 0⟩
    else
      ⟨rest, place.offset + 1, place.line,
        if char == '\ufeff' then place.column else place.column + 1⟩

/-- Moves past `count` characters. -/
def Place.forward (place : Place) : (count : Nat) → Place
  | 0 => place
  | count + 1 => place.step.forward count

/-- The character at a distance. -/
def Place.peek? (place : Place) (distance : Nat) : Option Char := place.rest[distance]?

/-- The text ends, or a word ends, at a distance. -/
def Place.endsWord (place : Place) (distance : Nat) : Bool :=
  match place.peek? distance with
  | none => true
  | some char => isSpace char

/-- The text or the line ends here. -/
def Place.endsLine (place : Place) : Bool :=
  match place.rest with
  | [] => true
  | char :: _ => isBreak char

/-- The line end at this place and the place behind it.  The common ones are read as `\n`. -/
def Place.lineBreak? (place : Place) : Option (Char × Place) :=
  match place.rest with
  | '\r' :: '\n' :: _ => some ('\n', place.forward 2)
  | '\u2028' :: _ => some ('\u2028', place.step)
  | '\u2029' :: _ => some ('\u2029', place.step)
  | char :: _ => if isBreak char then some ('\n', place.step) else none
  | [] => none

/-- Moves past the characters of a class. -/
def Place.skipWhile (place : Place) (member : Char → Bool) : Place :=
  place.forward (place.rest.takeWhile member).length

/-- Moves past a comment, if one starts here. -/
def Place.skipComment (place : Place) : Place :=
  if place.rest.head? == some '#' then place.skipWhile fun char => !isBreak char else place

/-- The start or the end of a document is marked here. -/
def Place.atMarker (place : Place) : Bool :=
  (place.rest.take 3 == ['-', '-', '-'] || place.rest.take 3 == ['.', '.', '.']) &&
    place.endsWord 3

end Shortcode.Yaml
