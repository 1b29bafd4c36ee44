import Shortcode.Text.CharacterName.Table
import Shortcode.Text.Numeral
import Shortcode.Text.Range

/-!
# Names of characters

A character is found by its name, in either case.  The names of most characters stand in a table;
an ideograph is named by its number and a Hangul syllable by its sounds, both in capitals.
-/

namespace Shortcode.Text

/-! ## The table -/

/-- The words of a name of the table, behind the words of the name before. -/
def unpackWords (before : List String) (packed : List Char) : List String :=
  match packed with
  | [] => []
  | digit :: own =>
    before.take (digit.toNat - '0'.toNat) ++ (String.ofList own).splitOn " "

/-- The code of the name with some words among the names of a table, which follow a name. -/
def codeNamed? (words before : List String) : (packed : List (String × Nat)) → Option Nat
  | [] => none
  | (name, code) :: rest =>
    let found := unpackWords before name.toList
    if found == words then some code else codeNamed? words found rest

/-- The names of rows, each with its code. -/
def packedNames (rows : List (Nat × String)) : List (String × Nat) :=
  rows.flatMap fun (first, row) => (row.splitOn ",").zipIdx first

/-- The tables, each of which starts afresh. -/
def nameTables : List (List (Nat × String)) :=
  [latinNames, europeanNames, asianNames, punctuationNames, technicalNames, ornamentNames,
    operatorNames, wideNames, pictureNames, furtherPictureNames, furtherNames]

/-! ## Ideographs and syllables -/

/-- The ideographs that are named by their numbers. -/
def ideographRanges : List (Nat × Nat) :=
  [(0x3400, 0x4dbf), (0x4e00, 0x9fff), (0x20000, 0x2a6df), (0x2a700, 0x2b738),
    (0x2b740, 0x2b81d), (0x2b820, 0x2cea1), (0x2ceb0, 0x2ebe0), (0x30000, 0x3134a)]

/-- The ideograph of a number in capital hexadecimal digits. -/
def ideographNumbered? (digits : List Char) : Option Char :=
  if digits.any Char.isLower then none
  else if digits.length == 4 || digits.length == 5 then
    ((hexNumber? digits.length digits).map Char.ofNat).filter (inRanges ideographRanges)
  else none

/-- The sounds that a Hangul syllable starts with, in order. -/
def leadingSounds : List String :=
  ["G", "GG", "N", "D", "DD", "R", "M", "B", "BB", "S", "SS", "", "J", "JJ", "C", "K", "T", "P",
    "H"]

/-- The vowels of Hangul syllables, in order. -/
def vowelSounds : List String :=
  ["A", "AE", "YA", "YAE", "EO", "E", "YEO", "YE", "O", "WA", "WAE", "OE", "YO", "U", "WEO", "WE",
    "WI", "YU", "EU", "YI", "I"]

/-- The sounds that a Hangul syllable ends with, in order. -/
def trailingSounds : List String :=
  ["", "G", "GG", "GS", "N", "NJ", "NH", "D", "L", "LG", "LM", "LB", "LS", "LT", "LP", "LH", "M",
    "B", "BS", "S", "SS", "NG", "J", "C", "K", "T", "P", "H"]

/-- The longest of some sounds that a text starts with: its place, and the rest of the text. -/
def longestSound? (sounds : List String) (text : List Char) : Option (Nat × List Char) :=
  let fitting := sounds.zipIdx.filter fun (sound, _) => sound.toList.isPrefixOf text
  let longest := fitting.foldl (fun best (sound, place) =>
    if best.any fun (other, _) => sound.length ≤ other.length then best
    else some (sound, place)) (none : Option (String × Nat))
  longest.map fun (sound, place) => (place, text.drop sound.length)

/-- The Hangul syllable of some sounds. -/
def syllableOf? (sounds : List Char) : Option Char := do
  let (leading, rest) ← longestSound? leadingSounds sounds
  let (vowel, rest) ← longestSound? vowelSounds rest
  let (trailing, rest) ← longestSound? trailingSounds rest
  if rest.isEmpty then return Char.ofNat (0xac00 + (leading * 21 + vowel) * 28 + trailing)
  else none

/-! ## Any character -/

/-- What follows a text, if it starts with it. -/
def after? (start : String) (text : List Char) : Option (List Char) :=
  if start.toList.isPrefixOf text then some (text.drop start.length) else none

/-- The character of a name. -/
def characterNamed? (name : List Char) : Option Char :=
  match after? "CJK UNIFIED IDEOGRAPH-" name, after? "HANGUL SYLLABLE " name with
  | some digits, _ => ideographNumbered? digits
  | _, some sounds => syllableOf? sounds
  | _, _ =>
    let words := (String.ofList (name.map Char.toUpper)).splitOn " "
    (nameTables.findSome? fun table => codeNamed? words [] (packedNames table)).map Char.ofNat

end Shortcode.Text
