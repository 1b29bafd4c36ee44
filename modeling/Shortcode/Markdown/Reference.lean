import Shortcode.Markdown.Reference.Table
import Shortcode.Text.Search

/-!
# Character references

Names and numbers that stand for characters in markup.  A reference is `&name;`, or `&#` and a
number in decimal or, behind an `x`, in hexadecimal digits.  `withoutReferences` puts the characters
in their places.
-/

namespace Shortcode.Markdown

/-! ## Numbers -/

/-- The code points that the numbers from 0x80 to 0x9f stand for. -/
def westernCodes : List Nat := [
  0x20ac, 0x81, 0x201a, 0x192, 0x201e, 0x2026, 0x2020, 0x2021, 0x2c6, 0x2030, 0x160, 0x2039, 0x152,
  0x8d, 0x17d, 0x8f, 0x90, 0x2018, 0x2019, 0x201c, 0x201d, 0x2022, 0x2013, 0x2014, 0x2dc, 0x2122,
  0x161, 0x203a, 0x153, 0x9d, 0x17e, 0x178]

/-- The number belongs to no character that a text may hold. -/
def isUnassigned (number : Nat) : Bool :=
  (number < 0x20 && !([9, 10, 12, 13].contains number)) || number == 0x7f ||
    (0xfdd0 ≤ number && number ≤ 0xfdef) || number % 0x10000 ≥ 0xfffe

/-- The characters of a number: one, or none.  A number out of range is replaced. -/
def numberedCharacters (number : Nat) : List Char :=
  if 0x80 ≤ number && number ≤ 0x9f then
    (westernCodes[number - 0x80]?.map Char.ofNat).toList
  else if number == 0 || number > 0x10ffff || (0xd800 ≤ number && number ≤ 0xdfff) then ['\ufffd']
  else if isUnassigned number then []
  else [Char.ofNat number]

/-- The number that digits stand for, if there are no others than those of the base. -/
def numberIn? (base : Nat) (digits : List Char) : Option Nat :=
  let values := digits.filterMap fun char =>
    (if char.isDigit then some (char.toNat - '0'.toNat)
      else if char.isAlpha then some (char.toLower.toNat - 'a'.toNat + 10) else none).filter
        (· < base)
  if digits.isEmpty || values.length < digits.length then none
  else some (values.foldl (base * · + ·) 0)

/-- The characters of the number behind the `#` of a reference.  A decimal number has at most seven
digits. -/
def numbered? (inner : List Char) : Option (List Char) :=
  match inner with
  | 'x' :: digits => (numberIn? 16 digits).map numberedCharacters
  | 'X' :: digits => (numberIn? 16 digits).map numberedCharacters
  | digits => if digits.length ≤ 7 then (numberIn? 10 digits).map numberedCharacters else none

/-! ## Names -/

/-- The characters of a name in a row of the table. -/
def namedIn? (name row : List Char) : Option (List Char) :=
  (Text.fields ',' row).findSome? fun entry =>
    (Text.dropLead? name entry).bind fun rest =>
      match rest with
      | ' ' :: codes =>
        some (((Text.fields '+' codes).filterMap (numberIn? 16)).map Char.ofNat)
      | _ => none

/-- The characters of a name. -/
def named? (name : List Char) : Option (List Char) :=
  [capitalReferences, smallReferences, furtherReferences].findSome? fun rows =>
    rows.findSome? fun row => namedIn? name row.toList

/-- The name needs no semicolon behind it. -/
def isBareName (name : List Char) : Bool :=
  bareReferences.any fun row => (Text.fields ',' row.toList).contains name

/-- The characters of a name behind which more follows: the longest start that needs no semicolon
counts, if it has at least two letters. -/
def namedStart? (name : List Char) : Option (List Char) :=
  ((List.range (name.length - 1)).map (name.length - ·)).findSome? fun length =>
    if isBareName (name.take length) then
      (named? (name.take length)).map (· ++ name.drop length ++ [';'])
    else none

/-! ## References in a text -/

/-- A character that no name holds. -/
def endsName (char : Char) : Bool := "\t\n\x0c <&#;".toList.contains char

/-- What the reference stands for that a text starts with behind its `&`, and the length of the
reference up to its semicolon. -/
def referenceAt? (text : List Char) : Option (List Char × Nat) :=
  let (digits, rest) : Bool × List Char := match text with
    | '#' :: rest => (true, rest)
    | _ => (false, text)
  let inner := rest.takeWhile (!endsName ·)
  if rest[inner.length]? != some ';' then none
  else if digits then (numbered? inner).map fun found => (found, inner.length + 2)
  else if inner.isEmpty || inner.length > 32 then none
  else ((named? inner).or (namedStart? inner)).map fun found => (found, inner.length + 1)

/-- The text with characters in place of references; `skipped` characters belong to one. -/
def withoutReferencesFrom : (skipped : Nat) → (text : List Char) → List Char
  | _, [] => []
  | skipped + 1, _ :: rest => withoutReferencesFrom skipped rest
  | 0, char :: rest =>
    match if char == '&' then referenceAt? rest else none with
    | some (found, length) => found ++ withoutReferencesFrom length rest
    | none => char :: withoutReferencesFrom 0 rest

/-- The text with characters in place of references. -/
def withoutReferences (text : List Char) : List Char := withoutReferencesFrom 0 text

end Shortcode.Markdown
