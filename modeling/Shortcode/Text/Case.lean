import Shortcode.Text.Case.Table
import Shortcode.Text.Range

/-!
# Upper, lower and title case

One character may map to several.  A capital sigma becomes the final form when a cased character
stands before it and none after it, case-ignorable characters aside.
-/

namespace Shortcode.Text

/-- The character that a list of runs maps a code point to. -/
def shifted? (runs : List CaseRun) (code : Nat) : Option Char :=
  (runs.find? fun run =>
    run.first ≤ code && code ≤ run.last && (code - run.first) % run.stride == 0).map fun run =>
      Char.ofNat ((code : Int) + run.shift).toNat

/-- The several characters that a list of expansions maps a code point to. -/
def expanded? (expansions : List (Nat × List Nat)) (code : Nat) : Option (List Char) :=
  (expansions.lookup code).map (·.map Char.ofNat)

/-- A character's lower-case form, wherever it stands. -/
def lowerChar (char : Char) : List Char :=
  if char.toNat < 128 then [char.toLower]
  else
    (expanded? lowerExpansions char.toNat).getD
      [(shifted? lowerRuns char.toNat).getD char]

/-- A character's upper-case form. -/
def upperChar (char : Char) : List Char :=
  if char.toNat < 128 then [char.toUpper]
  else
    (expanded? upperExpansions char.toNat).getD
      [(shifted? upperRuns char.toNat).getD char]

/-- A character's form at the head of a capitalised word. -/
def titleChar (char : Char) : List Char :=
  if char.toNat < 128 then [char.toUpper]
  else match expanded? titleExpansions char.toNat with
    | some chars => chars
    | none => match shifted? titleRuns char.toNat with
      | some title => [title]
      | none => upperChar char

/-- Whether a neighbour on this side, nearest first, is cased. -/
def meetsCased (side : List Char) : Bool :=
  match side.dropWhile (inRanges caseIgnorableRanges) with
  | [] => false
  | char :: _ => inRanges casedRanges char

/-- The lower-case form of `text`, which stands after `before` (nearest first). -/
def lowerAfter (before : List Char) : (text : List Char) → List Char
  | [] => []
  | char :: rest =>
    let form :=
      if char == 'Σ' then
        if meetsCased before && !meetsCased rest then ['ς'] else ['σ']
      else lowerChar char
    form ++ lowerAfter (char :: before) rest

/-- The text in lower case. -/
def lower (text : List Char) : List Char := lowerAfter [] text

/-- The text in upper case. -/
def upper (text : List Char) : List Char := text.flatMap upperChar

/-- The word with its first character in title case and the others in lower case. -/
def capitalize : (word : List Char) → List Char
  | [] => []
  | char :: rest => titleChar char ++ lowerAfter [char] rest

end Shortcode.Text
