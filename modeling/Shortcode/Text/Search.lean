/-!
# Searching and splitting

Texts are lists of characters, so an offset counts code points and a search works on what is left
of the text.
-/

namespace Shortcode.Text

/-- What follows `lead`, if the text starts with it. -/
def dropLead? : (lead text : List Char) → Option (List Char)
  | [], text => some text
  | _ :: _, [] => none
  | expected :: lead, char :: text => if expected == char then dropLead? lead text else none

/-- The text before the first occurrence of `part` and the text after it. -/
def splitAt? (part : List Char) : (text : List Char) → Option (List Char × List Char)
  | [] => if part.isEmpty then some ([], []) else none
  | char :: rest =>
    match dropLead? part (char :: rest) with
    | some after => some ([], after)
    | none => (splitAt? part rest).map fun (before, after) => (char :: before, after)

/-- The text before the last occurrence of `mark` and the text after it. -/
def splitAtLast? (mark : Char) : (text : List Char) → Option (List Char × List Char)
  | [] => none
  | char :: rest =>
    match splitAtLast? mark rest with
    | some (before, after) => some (char :: before, after)
    | none => if char == mark then some ([], rest) else none

/-- The parts of a text between occurrences of `mark`: one more than there are marks. -/
def fields (mark : Char) : (text : List Char) → List (List Char)
  | [] => [[]]
  | char :: rest =>
    if char == mark then [] :: fields mark rest
    else match fields mark rest with
      | [] => [[char]]
      | field :: others => (char :: field) :: others

/-- The number of line ends in a text. -/
def lineEnds (text : List Char) : Nat := text.count '\n'

/-- The line of an offset, counted from one.  A negative offset counts from the end. -/
def lineAt (text : List Char) (offset : Int) : Nat :=
  let position := if offset < 0 then (text.length + offset).toNat else offset.toNat
  lineEnds (text.take position) + 1

/-- The text with every `\r\n` and every other `\r` written as `\n`. -/
def unixLines : (text : List Char) → List Char
  | [] => []
  | '\r' :: '\n' :: rest => '\n' :: unixLines rest
  | '\r' :: rest => '\n' :: unixLines rest
  | char :: rest => char :: unixLines rest

end Shortcode.Text
