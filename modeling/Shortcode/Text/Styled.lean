/-!
# Styled text

A text for a terminal may hold escape sequences that set colours.  `styled` puts them around a text,
and `withoutStyles` takes every such sequence away.
-/

namespace Shortcode.Text

/-- A style of a text on a terminal. -/
inductive Style where
  | red
  | yellow
  | cyan
  | white
  | bold
deriving DecidableEq, Repr

/-- The number of a style. -/
def Style.code : Style → Nat
  | .red => 31
  | .yellow => 33
  | .cyan => 36
  | .white => 37
  | .bold => 1

/-- The sequence that sets the style of a number; zero takes every style back. -/
def styleSequence (code : Nat) : String := s!"\x1b[{code}m"

/-- A text in styles. -/
def styled (styles : List Style) (text : String) : String :=
  String.join (styles.map fun style => styleSequence style.code) ++ text ++ styleSequence 0

/-- A character between the bracket and the last letter of an escape sequence. -/
def isSequenceChar (char : Char) : Bool := char.isDigit || char == ';' || char == '?'

/-- The number of characters of the escape sequence that a text starts with. -/
def sequenceLength? (text : List Char) : Option Nat :=
  match text with
  | '\x1b' :: '[' :: rest =>
    let inner := (rest.takeWhile isSequenceChar).length
    match rest[inner]? with
    | some last => if last.isAlpha then some (inner + 3) else none
    | none => none
  | _ => none

/-- The text without its escape sequences; `skipped` characters still belong to one. -/
def withoutStylesFrom : (skipped : Nat) → (text : List Char) → List Char
  | _, [] => []
  | skipped + 1, _ :: rest => withoutStylesFrom skipped rest
  | 0, char :: rest =>
    match sequenceLength? (char :: rest) with
    | some length => withoutStylesFrom (length - 1) rest
    | none => char :: withoutStylesFrom 0 rest

/-- The text without its escape sequences. -/
def withoutStyles (text : String) : String :=
  String.ofList (withoutStylesFrom 0 text.toList)

end Shortcode.Text
