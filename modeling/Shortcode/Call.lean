import Shortcode.Document.Cursor
import Shortcode.Fault

/-!
# Calls

A call is one shortcode of a document: a name, arguments, and the body if it has one.  `Call.read`
reads the text between the delimiters, `name(key=value, …)`.
-/

namespace Shortcode

/-- The name and the arguments of a call. -/
structure Head where
  name : String
  arguments : Arguments

/-- A shortcode of a document. -/
structure Call extends Head where
  /-- How it is written. -/
  shape : Shape
  /-- The text up to the end tag, without the blanks around it. -/
  body : Option String
  /-- The offset of the first character of the opening delimiter. -/
  start : Nat
  /-- The offset behind the last delimiter. -/
  stop : Nat
  /-- The line of the opening delimiter. -/
  line : Nat

namespace Head

/-- A character of a name. -/
def isNameChar (char : Char) : Bool := char.isAlphanum || char == '_' || char == '-'

/-- The failure of a call on a line. -/
def failure (line : Int) (problem : Problem) : Failure := .fault ⟨line, problem⟩

/-- The arguments between the parentheses. -/
def readArguments (name : String) (line : Int) (text : List Char) : Except Failure Arguments :=
  match Arguments.read text with
  | .ok arguments => .ok arguments
  | .error (.malformed key problem) => .error (failure line (.argument name key problem))
  | .error (.tooManyDigits count) => .error (.tooManyDigits count)

/-- The name of a call, from the text before the parenthesis. -/
def readName (line : Int) (text : List Char) : Except Failure String :=
  let name := Text.trim text
  if name.isEmpty then .error (failure line .emptyName)
  else if !name.all isNameChar then
    .error (failure line (.invalidName (String.ofList name)))
  else .ok (String.ofList name)

/-- Reads `name(key=value, …)`.  What follows the last closing parenthesis is passed over. -/
def read (line : Int) (text : List Char) : Except Failure Head := do
  let some (nameText, rest) := Text.splitAt? ['('] text
    | throw (failure line (.missingParenthesis (String.ofList text)))
  let name ← readName line nameText
  let some (argumentText, _) := Text.splitAtLast? ')' rest
    | throw (failure line (.unclosedParenthesis name))
  let arguments ← readArguments name line (Text.trim argumentText)
  return ⟨name, arguments⟩

end Head

end Shortcode
