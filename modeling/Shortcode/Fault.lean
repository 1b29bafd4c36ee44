import Shortcode.Argument
import Shortcode.Path
import Shortcode.Value.Display

/-!
# Faults of a document

A fault is the line of the shortcode to blame and what is wrong with it.  `Problem.detail` words
the problem, `Fault.message` puts the document and the line in front.  The error that is raised for
a fault keeps this wording beside the line, and both have to follow when the line is moved.
-/

namespace Shortcode

/-- What is wrong with a shortcode. -/
inductive Problem where
  /-- The text between the delimiters has no opening parenthesis. -/
  | missingParenthesis (text : String)
  | emptyName
  | invalidName (name : String)
  | unclosedParenthesis (name : String)
  | argument (shortcode key : String) (problem : ArgumentProblem)
  /-- No end tag follows the start of a body. -/
  | unclosedBody (shortcode : String)
  /-- No template has this name. -/
  | unknown (shortcode : String) (available : List String)
  /-- The template failed. -/
  | render (shortcode message : String)
deriving DecidableEq, Repr

/-- A problem and the line of the shortcode that has it, counted from wherever the lines of the
document are counted from. -/
structure Fault where
  line : Int
  problem : Problem
deriving DecidableEq, Repr

/-- Why a document could not be read or expanded. -/
inductive Failure where
  | fault (located : Fault)
  /-- A whole number has more digits than are ever converted. -/
  | tooManyDigits (count : Nat)
deriving DecidableEq, Repr

/-- The wording of a malformed pair. -/
def ArgumentProblem.detail (shortcode key : String) : ArgumentProblem → String
  | .missingName => s!"expected argument name in shortcode `{shortcode}`"
  | .missingEquals => s!"expected `=` after argument `{key}` in shortcode `{shortcode}`"
  | .missingValue => s!"missing value for argument `{key}` in shortcode `{shortcode}`"
  | .unclosedText => s!"unclosed string for argument `{key}` in shortcode `{shortcode}`"
  | .invalidValue => s!"invalid value for argument `{key}` in shortcode `{shortcode}`. " ++
      "Expected a quoted string, number, or boolean."

/-- The wording of a problem. -/
def Problem.detail : Problem → String
  | .missingParenthesis text =>
    s!"invalid shortcode syntax: `{text}`. Expected `name(args...)`"
  | .emptyName => "empty shortcode name"
  | .invalidName name =>
    s!"invalid shortcode name `{name}`. Use only alphanumeric, underscore, or hyphen."
  | .unclosedParenthesis name => s!"unclosed parenthesis in shortcode `{name}`"
  | .argument shortcode key problem => problem.detail shortcode key
  | .unclosedBody shortcode =>
    s!"unclosed body shortcode `{shortcode}`. Expected " ++ "`\x7b\x7b% end %\x7d\x7d`."
  | .unknown shortcode available =>
    let listing := if available.isEmpty then "(none)" else ", ".intercalate available
    s!"unknown shortcode `{shortcode}`. Available: {listing}"
  | .render shortcode message => s!"rendering shortcode `{shortcode}`: {message}"

/-- The problem behind the file and the line. -/
def Fault.message (path : String) (fault : Fault) : String :=
  s!"{path}:{fault.line}: {fault.problem.detail}"

/-- The wording of a failure. -/
def Failure.message (path : String) : Failure → String
  | .fault located => located.message path
  | .tooManyDigits count => digitLimitMessage count

/-- An error that is raised for a document: the document, the line and the problem of the shortcode
to blame, and the text that the error shows. -/
structure ShortcodeError where
  path : Path
  line : Int
  problem : Problem
  text : String
deriving DecidableEq, Repr

/-- The error that is raised for a fault of a document. -/
def Fault.raised (path : Path) (fault : Fault) : ShortcodeError :=
  ⟨path, fault.line, fault.problem, fault.message path.toString⟩

/-- The error with its line moved on by `count`, and its text made anew. -/
def ShortcodeError.shift (count : Nat) (error : ShortcodeError) : ShortcodeError :=
  if count = 0 then error
  else
    let line := error.line + count
    { error with line, text := s!"{error.path.toString}:{line}: {error.problem.detail}" }

end Shortcode
