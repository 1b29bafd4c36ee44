import Shortcode.Document.Cursor
import Shortcode.Text.Blank

/-!
# Tags

A tag starts with an opening delimiter and ends with its closer on the same line.  The tag whose
text is `end` closes the body of a shortcode; the first one does, whatever stands before it.
-/

namespace Shortcode

/-- The text up to the first closer and what follows the closer, if both are on this line.  An
empty closer stands everywhere. -/
def splitAtCloser? (closer : List Char) : (text : List Char) → Option (List Char × List Char)
  | [] => if closer.isEmpty then some ([], []) else none
  | char :: rest =>
    match Text.dropLead? closer (char :: rest) with
    | some after => some ([], after)
    | none =>
      if char == '\n' then none
      else (splitAtCloser? closer rest).map fun (before, after) => (char :: before, after)

/-- The text inside a tag, without the blanks around it, that closes a body. -/
def endWord : List Char := ['e', 'n', 'd']

/-- The number of characters of the end tag at the start of the text. -/
def endTag? (text : List Char) : Option Nat :=
  match Text.dropLead? Shape.body.opener text with
  | none => none
  | some inner =>
    match splitAtCloser? Shape.body.closer inner with
    | none => none
    | some (content, _) =>
      if Text.trim content == endWord then some (content.length + 6) else none

/-- Where the first end tag starts and where it stops. -/
def findEndTag? (text : List Char) : Option (Nat × Nat) :=
  match endTag? text with
  | some length => some (0, length)
  | none =>
    match text with
    | [] => none
    | _ :: rest => (findEndTag? rest).map fun (start, stop) => (start + 1, stop + 1)

end Shortcode
