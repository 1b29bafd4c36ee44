import Shortcode.Text.Blank
import Shortcode.Text.Search
import Shortcode.Yaml.Loader

/-!
# Frontmatter

A content file may start with a mapping in YAML between two fences, which are lines of three
hyphens.  `split?` finds the fences; `read` gives the mapping and the body.  A text whose
frontmatter is no mapping is all body.
-/

namespace Shortcode.Frontmatter

/-- What follows the line ends of the blanks that a text starts with, the last line end first. -/
def afterLineEnds : (text : List Char) → List (List Char)
  | [] => []
  | char :: rest =>
    if !Text.isBlank char then []
    else if char == '\n' then afterLineEnds rest ++ [rest]
    else afterLineEnds rest

/-- A fence. -/
def fence : List Char := ['-', '-', '-']

/-- What may follow a fence that a text starts with and the blank lines behind it: the longest
stretch of blank lines comes first. -/
def afterFence (text : List Char) : List (List Char) :=
  match Text.dropLead? fence text with
  | some rest => afterLineEnds rest
  | none => []

/-- The text before the first line that is a fence, and the body behind it. -/
def splitAtFence? : (text : List Char) → Option (List Char × List Char)
  | [] => none
  | char :: rest =>
    match if char == '\n' then (afterFence rest).head? else none with
    | some body => some ([], body)
    | none => (splitAtFence? rest).map fun (inner, body) => (char :: inner, body)

/-- The text between the fences and the body. -/
def split? (text : List Char) : Option (List Char × List Char) :=
  (afterFence text).findSome? splitAtFence?

/-- The mapping of a text and its body. -/
def read (loader : Yaml.Loader) (text : List Char) :
    Except PackageError (List (Value × Value) × List Char) :=
  match split? text with
  | none => .ok ([], text)
  | some (inner, body) =>
    match loader inner with
    | .error (.raised error) => .error error
    | .error (.malformed _) => .ok ([], text)
    | .ok (.map entries) => .ok (entries, body)
    | .ok other => .ok ([], if other.isTrue then text else body)

end Shortcode.Frontmatter
