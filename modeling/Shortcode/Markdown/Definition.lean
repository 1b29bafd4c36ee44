import Shortcode.Markdown.Destination

/-!
# Definitions

A line may define where the links of a label lead, or what the note of a label says.  A definition
may go on in the lines behind it.
-/

namespace Shortcode.Markdown

/-- The text behind the bracket that opens a label. -/
def openedLabel? (most : Nat) (text : List Char) : Option (List Char) :=
  (indented? most text).bind (Text.dropLead? ['['])

/-- The label of links that lines start to define, and what follows the colon. -/
def linkLabel? (lines : List Line) : Option (List Char × List Char) := do
  match labelAt? (← openedLabel? 3 (textOf lines)) with
  | some (label, ':' :: behind) => some (label, behind)
  | _ => none

/-- The definitions with a link more, and the lines behind it.  A label has a sign that is no
blank. -/
def linkDefinition? (definitions : Definitions) (lines : List Line) :
    Option (Definitions × List Line) := do
  let (label, behind) ← linkLabel? lines
  if (Text.trim label).isEmpty then none
  let (target, rest) ← definedTarget? behind
  return (definitions.withLink label target, linesOf rest)

/-- The further lines of a note, which are indented more than its first one. -/
def noteLines (indent : Nat) : (lines : List Line) → List Line × List Line
  | [] => ([], [])
  | line :: rest =>
    let deeper := indentOf line - indent
    if line.isEmpty || (1 ≤ deeper && deeper ≤ 4) then
      let (inner, behind) := noteLines indent rest
      (line :: inner, behind)
    else ([], line :: rest)

/-- The definitions with a note more, and the lines behind it.  The words of a note start on the
line of its label or on the next one. -/
def noteDefinition? (definitions : Definitions) (lines : List Line) :
    Option (Definitions × List Line) := do
  let first ← lines.head?
  let inner ← (openedLabel? 4 first).bind (Text.dropLead? ['^'])
  let (label, behind) ← noteLabelAt? inner
  let words ← Text.dropLead? [':'] behind
  let note (words : Line) (rest : List Line) : Definitions × List Line :=
    let (inner, behind) := noteLines (indentOf first) rest
    (definitions.withNote label (textOf (words :: inner)), behind)
  match words, lines.drop 1 with
  | gap :: words, rest => if isGap gap then some (note words rest) else none
  | [], words :: rest => some (note words rest)
  | [], [] => some (note [] [])

end Shortcode.Markdown
