import Shortcode.Markdown.Markup

/-!
# Lines of a Markdown text

What a line may start: a heading, a rule, code, a quotation, a list, markup.  Up to three blanks may
stand before any of these; four make a line of code.
-/

namespace Shortcode.Markdown

/-- A line without its end. -/
abbrev Line := List Char

/-- The lines of a text. -/
def linesOf (text : List Char) : List Line :=
  let lines := Text.fields '\n' text
  if lines.getLast? == some [] then lines.dropLast else lines

/-- The text of lines, each with its end. -/
def textOf (lines : List Line) : List Char := lines.flatMap (· ++ ['\n'])

/-- The number of blanks that a line starts with. -/
def indentOf (line : Line) : Nat := (line.takeWhile (· == ' ')).length

/-- The line without its indentation, if that has at most `most` blanks. -/
def indented? (most : Nat) (line : Line) : Option Line :=
  if indentOf line ≤ most then some (line.dropWhile (· == ' ')) else none

/-- Nothing stands in the line. -/
def isBlankLine (line : Line) : Bool :=
  line.all fun char => char == ' ' || char == '\t' || char == '\x0b' || char == '\x0c'

/-- Blanks around the words of a block, which do not count. -/
def isEdge (char : Char) : Bool :=
  char == ' ' || char == '\n' || char == '\t' || char == '\r' || char == '\x0c'

/-- A blank or a tab. -/
def isGap (char : Char) : Bool := char == ' ' || char == '\t'

/-- Blanks and tabs only. -/
def isGapOnly (text : List Char) : Bool := text.all isGap

/-- The text without blanks and tabs at its end. -/
def withoutGap (text : List Char) : List Char := Text.dropEndWhile isGap text

/-- The line with blanks for a tab that it starts with, up to a width. -/
def spreadTab (width : Nat) (line : Line) : Line :=
  let indent := indentOf line
  let rest := line.drop indent
  if indent ≤ 3 && rest.head? == some '\t' then
    List.replicate (max width indent) ' ' ++ rest.drop 1
  else line

/-- The line with four blanks for a tab that it starts with. -/
def widenTab (line : Line) : Line :=
  let indent := indentOf line
  let rest := line.drop indent
  if indent ≤ 3 && rest.head? == some '\t' then
    List.replicate (indent + 4) ' ' ++ rest.drop 1
  else line

/-- The line without up to `most` of the blanks that it starts with. -/
def outdent (most : Nat) (line : Line) : Line := line.drop (min most (indentOf line))

/-- The line stands in a block of code. -/
def isCodeLine (line : Line) : Bool :=
  let indent := indentOf line
  if (line.drop indent).head? == some '\t' then line.length > indent + 1 || indent ≥ 4
  else indent ≥ 4 && line.length > 4

/-- The level and the words of a heading. -/
def heading? (most : Nat) (line : Line) : Option (Nat × List Char) :=
  (indented? most line).bind fun line =>
    let level := (line.takeWhile (· == '#')).length
    let rest := line.drop level
    if level == 0 || level > 6 || !(rest.isEmpty || rest.head?.any isGap) then none
    else
      let words := Text.dropEndWhile isEdge (rest.dropWhile isEdge)
      let shorter := Text.dropEndWhile (· == '#') words
      let closed := shorter.length < words.length &&
        (shorter.isEmpty || shorter.getLast?.any Text.isBlank)
      some (level, if closed then Text.trimEnd shorter else words)

/-- The level of the heading that a line underlines. -/
def underline? (line : Line) : Option Nat :=
  (indented? 3 line).bind fun line =>
    let marks := withoutGap line
    if marks.all (fun char => char == '=' || char == '-') then
      marks.getLast?.map fun last => if last == '=' then 1 else 2
    else none

/-- The line is a rule: three or more of one mark. -/
def isRule (most : Nat) (line : Line) : Bool :=
  (indented? most line).any fun line =>
    let marks := line.filter (!isGap ·)
    marks.length ≥ 3 && ['-', '_', '*'].any fun mark =>
      line.head? == some mark && marks.all (· == mark)

/-- The fence of a block of code: its indentation, its mark, its length and what follows. -/
structure CodeFence where
  indent : Nat
  mark : Char
  length : Nat
  info : List Char

/-- The fence that a line is. -/
def codeFence? (most : Nat) (line : Line) : Option CodeFence :=
  (indented? most line).bind fun text =>
    match text with
    | [] => none
    | mark :: _ =>
      let length := (text.takeWhile (· == mark)).length
      if (mark == '\x60' || mark == '~') && length ≥ 3 then
        some ⟨indentOf line, mark, length,
          (text.drop length).dropWhile isGap⟩
      else none

/-- The fence may open a block: no backtick follows one of backticks. -/
def CodeFence.opens (fence : CodeFence) : Bool :=
  fence.mark != '\x60' || !fence.info.contains '\x60'

/-- The line closes a block that the fence opened. -/
def CodeFence.closedBy (fence : CodeFence) (line : Line) : Bool :=
  (codeFence? 3 line).any fun other =>
    other.mark == fence.mark && other.length ≥ fence.length && isGapOnly other.info

/-- The part of a quotation in the line. -/
def quoted? (most : Nat) (line : Line) : Option Line :=
  (indented? most line).bind fun line =>
    match line with
    | '>' :: rest => some rest
    | _ => none

/-- The start of an item of a list: its indentation, its number if it has one, its mark and its
words. -/
structure ItemStart where
  indent : Nat
  digits : List Char
  mark : Char
  words : List Char

/-- The width of the indentation, the number and the mark. -/
def ItemStart.width (start : ItemStart) : Nat := start.indent + start.digits.length + 1

/-- The item that a line starts, if its number and its mark fit. -/
def itemWith? (fits : List Char → Char → Bool) (most : Nat) (line : Line) : Option ItemStart :=
  (indented? most line).bind fun text =>
    let digits := text.takeWhile Char.isDigit
    match text.drop digits.length with
    | [] => none
    | mark :: rest =>
      let separate := rest.isEmpty || rest.head?.any isGap
      if digits.length ≤ 9 && fits digits mark && separate then
        some ⟨indentOf line, digits, mark, rest⟩
      else none

/-- The mark stands behind a number. -/
def isNumberMark (mark : Char) : Bool := mark == '.' || mark == ')'

/-- The item that a line starts. -/
def item? (most : Nat) (line : Line) : Option ItemStart :=
  itemWith? (fun digits mark =>
    if digits.isEmpty then ['*', '+', '-'].contains mark else isNumberMark mark) most line

/-- The item of a list with a mark that a line starts.  Behind the first item the number may be
missing. -/
def nextItem? (mark : Char) (most : Nat) (line : Line) : Option ItemStart :=
  itemWith? (fun digits other =>
    other == mark && (digits.isEmpty || isNumberMark mark)) most line

/-- Tags that stand for blocks. -/
def blockTags : List String := [
  "address", "article", "aside", "base", "basefont", "blockquote", "body", "caption", "center",
  "col", "colgroup", "dd", "details", "dialog", "dir", "div", "dl", "dt", "fieldset",
  "figcaption", "figure", "footer", "form", "frame", "frameset", "h1", "h2", "h3", "h4", "h5",
  "h6", "head", "header", "hr", "html", "iframe", "legend", "li", "link", "main", "menu",
  "menuitem", "meta", "nav", "noframes", "ol", "optgroup", "option", "p", "param", "section",
  "source", "summary", "table", "tbody", "td", "tfoot", "th", "thead", "title", "tr", "track",
  "ul"]

/-- Tags whose content is no markup. -/
def rawTags : List String := ["pre", "script", "style", "textarea"]

/-- How a block of markup ends. -/
inductive MarkupEnd where
  /-- With the line that holds a text, from a distance behind the start on. -/
  | text (closer : List Char) (distance : Nat)
  /-- Before a blank line. -/
  | blankLine
  /-- Before a blank line; the block breaks no paragraph. -/
  | looseTag

/-- A tag ends here, and nothing follows in the line. -/
def endsTag (text : List Char) : Bool :=
  match text.dropWhile isGap with
  | '>' :: rest => isGapOnly rest
  | _ => false

/-- The markup may not break a paragraph. -/
def MarkupEnd.isLoose : MarkupEnd → Bool
  | .looseTag => true
  | _ => false

/-- The line may start markup. -/
def startsMarkup (line : Line) : Bool :=
  match indented? 3 line with
  | some ('<' :: '/' :: rest) => !(tagName rest).isEmpty
  | some ('<' :: '!' :: rest) =>
    (Text.dropLead? "--".toList rest).isSome || (Text.dropLead? "[CDATA[".toList rest).isSome ||
      rest.head?.any Char.isUpper
  | some ('<' :: rest) => rest.head? == some '?' || !(tagName rest).isEmpty
  | _ => false

/-- How the block of markup ends that a line starts. -/
def markupEnd? (line : Line) : Option MarkupEnd :=
  (indented? 3 line).bind fun text =>
    let lower (name : List Char) : String := String.ofList (name.map Char.toLower)
    match text with
    | '<' :: '!' :: '-' :: '-' :: _ => some (.text "-->".toList 4)
    | '<' :: '?' :: _ => some (.text "?>".toList 2)
    | '<' :: '!' :: rest =>
      if (Text.dropLead? "[CDATA[".toList rest).isSome then some (.text "]]>".toList 9)
      else if rest.head?.any Char.isUpper then some (.text ['>'] 3)
      else none
    | '<' :: '/' :: rest =>
      let name := tagName rest
      if name.isEmpty then none
      else if blockTags.contains (lower name) then some .blankLine
      else if endsTag (rest.drop name.length) then some .looseTag
      else none
    | '<' :: rest =>
      let name := tagName rest
      if name.isEmpty then none
      else if rawTags.contains (lower name) then
        some (.text ("</".toList ++ name.map Char.toLower ++ ['>']) (name.length + 1))
      else if blockTags.contains (lower name) then some .blankLine
      else if endsTag (afterAttributes rest.length (rest.drop name.length)) then some .looseTag
      else none
    | _ => none

/-- The line starts markup that ends a quotation or a list although a paragraph might go on with it.
A tag needs a name in small letters with a blank or nothing behind it. -/
def breaksWithMarkup (most : Nat) (line : Line) : Bool :=
  let endsName (rest : List Char) : Bool := rest.isEmpty || rest.head?.any isGap
  let isTag (tags : List String) (rest : List Char) : Bool :=
    let name := tagName rest
    tags.contains (String.ofList name) && endsName (rest.drop name.length)
  match indented? most line with
  | some ('<' :: '/' :: rest) => isTag blockTags rest
  | some ('<' :: rest) =>
    if (tagName rest).isEmpty then startsMarkup ('<' :: rest) else isTag (blockTags ++ rawTags) rest
  | _ => false

end Shortcode.Markdown
