import Shortcode.Markdown.Block
import Shortcode.Markdown.Span
import Shortcode.Renderer

/-!
# Markdown

`render` writes a Markdown text as markup, its blocks of code as it is told.  Markup in the text
stays as it is.  The notes that the text refers to follow it, numbered in the order of the first
references.
-/

namespace Shortcode.Markdown

/-- The words of a block in markup. -/
def wordsMarkup (definitions : Definitions) (words : List Char) : Noting String := do
  let words := Text.dropEndWhile isEdge (words.dropWhile isEdge)
  return spansMarkup (← spans definitions words)

/-- The style of a cell, as an attribute. -/
def Alignment.style : Alignment → String
  | .left => " style=\"text-align:left\""
  | .center => " style=\"text-align:center\""
  | .right => " style=\"text-align:right\""

/-- A row of a table in markup. -/
def rowMarkup (definitions : Definitions) (tag : String) :
    (columns : List (Option Alignment)) → (row : List (List Char)) → Noting String
  | column :: columns, cell :: cells => do
    let words ← wordsMarkup definitions cell
    let style := (column.map Alignment.style).getD ""
    let others ← rowMarkup definitions tag columns cells
    return s!"  <{tag}{style}>{words}</{tag}>\n{others}"
  | _, _ => return ""

/-- Rows of a table in markup. -/
def rowsMarkup (definitions : Definitions) (columns : List (Option Alignment)) :
    (rows : List (List (List Char))) → Noting String
  | [] => return ""
  | row :: rest => do
    let first ← rowMarkup definitions "td" columns row
    let others ← rowsMarkup definitions columns rest
    return s!"<tr>\n{first}</tr>\n{others}"

/-- The tags around the items of a list. -/
def listMarkup (first : Option Nat) (items : String) : String :=
  match first with
  | none => s!"<ul>\n{items}</ul>\n"
  | some 1 => s!"<ol>\n{items}</ol>\n"
  | some number => s!"<ol start=\"{number}\">\n{items}</ol>\n"

mutual

/-- A block in markup. -/
def Block.markup (write : CodeWriter) (definitions : Definitions) : Block → Noting String
  | .blank => return ""
  | .paragraph words => return "<p>" ++ (← wordsMarkup definitions words) ++ "</p>\n"
  | .line words => wordsMarkup definitions words
  | .heading level words => do
    let words ← wordsMarkup definitions words
    return s!"<h{level}>{words}</h{level}>\n"
  | .rule => return "<hr />\n"
  | .quote blocks =>
    return "<blockquote>\n" ++ (← blocksMarkup write definitions blocks) ++ "</blockquote>\n"
  | .list first items => return listMarkup first (← itemsMarkup write definitions items)
  | .code info content => write content info
  | .html raw => return raw ++ "\n"
  | .table columns head rows => do
    let head ← rowMarkup definitions "th" columns head
    let rows ← rowsMarkup definitions columns rows
    let body := s!"<tbody>\n{rows}</tbody>\n"
    return s!"<table>\n<thead>\n<tr>\n{head}</tr>\n</thead>\n{body}</table>\n"

/-- Blocks in markup. -/
def blocksMarkup (write : CodeWriter) (definitions : Definitions) :
    List Block → Noting String
  | [] => return ""
  | first :: rest =>
    return (← first.markup write definitions) ++ (← blocksMarkup write definitions rest)

/-- Items of a list in markup. -/
def itemsMarkup (write : CodeWriter) (definitions : Definitions) :
    List (List Block) → Noting String
  | [] => return ""
  | first :: rest => do
    let item ← blocksMarkup write definitions first
    return "<li>" ++ item ++ "</li>\n" ++ (← itemsMarkup write definitions rest)

end

/-- The blocks of a note.  Its further lines are read without the indentation of the first of
them. -/
def noteBlocks (note : List Char) : List Block :=
  match (linesOf note).drop 1 |>.find? (!·.isEmpty) with
  | none => [.paragraph (Text.trim note)]
  | some second =>
    let indent := (second.takeWhile Text.isBlank).length
    let lines := (linesOf note).map fun line =>
      if indentOf line ≥ indent then line.dropWhile (· == ' ') else line
    (readBlocks .inNote .empty (Text.trim (textOf lines))).1

/-- A note in markup: its last paragraph ends with a link back to the text.  What the text defines
does not count in it. -/
def noteMarkup (write : CodeWriter) (number : Nat) (note : List Char) :
    Except PackageError String := do
  let (text, _) ← (blocksMarkup write .empty (noteBlocks note)).run ⟨[], []⟩
  let shorter := (Text.trimEnd text.toList).dropLast.dropLast.dropLast.dropLast
  let back := s!"<a href=\"#fnref-{number}\" class=\"footnote\">&#8617;</a></p>"
  return s!"<li id=\"fn-{number}\">" ++ String.ofList shorter ++ back ++ "</li>\n"

/-- Notes in markup, numbered from a number on. -/
def notesMarkup (write : CodeWriter) (definitions : Definitions) :
    (number : Nat) → (keys : List String) → Except PackageError String
  | _, [] => .ok ""
  | number, key :: rest => do
    let note ← noteMarkup write number ((definitions.notes.lookup key).getD [])
    return note ++ (← notesMarkup write definitions (number + 1) rest)

/-- A Markdown text as markup. -/
def render : MarkdownWriter := fun write text => do
  let (blocks, definitions) := readBlocks .top .empty (Text.unixLines text.toList)
  let (body, noted) ← (blocksMarkup write definitions blocks).run ⟨[], []⟩
  if noted.keys.isEmpty then return body
  else
    let notes ← notesMarkup write definitions 1 noted.keys
    return body ++ s!"<section class=\"footnotes\">\n<ol>\n{notes}</ol>\n</section>\n"

end Shortcode.Markdown
