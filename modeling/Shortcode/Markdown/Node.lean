import Shortcode.Markdown.Reference
import Shortcode.Template.Escape
import Shortcode.Text.Blank
import Shortcode.Text.Search

/-!
# The parts of a Markdown text

A text is made of blocks, and the words in a block of spans.  A block keeps its words as they are
written: what they mean depends on the links and the notes that the whole text defines.
-/

namespace Shortcode.Markdown

/-- Where a link leads, and what is told about it. -/
structure Target where
  address : String
  title : Option String

/-- A part of the words of a block. -/
inductive Span where
  | text (content : List Char)
  | code (content : List Char)
  | emphasis (spans : List Span)
  | strong (spans : List Span)
  | deleted (spans : List Span)
  | link (target : Target) (spans : List Span)
  | image (target : Target) (spans : List Span)
  /-- A link to the note of a number. -/
  | note (number : Nat)
  | html (raw : List Char)
  | lineBreak
  | lineEnd

/-- Where the words of a column stand. -/
inductive Alignment where
  | left
  | center
  | right

/-- A block of a text. -/
inductive Block where
  | blank
  | paragraph (words : List Char)
  /-- A paragraph that is not set apart. -/
  | line (words : List Char)
  | heading (level : Nat) (words : List Char)
  | rule
  | quote (blocks : List Block)
  /-- A list of items; a numbered one starts at a number. -/
  | list (first : Option Nat) (items : List (List Block))
  | code (info : Option String) (content : String)
  | html (raw : String)
  | table (columns : List (Option Alignment)) (head : List (List Char))
    (rows : List (List (List Char)))

/-! ## Escaping -/

/-- What a character is written as in markup. -/
def escapeChar : Char → List Char
  | '&' => "&amp;".toList
  | '<' => "&lt;".toList
  | '>' => "&gt;".toList
  | '"' => "&quot;".toList
  | char => [char]

/-- The text as it is written in markup. -/
def escape (text : List Char) : String := String.ofList (text.flatMap escapeChar)

/-- The text as it is written in markup, its references being read first. -/
def escapeText (text : List Char) : String := escape (withoutReferences text)

/-- The characters that an address keeps as they are. -/
def addressChars : List Char := ":/?#@!$&()*+,;=%".toList

/-- An address as it is written in a text, with every other character as bytes. -/
def addressOf (text : List Char) : String :=
  Template.percentEncode addressChars (String.ofList (withoutReferences text))

/-- The kinds of addresses that a link may lead to. -/
def safeSchemes : List String := ["http", "https", "ftp", "mailto", "tel"]

/-- The pictures that an address may hold in itself. -/
def safePictures : List String :=
  ["data:image/gif;", "data:image/png;", "data:image/jpeg;", "data:image/webp;"]

/-- The kind of an address: what stands before a colon in its first part. -/
def schemeOf? (address : String) : Option String :=
  let first := address.toList.takeWhile fun char => !"/?#".toList.contains char
  (Text.splitAt? [':'] first).map fun (scheme, _) => String.ofList scheme

/-- A link may lead to the address: it is of no kind, of a safe one, or a picture. -/
def isSafe (address : String) : Bool :=
  let lower := address.map Char.toLower
  (schemeOf? lower).all safeSchemes.contains || safePictures.any fun lead => lower.startsWith lead

/-- An address as it is written in markup. -/
def addressText (address : String) : String :=
  if isSafe address then escape address.toList else "#harmful-link"

/-! ## Spans -/

mutual

/-- The words of a span alone, which tell what an image shows. -/
def Span.words : Span → List Char
  | .text content => withoutReferences content
  | .code content => content
  | .emphasis spans => spansWords spans
  | .strong spans => spansWords spans
  | .deleted spans => spansWords spans
  | .link _ spans => spansWords spans
  | .image _ spans => spansWords spans
  | .note _ => []
  | .html _ => []
  | .lineBreak => ['\n']
  | .lineEnd => ['\n']

/-- The words of spans. -/
def spansWords : List Span → List Char
  | [] => []
  | first :: rest => first.words ++ spansWords rest

end

mutual

/-- The span is a link, or one stands in it. -/
def Span.hasLink : Span → Bool
  | .link _ _ => true
  | .emphasis spans => spansHaveLink spans
  | .strong spans => spansHaveLink spans
  | .deleted spans => spansHaveLink spans
  | .image _ spans => spansHaveLink spans
  | _ => false

/-- A link stands in the spans. -/
def spansHaveLink : List Span → Bool
  | [] => false
  | first :: rest => first.hasLink || spansHaveLink rest

end

/-- The title of a link, as an attribute. -/
def Target.titleText (target : Target) : String :=
  (target.title.map fun title => " title=\"" ++ escapeText title.toList ++ "\"").getD ""

mutual

/-- A span in markup. -/
def Span.markup : Span → String
  | .text content => escapeText content
  | .code content => "<code>" ++ escape content ++ "</code>"
  | .emphasis spans => "<em>" ++ spansMarkup spans ++ "</em>"
  | .strong spans => "<strong>" ++ spansMarkup spans ++ "</strong>"
  | .deleted spans => "<del>" ++ spansMarkup spans ++ "</del>"
  | .link target spans =>
    "<a href=\"" ++ addressText target.address ++ "\"" ++ target.titleText ++ ">" ++
      spansMarkup spans ++ "</a>"
  | .image target spans =>
    "<img src=\"" ++ addressText target.address ++ "\" alt=\"" ++
      escape (spansWords spans) ++ "\"" ++ target.titleText ++ " />"
  | .note number =>
    s!"<sup class=\"footnote-ref\" id=\"fnref-{number}\">" ++
      s!"<a href=\"#fn-{number}\">{number}</a></sup>"
  | .html raw => String.ofList raw
  | .lineBreak => "<br />\n"
  | .lineEnd => "\n"

/-- Spans in markup. -/
def spansMarkup : List Span → String
  | [] => ""
  | first :: rest => first.markup ++ spansMarkup rest

end

end Shortcode.Markdown
