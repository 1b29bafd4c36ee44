import Shortcode.Text.Blank
import Shortcode.Text.Search

/-!
# Markup inside a text

A Markdown text may hold markup of its own.  `markupLength?` measures a tag, a comment or another
instruction that a text starts with.
-/

namespace Shortcode.Markdown

/-- A letter of the Latin alphabet. -/
def isLetter (char : Char) : Bool := char.isAlpha

/-- A character of the name of a tag. -/
def isTagChar (char : Char) : Bool := char.isAlphanum || char == '-'

/-- The name of a tag that a text starts with. -/
def tagName (text : List Char) : List Char :=
  if text.head?.any isLetter then text.takeWhile isTagChar else []

/-- What follows the quote that ends a value. -/
def afterQuote? (mark : Char) (text : List Char) : Option (List Char) :=
  (Text.splitAt? [mark] text).map (·.2)

/-- A character of a value without quotes. -/
def isBareChar (char : Char) : Bool := !" !\"'=<>\x60".toList.contains char

/-- What follows the value of an attribute. -/
def afterValue? (text : List Char) : Option (List Char) :=
  match text with
  | '"' :: rest => afterQuote? '"' rest
  | '\'' :: rest => afterQuote? '\'' rest
  | _ => if text.head?.any isBareChar then some (text.dropWhile isBareChar) else none

/-- What follows the value of an attribute, or its name where it has no value. -/
def afterAttribute (text : List Char) : List Char :=
  match text.dropWhile Text.isBlank with
  | '=' :: rest => (afterValue? (rest.dropWhile Text.isBlank)).getD text
  | _ => text

/-- A character that the name of an attribute starts with. -/
def startsAttribute (char : Char) : Bool := isLetter char || char == '_' || char == ':'

/-- A character of the name of an attribute. -/
def isAttributeChar (char : Char) : Bool := char.isAlphanum || "_.:-".toList.contains char

/-- What follows the attributes of a tag; `fuel` bounds their number. -/
def afterAttributes : (fuel : Nat) → (text : List Char) → List Char
  | 0, text => text
  | fuel + 1, text =>
    let inner := text.dropWhile Text.isBlank
    if text.head?.any Text.isBlank && inner.head?.any startsAttribute then
      afterAttributes fuel (afterAttribute (inner.dropWhile isAttributeChar))
    else text

/-- What follows the tag whose name a text starts with. -/
def afterOpenTag? (text : List Char) : Option (List Char) :=
  let name := tagName text
  match (afterAttributes text.length (text.drop name.length)).dropWhile Text.isBlank with
  | '>' :: rest => if name.isEmpty then none else some rest
  | '/' :: '>' :: rest => if name.isEmpty then none else some rest
  | _ => none

/-- What follows the closing tag whose name a text starts with. -/
def afterCloseTag? (text : List Char) : Option (List Char) :=
  let name := tagName text
  match (text.drop name.length).dropWhile Text.isBlank with
  | '>' :: rest => if name.isEmpty then none else some rest
  | _ => none

/-- What follows a comment, behind its start. -/
def afterComment? (text : List Char) : Option (List Char) :=
  match Text.splitAt? ['-', '-'] text with
  | some (inner, '>' :: rest) =>
    if inner.isEmpty || inner.head? == some '>' || inner.take 2 == ['-', '>'] then none
    else some rest
  | _ => none

/-- What follows the first occurrence of a closer that is not at the start. -/
def afterCloser? (closer text : List Char) : Option (List Char) :=
  (Text.splitAt? closer (text.drop 1)).map (·.2)

/-- What follows the markup that starts behind a `<`. -/
def afterMarkup? (text : List Char) : Option (List Char) :=
  match text with
  | '/' :: rest => afterCloseTag? rest
  | '?' :: rest => afterCloser? ['?', '>'] rest
  | '!' :: '-' :: '-' :: rest => afterComment? rest
  | '!' :: '[' :: rest =>
    (Text.dropLead? "CDATA".toList rest).bind (afterCloser? [']', ']', '>'])
  | '!' :: rest => if rest.head?.any Char.isUpper then afterCloser? ['>'] (rest.drop 1) else none
  | _ => afterOpenTag? text

/-- The number of characters of the markup that a text starts with. -/
def markupLength? (text : List Char) : Option Nat :=
  match text with
  | '<' :: rest => (afterMarkup? rest).map fun behind => text.length - behind.length
  | _ => none

/-- The text may start markup, or an address in angle brackets. -/
def mayStartMarkup (text : List Char) : Bool :=
  match text with
  | '<' :: '!' :: _ => true
  | '<' :: '?' :: _ => true
  | '<' :: '/' :: rest => rest.head?.any isLetter
  | '<' :: rest => rest.head?.any isLetter
  | _ => false

end Shortcode.Markdown
