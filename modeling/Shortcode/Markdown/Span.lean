import Shortcode.Markdown.Destination
import Shortcode.Markdown.Emphasis
import Shortcode.Markdown.Markup
import Shortcode.Package
import Shortcode.Text.Alphanumeric

/-!
# Reading the spans of a block

`spans` reads the words of a block from left to right, as parts in which the marks of emphasis
still stand alone, and then pairs the marks.  So code, links and markup bind closer than emphasis:
what starts inside of it and ends behind it leaves its mark a character.
-/

namespace Shortcode.Markdown

/-- Whether links may stand at a place. -/
inductive Linking where
  | free
  /-- Inside of the words of a link, addresses are words. -/
  | words
  /-- Behind the tag of a link, brackets are characters too. -/
  | tag

/-- Addresses are links. -/
def Linking.isFree : Linking → Bool
  | .free => true
  | _ => false

/-- Brackets are characters. -/
def Linking.isTag : Linking → Bool
  | .tag => true
  | _ => false

/-- What the spans around a place are, and what the whole text defines. -/
structure Surroundings where
  definitions : Definitions
  linking : Linking
  /-- The number of characters of the block behind the words that are read. -/
  beyond : Nat

/-- What the reading of spans finds out: the labels of the notes that a text refers to, in the order
of the first references, and the brackets of a block that open no link since one stands in their
words, by the number of characters from each of them on. -/
structure Noted where
  keys : List String
  barred : List Nat

/-- The reading of spans. -/
abbrev Noting := StateT Noted (Except PackageError)

/-- Spans, and the number of characters that they take up. -/
abbrev Found := List Span × Nat

/-- A character of a word. -/
def isWordChar (char : Char) : Bool := Text.isAlphanumeric char || char == '_'

/-- The length of the row of a character that a text starts with. -/
def rowLength (char : Char) (text : List Char) : Nat := (text.takeWhile (· == char)).length

/-- A row of exactly `length` marks starts the text. -/
def startsRow (mark : Char) (length : Nat) (text : List Char) : Bool :=
  rowLength mark text == length

/-! ## Spans without spans in them -/

/-- Signs behind backslashes. -/
def escapedSigns : (text : List Char) → List Char
  | '\\' :: char :: rest => if isSign char then char :: escapedSigns rest else []
  | _ => []

/-- The code that ends at the next row of as many backticks, and the length up to its end. -/
def codeUpTo? (length : Nat) : (before : List Char) → (text : List Char) →
    Option (List Char × Nat)
  | _, [] => none
  | before, char :: rest =>
    let found := char != '\x60' && startsRow '\x60' length rest
    if found then some ((char :: before).reverse, before.length + 1 + length)
    else codeUpTo? length (char :: before) rest

/-- Code without a blank at either end, if it has one at both.  A line end is a blank. -/
def codeContent (code : List Char) : List Char :=
  let line := code.map fun char => if char == '\n' then ' ' else char
  if line.head? == some ' ' && line.getLast? == some ' ' && !line.all Text.isBlank then
    (line.drop 1).dropLast
  else line

/-- The code that a text starts with, or its backticks. -/
def codeAt (text : List Char) : Found :=
  let length := rowLength '\x60' text
  match codeUpTo? length [] (text.drop length) with
  | some (code, count) => ([.code (codeContent code)], length + count)
  | none => ([.text (text.take length)], length)

/-- A character of the name of a kind of address. -/
def isSchemeChar (char : Char) : Bool := char.isAlphanum || "+.-".toList.contains char

/-- A text starts with the kind of an address and a colon. -/
def startsAddress (text : List Char) : Bool :=
  let scheme := text.takeWhile isSchemeChar
  text.head?.any isLetter && 2 ≤ scheme.length && scheme.length ≤ 32 &&
    text[scheme.length]? == some ':'

/-- The address in angle brackets that a text starts with. -/
def bracketedAddress? (text : List Char) : Option (List Char) :=
  match text with
  | '<' :: rest =>
    let inner := rest.takeWhile fun char => 0x20 < char.toNat && char != '<' && char != '>'
    if startsAddress rest && rest[inner.length]? == some '>' then some inner else none
  | _ => none

/-- A part of the name of a host. -/
def isHostPart (part : List Char) : Bool :=
  !part.isEmpty && part.length ≤ 63 && part.all isTagChar && part.head? != some '-' &&
    part.getLast? != some '-'

/-- The mail address in angle brackets that a text starts with. -/
def bracketedMail? (text : List Char) : Option (List Char) :=
  match text with
  | '<' :: rest => do
    let inner := rest.takeWhile (· != '>')
    if rest[inner.length]? != some '>' then none
    let (user, host) ← Text.splitAt? ['@'] inner
    let isUserChar (char : Char) : Bool :=
      char.isAlphanum || ".!#$%&'*+/=?^_\x60\x7b|\x7d~-".toList.contains char
    if user.isEmpty || !user.all isUserChar || !(Text.fields '.' host).all isHostPart then none
    else some inner
  | _ => none

/-- A character that an address in a text does not end with. -/
def endsNoAddress (char : Char) : Bool := ".,:;\"')".toList.contains char

/-- The web address that a text starts with. -/
def webAddress? (text : List Char) : Option (List Char) := do
  let rest ← match Text.dropLead? "https://".toList text with
    | some rest => some rest
    | none => Text.dropLead? "http://".toList text
  let body := rest.takeWhile fun char => !(Text.isBlank char || char == '<' || char == ']')
  let kept := Text.dropEndWhile endsNoAddress body
  if kept.length < 2 then none
  else some (text.take (text.length - rest.length + kept.length))

/-- A link whose words are its address. -/
def addressLink (lead : String) (address : List Char) : Span :=
  .link ⟨addressOf (lead.toList ++ address), none⟩ [.text address]

/-- The line end that a text starts with, behind blanks or a backslash. -/
def lineEndAt? (text : List Char) : Option Found :=
  let blanks := rowLength ' ' text
  let found (span : Span) (rest : List Char) : Option Found :=
    some ([span], text.length - (rest.dropWhile Text.isBlank).length)
  match text.drop blanks with
  | '\n' :: rest => found (if blanks ≥ 2 then .lineBreak else .lineEnd) rest
  | '\\' :: '\n' :: rest => if blanks == 0 then found .lineBreak rest else none
  | _ => none

/-- The reference to a note that a text starts with. -/
def noteAt? (definitions : Definitions) (text : List Char) : Noting (Option Found) := do
  match text with
  | '[' :: '^' :: rest =>
    match noteLabelAt? rest with
    | none => return none
    | some (label, behind) =>
      let length := text.length - behind.length
      let key := labelKey label
      if (definitions.notes.lookup key).isNone then
        return some ([.text (text.take length)], length)
      let noted ← get
      let keys := if noted.keys.contains key then noted.keys else noted.keys ++ [key]
      set { noted with keys }
      return some ([.note (keys.idxOf key + 1)], length)
  | _ => return none

/-! ## Rows of marks -/

/-- The row of marks that a text starts with, behind a character. -/
def marksAt (mark : Char) (before : Option Char) (text : List Char) : Inline × Nat :=
  let length := rowLength mark text
  (Inline.ofMarks mark length before text[length]?, length)

/-- A row of exactly `length` marks may close what it opened. -/
def closesRow (mark : Char) (length : Nat) (text : List Char) : Bool := startsRow mark length text

/-- The length of the words up to the row that closes them. -/
def closedLength? (mark : Char) (length : Nat) : (before : Option Char) → (text : List Char) →
    Option Nat
  | _, [] => none
  | before, char :: rest =>
    let slashes := rowLength '\\' (char :: rest)
    let behind := (char :: rest).drop slashes
    let escapedMark := before != some '\\' && slashes % 2 == 1 && behind.head? == some mark &&
      closesRow mark length (behind.drop 1)
    if escapedMark then some (slashes + 1)
    else if !Text.isBlank char && char != mark && closesRow mark length rest then some 1
    else (closedLength? mark length (some char) rest).map (· + 1)

/-- Where code or markup may start in the first `count` characters. -/
def closerStart? : (text : List Char) → (count : Nat) → Option Nat
  | _, 0 => none
  | [], _ => none
  | char :: rest, count + 1 =>
    if char == '\x60' || mayStartMarkup (char :: rest) then some 0
    else (closerStart? rest count).map (· + 1)

/-! ## Reading -/

/-- Reads the address or the markup in angle brackets. -/
def angleAt? (around : Surroundings) (text : List Char) : Option Found :=
  match bracketedAddress? text, bracketedMail? text with
  | some address, _ =>
    let span := if around.linking.isFree then addressLink "" address
      else .text (text.take (address.length + 2))
    some ([span], address.length + 2)
  | none, some address =>
    let span := if around.linking.isFree then addressLink "mailto:" address
      else .text (text.take (address.length + 2))
    some ([span], address.length + 2)
  | none, none => (markupLength? text).map fun length => ([.html (text.take length)], length)

/-- What binds closer than the first `length` characters and reaches at least as far: the text before
it, and what it is.  `marks` characters open what it breaks. -/
def closer? (around : Surroundings) (marks length : Nat) (text : List Char) : Option Found := do
  let start := marks + (← closerStart? (text.drop marks) (length - marks))
  let inner := text.drop start
  let (spans, count) ← if inner.head? == some '\x60' then some (codeAt inner)
    else angleAt? around inner
  if start + count < length then none
  else return (.text (text.take start) :: spans, start + count)

/-- The tag of a link forbids links behind it, up to the tag that closes it. -/
def Surroundings.behind (around : Surroundings) (found : List Span) : Surroundings :=
  match found with
  | [.html raw] =>
    let starts (tags : List String) : Bool := tags.any fun tag => tag.toList.isPrefixOf raw
    if starts ["<a ", "<a>", "<A ", "<A>"] then { around with linking := .tag }
    else if starts ["</a ", "</a>", "</A ", "</A>"] then { around with linking := .free }
    else around
  | _ => around

/-- The target that follows the words of a link, or the one of its label. -/
def linkTarget? (definitions : Definitions) (label : Option (List Char)) (behind : List Char) :
    Option (Target × List Char) :=
  let direct := match behind with
    | '(' :: rest => targetAt? rest
    | _ => none
  match direct with
  | some found => some found
  | none =>
    let (label, rest) : Option (List Char) × List Char := match behind with
      | '[' :: inner =>
        match labelAt? inner with
        | some (other, rest) => (if other.isEmpty then label else some other, rest)
        | none => (label, behind)
      | _ => (label, behind)
    label.bind fun label => (definitions.link? label).map fun target => (target, rest)

mutual

/-- Reads the spans of some words. -/
def spansFrom (around : Surroundings) : (fuel : Nat) → (text : List Char) → Noting (List Span)
  | 0, text => return [.text text]
  | fuel + 1, text => return paired (← inlinesFrom around fuel none [] text)

/-- Reads the parts of a text; `plain` are the characters before them, from right to left. -/
def inlinesFrom (around : Surroundings) : (fuel : Nat) → (before : Option Char) →
    (plain text : List Char) → Noting (List Inline)
  | 0, _, plain, text => return [.span (.text (plain.reverse ++ text))]
  | _ + 1, _, plain, [] => return if plain.isEmpty then [] else [.span (.text plain.reverse)]
  | fuel + 1, before, plain, char :: rest => do
    let text := char :: rest
    let words := if plain.isEmpty then [] else [Inline.span (.text plain.reverse)]
    if char == '*' || char == '_' then
      let (marks, count) := marksAt char before text
      return words ++ marks :: (← inlinesFrom around fuel (some char) [] (text.drop count))
    match ← spanAt? around fuel text with
    | none => inlinesFrom around fuel (some char) (char :: plain) rest
    | some (found, count) =>
      let others ← inlinesFrom (around.behind found) fuel text[count - 1]? [] (text.drop count)
      return words ++ found.map .span ++ others

/-- Reads the span that a text starts with, if it starts with more than a character. -/
def spanAt? (around : Surroundings) : (fuel : Nat) → (text : List Char) → Noting (Option Found)
  | 0, _ => return none
  | _ + 1, [] => return none
  | fuel + 1, char :: rest => do
    let text := char :: rest
    match char with
    | '\\' =>
      let signs := escapedSigns text
      return if signs.isEmpty then lineEndAt? text else some ([.text signs], 2 * signs.length)
    | ' ' => return lineEndAt? text
    | '\n' => return lineEndAt? text
    | '\x60' => return some (codeAt text)
    | '~' =>
      let next := text[2]?
      if rest.head? == some '~' && next.any (fun next => !Text.isBlank next && next != '~') then
        deletedAt? around fuel text
      else return none
    | '[' =>
      match ← noteAt? around.definitions text with
      | some found => return some found
      | none => linkAt? around fuel false text
    | '!' => if rest.head? == some '[' then linkAt? around fuel true text else return none
    | '<' => return angleAt? around text
    | 'h' =>
      return (webAddress? text).map fun address =>
        (if around.linking.isFree then [addressLink "" address] else [.text address],
          address.length)
    | _ => return none

/-- Reads what is deleted. -/
def deletedAt? (around : Surroundings) : (fuel : Nat) → (text : List Char) →
    Noting (Option Found)
  | 0, _ => return none
  | fuel + 1, text => do
    let inner := text.drop 2
    match closedLength? '~' 2 (some '~') inner with
    | none => return none
    | some count =>
      let beyond := around.beyond + (inner.length - count)
      let spans ← spansFrom { around with beyond } fuel (inner.take count)
      return some ([.deleted spans], count + 4)

/-- Reads a link or an image. -/
def linkAt? (around : Surroundings) : (fuel : Nat) → (image : Bool) → (text : List Char) →
    Noting (Option Found)
  | 0, _, _ => return none
  | fuel + 1, image, text => do
    let marks := if image then 2 else 1
    let place := text.length + around.beyond
    if !image && (around.linking.isTag || (← get).barred.contains place) then
      return some ([.text (text.take marks)], marks)
    let inner := text.drop marks
    let label := labelAt? inner
    let some (words, behind) := if label.isSome then label else linkedWords? 0 inner
      | return none
    if behind.isEmpty && label.isNone then return none
    match closer? around marks (text.length - behind.length) text with
    | some found => return some found
    | none =>
      let some (target, rest) := linkTarget? around.definitions (label.map (·.1)) behind
        | return none
      let count := text.length - rest.length
      let inside := { around with beyond := around.beyond + behind.length + 1 }
      if image then
        return some ([.image target (← spansFrom inside fuel words)], count)
      let spans ← spansFrom { inside with linking := .words } fuel words
      if spansHaveLink spans then
        modify fun noted => { noted with barred := place :: noted.barred }
        return some ([.text (text.take marks)], marks)
      return some ([.link target spans], count)

end

/-- The spans of the words of a block. -/
def spans (definitions : Definitions) (words : List Char) : Noting (List Span) := do
  modify fun noted => { noted with barred := [] }
  spansFrom ⟨definitions, .free, 0⟩ (4 * words.length + 8) words

end Shortcode.Markdown
