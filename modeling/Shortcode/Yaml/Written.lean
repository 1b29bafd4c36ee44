import Shortcode.Text.Numeral
import Shortcode.Yaml.Place

/-!
# Scalars as they are written

A scalar is written plainly, in quotes, or as an indented block.  The readers return the content and
the place behind it, or nothing where the text is malformed.  Lines are folded: a line end becomes a
space, and a blank line a line end.  An escape may hold the number of no character; this is told
apart from a malformed text.
-/

namespace Shortcode.Yaml

/-- A line end and the blank lines after it, as they count inside a folded text. -/
def folded (first : Char) (blank : List Char) : List Char :=
  if first != '\n' then first :: blank else if blank.isEmpty then [' '] else blank

/-! ## Plain scalars -/

/-- A plain scalar ends before this place, whose distance is given. -/
def endsPlain (inFlow : Bool) (place : Place) (distance : Nat) : Bool :=
  match place.peek? distance with
  | none => true
  | some char =>
    isSpace char ||
      (char == ':' && (place.endsWord (distance + 1) ||
        (inFlow && (place.peek? (distance + 1)).any (",[]\x7b\x7d".toList.contains ·)))) ||
      (inFlow && ",?[]\x7b\x7d".toList.contains char)

/-- The number of characters up to the end of a word of a plain scalar. -/
def plainWordLength (inFlow : Bool) (place : Place) : (fuel : Nat) → (distance : Nat) → Nat
  | 0, distance => distance
  | fuel + 1, distance =>
    if endsPlain inFlow place distance then distance
    else plainWordLength inFlow place fuel (distance + 1)

/-- The blank lines inside a plain scalar, and the place behind them; nothing if a document ends
there. -/
def plainBreaks? : (fuel : Nat) → Place → Option (List Char × Place)
  | 0, place => some ([], place)
  | fuel + 1, place =>
    if place.rest.head? == some ' ' then plainBreaks? fuel place.step
    else match place.lineBreak? with
      | none => some ([], place)
      | some (char, next) =>
        if next.atMarker then none
        else (plainBreaks? fuel next).map fun (breaks, place) => (char :: breaks, place)

/-- What stands between two words of a plain scalar. -/
structure PlainGap where
  /-- The content that the gap stands for; without any the scalar ends. -/
  content : List Char
  /-- The place behind the gap. -/
  place : Place
  /-- A line ends in the gap. -/
  crossesLine : Bool

/-- Reads what stands behind a word of a plain scalar. -/
def plainGap (place : Place) : PlainGap :=
  let spaces := place.rest.takeWhile (· == ' ')
  let behind := place.forward spaces.length
  match behind.lineBreak? with
  | none => ⟨spaces, behind, false⟩
  | some (first, next) =>
    if next.atMarker then ⟨[], next, true⟩
    else match plainBreaks? next.rest.length next with
      | none => ⟨[], next, true⟩
      | some (breaks, last) => ⟨folded first breaks, last, true⟩

/-- A plain scalar: its content, the place behind it, and whether a line ends between its last word
and that place. -/
structure PlainScalar where
  content : List Char
  place : Place
  crossesLine : Bool

/-- Reads the words of a plain scalar whose lines are indented by at least `indent`, from behind a
gap. -/
def plainScalar (inFlow : Bool) (indent : Int) : (fuel : Nat) → (gap : PlainGap) → PlainScalar
  | 0, gap => ⟨[], gap.place, gap.crossesLine⟩
  | fuel + 1, gap =>
    let place := gap.place
    let length := plainWordLength inFlow place place.rest.length 0
    if place.rest.head? == some '#' || length == 0 then ⟨[], place, gap.crossesLine⟩
    else
      let word := gap.content ++ place.rest.take length
      let next := plainGap (place.forward length)
      if next.content.isEmpty || next.place.rest.head? == some '#' ||
          (!inFlow && (next.place.column : Int) < indent) then
        ⟨word, next.place, next.crossesLine⟩
      else
        let others := plainScalar inFlow indent fuel next
        { others with content := word ++ others.content }

/-! ## Quoted scalars -/

/-- Why a quoted scalar cannot be read. -/
inductive QuotedError where
  | malformed
  /-- An escape that holds the number of no character. -/
  | noCharacter (code : Nat)
deriving DecidableEq, Repr

/-- The character that a one-letter escape stands for. -/
def escaped? : Char → Option Char
  | '0' => some '\x00'
  | 'a' => some '\x07'
  | 'b' => some '\x08'
  | 't' => some '\t'
  | '\t' => some '\t'
  | 'n' => some '\n'
  | 'v' => some '\x0b'
  | 'f' => some '\x0c'
  | 'r' => some '\r'
  | 'e' => some '\x1b'
  | ' ' => some ' '
  | '"' => some '"'
  | '\\' => some '\\'
  | '/' => some '/'
  | 'N' => some '\x85'
  | '_' => some '\xa0'
  | 'L' => some '\u2028'
  | 'P' => some '\u2029'
  | _ => none

/-- The number of hexadecimal digits of an escape. -/
def escapeWidth? : Char → Option Nat
  | 'x' => some 2
  | 'u' => some 4
  | 'U' => some 8
  | _ => none

/-- The blank lines inside a quoted scalar, and the place behind them. -/
def quotedBreaks? : (fuel : Nat) → Place → Option (List Char × Place)
  | 0, _ => none
  | fuel + 1, place =>
    if place.atMarker then none
    else
      let place := place.skipWhile fun char => char == ' ' || char == '\t'
      match place.lineBreak? with
      | none => some ([], place)
      | some (char, next) =>
        (quotedBreaks? fuel next).map fun (breaks, place) => (char :: breaks, place)

/-- Reads an escape that holds the number of a character, from behind its letter.  Half of a
surrogate pair is no character, and read as the one with the number zero. -/
def numberedEscape (width : Nat) (place : Place) : Except QuotedError (List Char × Place) :=
  match Text.hexNumber? width place.rest with
  | none => .error .malformed
  | some code =>
    if code > 0x10ffff then .error (.noCharacter code)
    else .ok ([Char.ofNat code], place.forward width)

/-- Reads a backslash escape inside double quotes, from behind the backslash. -/
def quotedEscape (place : Place) : Except QuotedError (List Char × Place) :=
  match place.rest with
  | [] => .error .malformed
  | char :: _ =>
    match escaped? char, escapeWidth? char with
    | some plain, _ => .ok ([plain], place.step)
    | none, some width => numberedEscape width place.step
    | none, none =>
      match place.lineBreak? with
      | none => .error .malformed
      | some (_, next) =>
        match quotedBreaks? (next.rest.length + 1) next with
        | some found => .ok found
        | none => .error .malformed

/-- Reads the blanks inside a quoted scalar, folding the lines. -/
def quotedSpaces (place : Place) : Except QuotedError (List Char × Place) :=
  let spaces := place.rest.takeWhile fun char => char == ' ' || char == '\t'
  let behind := place.forward spaces.length
  match behind.lineBreak? with
  | none => if behind.rest.isEmpty then .error .malformed else .ok (spaces, behind)
  | some (first, next) =>
    match quotedBreaks? (next.rest.length + 1) next with
    | some (breaks, place) => .ok (folded first breaks, place)
    | none => .error .malformed

/-- Reads a quoted scalar from behind its opening quote. -/
def quotedScalar (double : Bool) : (fuel : Nat) → Place →
    Except QuotedError (List Char × Place)
  | 0, _ => .error .malformed
  | fuel + 1, place =>
    match place.rest with
    | [] => .error .malformed
    | char :: rest =>
      let goOn (found : Except QuotedError (List Char × Place)) :
          Except QuotedError (List Char × Place) := do
        let (content, next) ← found
        let (others, last) ← quotedScalar double fuel next
        return (content ++ others, last)
      if !double && char == '\'' && rest.head? == some '\'' then
        goOn (.ok (['\''], place.forward 2))
      else if char == (if double then '"' else '\'') then .ok ([], place.step)
      else if double && char == '\\' then goOn (quotedEscape place.step)
      else if isSpace char then goOn (quotedSpaces place)
      else goOn (.ok ([char], place.step))

/-! ## Block scalars -/

/-- What becomes of the line ends at the end of a block. -/
inductive Chomping where
  | strip
  | clip
  | keep
deriving DecidableEq

/-- The head of a block scalar. -/
structure BlockHead where
  chomping : Chomping
  increment : Option Nat

/-- The chomping that a sign stands for. -/
def chomping? : Char → Option Chomping
  | '+' => some .keep
  | '-' => some .strip
  | _ => none

/-- The indentation that a digit stands for. -/
def increment? (char : Char) : Option Nat :=
  if char.isDigit && char != '0' then some (char.toNat - '0'.toNat) else none

/-- Reads the signs behind the indicator of a block scalar. -/
def blockHead? (place : Place) : Option (BlockHead × Place) :=
  let found : BlockHead × Nat := match place.rest with
    | first :: second :: _ =>
      match chomping? first, increment? first, chomping? second, increment? second with
      | some chomping, _, _, some increment => (⟨chomping, some increment⟩, 2)
      | some chomping, _, _, none => (⟨chomping, none⟩, 1)
      | none, some increment, some chomping, _ => (⟨chomping, some increment⟩, 2)
      | none, some increment, none, _ => (⟨.clip, some increment⟩, 1)
      | none, none, _, _ => (⟨.clip, none⟩, 0)
    | [first] =>
      match chomping? first, increment? first with
      | some chomping, _ => (⟨chomping, none⟩, 1)
      | none, some increment => (⟨.clip, some increment⟩, 1)
      | none, none => (⟨.clip, none⟩, 0)
    | [] => (⟨.clip, none⟩, 0)
  let next := place.forward found.2
  if next.endsLine || next.rest.head? == some ' ' then some (found.1, next) else none

/-- Moves past the rest of a line, which holds nothing but a comment. -/
def ignoredLine? (place : Place) : Option Place :=
  let place := (place.skipWhile (· == ' ')).skipComment
  match place.lineBreak? with
  | some (_, next) => some next
  | none => if place.rest.isEmpty then some place else none

/-- The blank lines before a block, the widest indentation among them, and the place behind. -/
def blockIndentation : (fuel : Nat) → (widest : Nat) → Place → List Char × Nat × Place
  | 0, widest, place => ([], widest, place)
  | fuel + 1, widest, place =>
    match place.lineBreak? with
    | some (char, next) =>
      let (breaks, found) := blockIndentation fuel widest next
      (char :: breaks, found)
    | none =>
      if place.rest.head? == some ' ' then
        let next := place.step
        blockIndentation fuel (max widest next.column) next
      else ([], widest, place)

/-- The number of spaces to skip up to a column. -/
def missingSpaces (indent : Nat) (place : Place) : Nat :=
  min (indent - place.column) (place.rest.takeWhile (· == ' ')).length

/-- The blank lines inside a block, and the place behind them. -/
def blockBreaks (indent : Nat) : (fuel : Nat) → Place → List Char × Place
  | 0, place => ([], place)
  | fuel + 1, place =>
    let place := place.forward (missingSpaces indent place)
    match place.lineBreak? with
    | some (char, next) =>
      let (breaks, last) := blockBreaks indent fuel next
      (char :: breaks, last)
    | none => ([], place)

/-- The place starts with a blank. -/
def startsBlank (place : Place) : Bool :=
  match place.rest with
  | char :: _ => char == ' ' || char == '\t'
  | [] => false

/-- Reads the lines of a block that are indented up to a column; `breaks` are the blank lines before
the first of them. -/
def blockLines (folding : Bool) (chomping : Chomping) (indent : Nat) : (fuel : Nat) →
    (breaks : List Char) → Place → List Char × Place
  | 0, _, place => ([], place)
  | fuel + 1, breaks, place =>
    let goesOn (place : Place) : Bool := place.column == indent && !place.rest.isEmpty
    if goesOn place then
      let line := place.rest.takeWhile fun char => !isBreak char
      let behind := place.forward line.length
      let (lineEnd, next) := match behind.lineBreak? with
        | some (char, next) => ([char], next)
        | none => ([], behind)
      let (blank, next) := blockBreaks indent (next.rest.length + 1) next
      if goesOn next then
        let joint :=
          if folding && lineEnd == ['\n'] && !startsBlank place && !startsBlank next then
            if blank.isEmpty then [' '] else []
          else lineEnd
        let (others, last) := blockLines folding chomping indent fuel blank next
        (breaks ++ line ++ joint ++ others, last)
      else
        let tail := match chomping with
          | .strip => []
          | .clip => lineEnd
          | .keep => lineEnd ++ blank
        (breaks ++ line ++ tail, next)
    else
      (if chomping == .keep then breaks else [], place)

/-- Reads a block scalar from behind its indicator, inside a block that is indented by `indent`. -/
def blockScalar? (folding : Bool) (indent : Int) (place : Place) : Option (List Char × Place) :=
  (blockHead? place).bind fun (head, next) => (ignoredLine? next).map fun start =>
    let least := (max (indent + 1) 1).toNat
    let fuel := start.rest.length + 1
    match head.increment with
    | none =>
      let (breaks, widest, first) := blockIndentation fuel 0 start
      blockLines folding head.chomping (max least widest) fuel breaks first
    | some increment =>
      let column := least + increment - 1
      let (breaks, first) := blockBreaks column fuel start
      blockLines folding head.chomping column fuel breaks first

end Shortcode.Yaml
