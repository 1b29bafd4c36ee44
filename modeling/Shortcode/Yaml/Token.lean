import Shortcode.Text.Utf8
import Shortcode.Yaml.Written

/-!
# Tokens of a YAML text

`tokens?` cuts a text into tokens.  Indentation becomes tokens of its own, which open and close
blocks, and what turns out to be a key is marked where it starts: a key is on one line with its
colon.  A text that is not YAML has no tokens.
-/

namespace Shortcode.Yaml

/-- A piece of a YAML text. -/
inductive Token where
  | version (major : Nat)
  | tagHandle (handle lead : String)
  /-- A directive without a meaning of its own. -/
  | reserved
  | documentStart
  | documentEnd
  | blockSequenceStart
  | blockMappingStart
  | blockEnd
  | flowSequenceStart
  | flowSequenceEnd
  | flowMappingStart
  | flowMappingEnd
  | blockEntry
  | flowEntry
  | key
  | value
  | alias (name : String)
  | anchor (name : String)
  | tag (handle : Option String) (suffix : String)
  | scalar (content : String) (plain : Bool)
  /-- A quoted scalar with the number of no character in it, behind which nothing is read. -/
  | noCharacter (code : Nat)
deriving DecidableEq, Repr

/-- A token that may turn out to start a key. -/
structure KeyCandidate where
  /-- The flow collections around it. -/
  level : Nat
  /-- How many tokens stand before it. -/
  index : Nat
  /-- It has to be a key, because the block it stands in is a mapping. -/
  required : Bool
  offset : Nat
  line : Nat
  column : Nat

/-- What the text up to a place has laid out. -/
structure Layout where
  place : Place
  tokens : Array Token
  /-- The flow collections that are open. -/
  level : Nat
  /-- The columns of the blocks that are open, innermost first. -/
  indents : List Nat
  /-- A key may start here. -/
  allowKey : Bool
  /-- At most one for each level. -/
  candidates : List KeyCandidate

namespace Layout

/-- The longest key, in characters. -/
def keyLimit : Nat := 1024

/-- The column of the innermost block; the text itself is in none. -/
def indent (layout : Layout) : Int :=
  match layout.indents with
  | [] => -1
  | column :: _ => column

/-- The layout with a token more, behind `count` characters. -/
def push (layout : Layout) (token : Token) (count : Nat) : Layout :=
  { layout with
    tokens := layout.tokens.push token, place := layout.place.forward count }

/-- Closes the blocks that are indented more than a column. -/
def unwind (layout : Layout) (column : Int) : Layout :=
  if layout.level > 0 then layout
  else
    let closed := layout.indents.takeWhile fun (indent : Nat) => Int.ofNat indent > column
    { layout with
      indents := layout.indents.drop closed.length
      tokens := layout.tokens ++ Array.replicate closed.length Token.blockEnd }

/-- Opens a block at a column, if it is indented more than the innermost one; the block's token
stands before the token of an index. -/
def openBlock (layout : Layout) (column index : Nat) (token : Token) : Layout :=
  if layout.indent < column then
    { layout with
      indents := column :: layout.indents
      tokens := layout.tokens.extract 0 index ++ #[token] ++
        layout.tokens.extract index layout.tokens.size }
  else layout

/-- Gives up the candidate of this level; nothing if it has to be a key. -/
def dropCandidate? (layout : Layout) : Option Layout :=
  let (here, others) := layout.candidates.partition fun found => found.level == layout.level
  if here.any (·.required) then none else some { layout with candidates := others }

/-- Gives up the candidates that are too far back; nothing if one of them has to be a key. -/
def dropStale? (layout : Layout) : Option Layout :=
  let (stale, others) := layout.candidates.partition fun found =>
    found.line != layout.place.line || layout.place.offset - found.offset > keyLimit
  if stale.any (·.required) then none else some { layout with candidates := others }

/-- Notes that the next token may start a key. -/
def saveCandidate? (layout : Layout) : Option Layout :=
  if layout.allowKey then
    layout.dropCandidate?.map fun layout =>
      let place := layout.place
      let required := layout.level == 0 && layout.indent == place.column
      { layout with
        candidates := ⟨layout.level, layout.tokens.size, required, place.offset, place.line,
          place.column⟩ :: layout.candidates }
  else some layout

/-- Moves past blanks, comments and line ends.  A new line allows a key again. -/
def skipBlank : (fuel : Nat) → Layout → Layout
  | 0, layout => layout
  | fuel + 1, layout =>
    let place := (layout.place.skipWhile (· == ' ')).skipComment
    match place.lineBreak? with
    | some (_, next) =>
      skipBlank fuel { layout with
        place := next, allowKey := layout.allowKey || layout.level == 0 }
    | none => { layout with place := place }

/-- A character of a name. -/
def isNameChar (char : Char) : Bool := char.isAlphanum || char == '-' || char == '_'

/-- A character of the suffix of a tag. -/
def isAddressChar (char : Char) : Bool :=
  char.isAlphanum || "-;/?:@&=+$,_.!~*'()[]%".toList.contains char

/-- Reads an anchor or an alias from behind its sign. -/
def nameAfterSign? (place : Place) : Option (String × Nat) :=
  let name := (place.rest.drop 1).takeWhile isNameChar
  let ends := match place.peek? (name.length + 1) with
    | none => true
    | some char => isSpace char || "?:,]\x7d%@\x60".toList.contains char
  if name.isEmpty || !ends then none else some (String.ofList name, name.length + 1)

/-- The bytes of the escapes that a text starts with, and what follows them. -/
def escapedBytes? : (text : List Char) → Option (List UInt8 × List Char)
  | '%' :: first :: second :: rest => do
    let byte ← Text.hexNumber? 2 [first, second]
    let (bytes, rest) ← escapedBytes? rest
    return (UInt8.ofNat byte :: bytes, rest)
  | '%' :: _ => none
  | text => some ([], text)

/-- The address that a text starts with, its escapes decoded, and what follows it. -/
def addressAt? : (fuel : Nat) → (text : List Char) → Option (List Char × List Char)
  | 0, text => some ([], text)
  | fuel + 1, text =>
    match text with
    | [] => some ([], [])
    | char :: rest =>
      if char == '%' then do
        let (bytes, rest) ← escapedBytes? text
        let decoded ← (Text.Utf8.decode bytes).toOption
        let (others, rest) ← addressAt? fuel rest
        return (decoded ++ others, rest)
      else if isAddressChar char then do
        let (others, rest) ← addressAt? fuel rest
        return (char :: others, rest)
      else some ([], text)

/-- An address of at least one character, and what follows it. -/
def fullAddress? (text : List Char) : Option (String × List Char) := do
  let (address, rest) ← addressAt? text.length text
  if address.isEmpty then none else some (String.ofList address, rest)

/-- The handle of a tag, from behind its first sign, and what follows it. -/
def tagHandle? (text : List Char) : Option (String × List Char) :=
  let word := text.takeWhile fun char => !(char == ' ' || isBreak char)
  if word.contains '!' then
    let name := text.takeWhile isNameChar
    match text.drop name.length with
    | '!' :: rest => some ("!" ++ String.ofList name ++ "!", rest)
    | _ => none
  else some ("!", text)

/-- Reads a tag: its handle, its suffix and the number of its characters. -/
def tagAt? (place : Place) : Option (Option String × String × Nat) := do
  let (handle, suffix, rest) : Option String × String × List Char ← match place.rest.drop 1 with
    | '<' :: inner => do
      let (suffix, rest) ← fullAddress? inner
      let rest ← Text.dropLead? ['>'] rest
      pure (none, suffix, rest)
    | text =>
      if place.endsWord 1 then pure (none, "!", text)
      else do
        let (handle, inner) ← tagHandle? text
        let (suffix, rest) ← fullAddress? inner
        pure (some handle, suffix, rest)
  match rest with
  | [] => pure ()
  | char :: _ => if char == ' ' || isBreak char then pure () else none
  return (handle, suffix, place.rest.length - rest.length)

/-- Reads a directive from behind its sign, up to the next line. -/
def directiveAt? (place : Place) : Option (Token × Place) := do
  let name := place.rest.takeWhile isNameChar
  let behind := place.forward name.length
  if name.isEmpty || !(behind.endsLine || behind.rest.head? == some ' ') then none
  else if name == "YAML".toList then
    let start := behind.skipWhile (· == ' ')
    let major := start.rest.takeWhile Char.isDigit
    let minor := (start.rest.drop (major.length + 1)).takeWhile Char.isDigit
    let next := start.forward (major.length + 1 + minor.length)
    if major.isEmpty || minor.isEmpty || start.rest[major.length]? != some '.' ||
        !(next.endsLine || next.rest.head? == some ' ') then none
    else
      let last ← ignoredLine? next
      return (.version (major.foldl (fun n c => 10 * n + (c.toNat - 48)) 0), last)
  else if name == "TAG".toList then
    let start := behind.skipWhile (· == ' ')
    let handle := start.rest.takeWhile fun char => char != ' ' && !isBreak char
    let middle := start.forward handle.length
    let leadPlace := middle.skipWhile (· == ' ')
    let (lead, rest) ← fullAddress? leadPlace.rest
    let next := leadPlace.forward (leadPlace.rest.length - rest.length)
    let inner := (handle.drop 1).dropLast
    if handle.head? != some '!' || handle.getLast? != some '!' || !inner.all isNameChar ||
        middle.rest.head? != some ' ' || !(next.endsLine || next.rest.head? == some ' ') then none
    else
      let last ← ignoredLine? next
      return (.tagHandle (String.ofList handle) lead, last)
  else
    let last ← ignoredLine? (behind.skipWhile fun char => !isBreak char)
    return (.reserved, last)

/-- A token of one or more characters after which no key may start. -/
def pushAfterKey? (layout : Layout) (token : Token) (count : Nat) : Option Layout :=
  layout.saveCandidate?.map fun layout =>
    { layout.push token count with allowKey := false }

/-- The start or end of a document, or a directive. -/
def pushOutside? (layout : Layout) : Option Layout :=
  (layout.unwind (-1)).dropCandidate?.map fun layout => { layout with allowKey := false }

/-- The start of a flow collection. -/
def openFlow? (layout : Layout) (token : Token) : Option Layout :=
  layout.saveCandidate?.map fun layout =>
    { layout.push token 1 with level := layout.level + 1, allowKey := true }

/-- The end of a flow collection. -/
def closeFlow? (layout : Layout) (token : Token) : Option Layout :=
  if layout.level == 0 then none
  else layout.dropCandidate?.map fun layout =>
    { layout.push token 1 with level := layout.level - 1, allowKey := false }

/-- The sign of an item or of a key that stands for itself. -/
def pushSign? (layout : Layout) (block sign : Token) (allowKey : Bool) : Option Layout :=
  if layout.level == 0 && !layout.allowKey then none
  else
    let opened :=
      if layout.level == 0 then
        layout.openBlock layout.place.column layout.tokens.size block
      else layout
    opened.dropCandidate?.map fun layout => { layout.push sign 1 with allowKey := allowKey }

/-- The colon of a value.  The candidate of its level, if there is one, is its key. -/
def pushValue? (layout : Layout) : Option Layout :=
  match layout.candidates.find? fun found => found.level == layout.level with
  | some found =>
    let marked := { layout with
      candidates := layout.candidates.filter fun other => other.level != layout.level
      tokens := layout.tokens.extract 0 found.index ++ #[Token.key] ++
        layout.tokens.extract found.index layout.tokens.size }
    let opened :=
      if layout.level == 0 then marked.openBlock found.column found.index .blockMappingStart
      else marked
    some { opened.push .value 1 with allowKey := false }
  | none => layout.pushSign? .blockMappingStart .value (layout.level == 0)

/-- A plain scalar may start here. -/
def startsPlain (layout : Layout) : Bool :=
  match layout.place.rest with
  | [] => false
  | char :: _ =>
    !(isSpace char || "-?:,[]\x7b\x7d#&*!|>'\"%@\x60".toList.contains char) ||
      (!layout.place.endsWord 1 &&
        (char == '-' || (layout.level == 0 && (char == '?' || char == ':'))))

/-- A scalar whose content has been read. -/
def pushScalar (layout : Layout) (content : List Char) (plain allowKey : Bool) (place : Place) :
    Layout :=
  { layout with
    tokens := layout.tokens.push (.scalar (String.ofList content) plain)
    allowKey := allowKey, place := place }

/-- Reads the scalar that starts here. -/
def scalarAt? (layout : Layout) (char : Char) : Option Layout :=
  let place := layout.place
  let fuel := place.rest.length + 1
  if layout.level == 0 && (char == '|' || char == '>') then do
    let layout ← layout.dropCandidate?
    let (content, next) ← blockScalar? (char == '>') layout.indent place.step
    return layout.pushScalar content false true next
  else if char == '\'' || char == '"' then do
    let layout ← layout.saveCandidate?
    match quotedScalar (char == '"') fuel place.step with
    | .ok (content, next) => return layout.pushScalar content false false next
    | .error (.noCharacter code) => return layout.push (.noCharacter code) 0
    | .error .malformed => none
  else if layout.startsPlain then do
    let layout ← layout.saveCandidate?
    let found := plainScalar (layout.level > 0) (layout.indent + 1) fuel ⟨[], place, false⟩
    return layout.pushScalar found.content true found.crossesLine found.place
  else none

/-- Reads the token that starts here. -/
def tokenAt? (layout : Layout) (char : Char) : Option Layout :=
  let place := layout.place
  let inFlow := layout.level > 0
  if place.column == 0 && char == '%' then do
    let layout ← layout.pushOutside?
    let (token, next) ← directiveAt? place.step
    return { layout with tokens := layout.tokens.push token, place := next }
  else if place.column == 0 && place.atMarker then
    layout.pushOutside?.map fun layout =>
      layout.push (if char == '-' then .documentStart else .documentEnd) 3
  else if char == '[' then layout.openFlow? .flowSequenceStart
  else if char == '{' then layout.openFlow? .flowMappingStart
  else if char == ']' then layout.closeFlow? .flowSequenceEnd
  else if char == '}' then layout.closeFlow? .flowMappingEnd
  else if char == ',' then
    layout.dropCandidate?.map fun layout => { layout.push .flowEntry 1 with allowKey := true }
  else if char == '-' && place.endsWord 1 then
    layout.pushSign? .blockSequenceStart .blockEntry true
  else if char == '?' && (inFlow || place.endsWord 1) then
    layout.pushSign? .blockMappingStart .key (!inFlow)
  else if char == ':' && (inFlow || place.endsWord 1) then layout.pushValue?
  else if char == '*' then
    (nameAfterSign? place).bind fun (name, count) => layout.pushAfterKey? (.alias name) count
  else if char == '&' then
    (nameAfterSign? place).bind fun (name, count) => layout.pushAfterKey? (.anchor name) count
  else if char == '!' then
    (tagAt? place).bind fun (handle, suffix, count) =>
      layout.pushAfterKey? (.tag handle suffix) count
  else layout.scalarAt? char

/-- Nothing is read behind the last token. -/
def isBroken (layout : Layout) : Bool :=
  match layout.tokens.back? with
  | some (.noCharacter _) => true
  | _ => false

/-- Reads the tokens from here to the end; each uses up a character. -/
def run : (fuel : Nat) → Layout → Option (Array Token)
  | 0, _ => none
  | fuel + 1, layout => do
    if layout.isBroken then return layout.tokens
    let layout ← (skipBlank (layout.place.rest.length + 1) layout).dropStale?
    let layout := layout.unwind layout.place.column
    match layout.place.rest with
    | [] =>
      let last ← (layout.unwind (-1)).dropCandidate?
      return last.tokens
    | char :: _ => run fuel (← layout.tokenAt? char)

end Layout

/-- The tokens of a text, if it is YAML so far. -/
def tokens? (text : List Char) : Option (List Token) :=
  if text.all isAllowed then
    let text := if text.head? == some '\ufeff' then text.drop 1 else text
    let start : Layout := ⟨.ofText text, #[], 0, [], true, []⟩
    (start.run (text.length + 1)).map (·.toList)
  else none

end Shortcode.Yaml
