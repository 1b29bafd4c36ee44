import Shortcode.Markdown.Definition
import Shortcode.Markdown.Table

/-!
# Reading the blocks of a text

`readBlocks` reads the lines of a text from the top.  A line that starts nothing belongs to the
paragraph before it; quotations and items of lists are texts of their own, without tables and notes
in them.
-/

namespace Shortcode.Markdown

/-! ## Blocks without blocks in them -/

/-- The blocks before, the last one first, with a line more in the paragraph that they end with. -/
def addLine (line : Line) : (blocks : List Block) → List Block
  | .paragraph words :: rest => .paragraph (words ++ line ++ ['\n']) :: rest
  | blocks => .paragraph (line ++ ['\n']) :: blocks

/-- The blocks end with a paragraph. -/
def inParagraph : (blocks : List Block) → Bool
  | .paragraph _ :: _ => true
  | _ => false

/-- The lines before one that meets a condition, and those from it on. -/
def splitLines (found : Line → Bool) (lines : List Line) : List Line × List Line :=
  (lines.takeWhile (!found ·), lines.dropWhile (!found ·))

/-- The block of code behind a fence, and the lines behind it. -/
def fencedCode (fence : CodeFence) (lines : List Line) : Block × List Line :=
  let (inner, rest) := splitLines fence.closedBy lines
  let info := String.ofList (Text.trim (unescaped fence.info))
  (.code (if fence.info.isEmpty then none else some info)
    (String.ofList (textOf (inner.map (outdent fence.indent)))), rest.drop 1)

/-- The blocks behind an indented line that starts a block of code, the last one first, and the
lines behind them.  Blanks behind the code belong to it, so what follows them in their line starts a
paragraph. -/
def indentedCode (lines : List Line) : List Block × List Line :=
  let (inner, rest) := splitLines (fun line => !(isCodeLine line || line.all Text.isBlank)) lines
  let kept := inner.map fun line => outdent 4 (spreadTab 4 line)
  let kept := (kept.reverse.dropWhile List.isEmpty).reverse
  let code := Block.code none (String.ofList (['\n'].intercalate kept))
  match rest with
  | line :: behind =>
    if line.head?.any Text.isBlank then (addLine (Text.trimStart line) [code], behind)
    else ([code], rest)
  | [] => ([code], [])

/-- The block of markup that starts here, and the lines behind it. -/
def markupBlock (ending : MarkupEnd) (lines : List Line) : Block × List Line :=
  let (inner, rest) := match ending with
    | .text closer distance =>
      let first := (lines.head?.getD []).dropWhile (· == ' ')
      let holds (line : Line) : Bool := (Text.splitAt? closer line).isSome
      if holds (first.drop distance) then (lines.take 1, lines.drop 1)
      else
        let (inner, rest) := splitLines holds (lines.drop 1)
        (lines.take 1 ++ inner ++ rest.take 1, rest.drop 1)
    | _ => splitLines isBlankLine lines
  (.html (String.ofList (textOf inner)), rest)

/-! ## Quotations -/

/-- A part of a quotation, without the blank that may follow its mark. -/
def quotedWords (rest : Line) : Line := outdent 1 (spreadTab 3 rest)

/-- A line ends the paragraph of a quotation although it has no mark. -/
def breaksQuote (line : Line) : Bool :=
  isBlankLine line || isRule 3 line || (codeFence? 3 line).any (·.opens) ||
    (item? 3 line).isSome || breaksWithMarkup 3 line

/-- The lines of a quotation, and those behind it. -/
structure QuoteLines where
  /-- The lines without their marks. -/
  inner : List Line
  rest : List Line
  /-- The lines without a mark, by the number of lines of the quotation behind each of them. -/
  soft : List Nat
  /-- A line without a mark might have gone on with a paragraph, but starts something else. -/
  broken : Bool

/-- The quotation has a line more before the others. -/
def QuoteLines.after (line : Line) (isSoft : Bool) (found : QuoteLines) : QuoteLines :=
  { found with
    inner := line :: found.inner
    soft := if isSoft then found.inner.length :: found.soft else found.soft }

/-- The lines of a quotation behind its first one.  Where `strict` holds, every line needs a mark;
otherwise a line without one may go on with a paragraph. -/
def quoteLines (strict blankBefore : Bool) : (lines : List Line) → QuoteLines
  | [] => ⟨[], [], [], false⟩
  | line :: rest =>
    match quoted? 3 line with
    | some words => (quoteLines strict (isBlankLine words) rest).after (quotedWords words) false
    | none =>
      if strict || blankBefore then ⟨[], line :: rest, [], false⟩
      else if breaksQuote line then ⟨[], line :: rest, [], true⟩
      else (quoteLines strict false rest).after (spreadTab 3 line) true

/-- The lines of a quotation that starts with some words. -/
def quotation (words : Line) (lines : List Line) : QuoteLines :=
  let first := quotedWords words
  let strict := isBlankLine first || isCodeLine first || (codeFence? 3 first).isSome
  let found := (quoteLines strict (isBlankLine first) lines).after first false
  { found with inner := found.inner.map widenTab }

/-! ## Lists -/

/-- The first words of an item, and the column that its further lines start at. -/
def itemWords (start : ItemStart) : List Char × Nat :=
  let words := widenTab (spreadTab 3 start.words)
  if isGapOnly words then ([], start.width + 1)
  else
    let gap := if indentOf words ≥ 5 then 1 else indentOf words
    (words.drop gap, start.width + gap)

/-- A line ends a list although a paragraph might go on with it. -/
def breaksList (most : Nat) (line : Line) : Bool :=
  (codeFence? most line).any (·.opens) || (heading? most line).isSome ||
    (quoted? most line).isSome || (item? most line).isSome || breaksWithMarkup most line

/-- The lines of an item, the start of the next one, and the lines behind. -/
structure ItemLines where
  inner : List Line
  next : Option ItemStart
  /-- A blank line stands before the next item. -/
  gap : Bool
  rest : List Line

/-- The lines of an item have a line more. -/
def ItemLines.after (line : Line) (found : ItemLines) : ItemLines :=
  { found with inner := line :: found.inner }

/-- Reads the lines of an item from a column on.  `filled` tells whether it has words so far. -/
def itemLines (start : ItemStart) (mark : Char) (column : Nat) : (filled blankBefore : Bool) →
    (lines : List Line) → ItemLines
  | _, _, [] => ⟨[], none, false, []⟩
  | filled, blankBefore, line :: rest =>
    let ended : ItemLines := ⟨[], none, false, line :: rest⟩
    let most := min 3 start.width
    let spread := spreadTab 4 line
    if isBlankLine line then (itemLines start mark column filled true rest).after []
    else if indentOf spread ≥ column then
      if blankBefore && !filled then ended
      else (itemLines start mark column true false rest).after (widenTab (spread.drop column))
    else if isRule most line then ended
    else match nextItem? mark most line with
      | some next => ⟨[], some next, blankBefore, rest⟩
      | none =>
        if breaksList most line || blankBefore then ended
        else (itemLines start mark column true false rest).after spread

/-- The lines without the blank ones at their end.  One is left of lines that are all blank. -/
def withoutBlankEnd (lines : List Line) : List Line :=
  let kept := (lines.reverse.dropWhile fun line => line.all Text.isBlank).reverse
  if kept.isEmpty then lines.take 1 else kept

/-- The items of a list with a mark, each with its lines, whether a blank line stands between two of
them, and the lines behind; `fuel` bounds their number. -/
def itemsFrom (mark : Char) : (fuel : Nat) → (start : ItemStart) → (lines : List Line) →
    List (List Line) × Bool × List Line
  | 0, _, lines => ([], false, lines)
  | fuel + 1, start, lines =>
    let (words, column) := itemWords start
    let found := itemLines start mark column (!words.isEmpty) false lines
    let inner := withoutBlankEnd ((if words.isEmpty then [] else [words]) ++ found.inner)
    match found.next with
    | none => ([inner], false, found.rest)
    | some next =>
      let (others, gap, rest) := itemsFrom mark fuel next found.rest
      (inner :: others, found.gap || gap, rest)

/-- The blocks of an item are set apart: a blank line or two paragraphs are among them. -/
def isLoose (blocks : List Block) : Bool :=
  blocks.any (fun block => match block with | .blank => true | _ => false) ||
    (blocks.filter fun block => match block with | .paragraph _ => true | _ => false).length > 1

/-- The blocks of an item whose paragraphs are not set apart. -/
def tightened (blocks : List Block) : List Block :=
  blocks.map fun block => match block with
    | .paragraph words => .line words
    | other => other

/-- The item may start a list in the middle of a paragraph: it has words, and no number but one. -/
def ItemStart.breaksParagraph (start : ItemStart) : Bool :=
  !(Text.trim start.words).isEmpty &&
    (start.digits.isEmpty || (String.ofList start.digits).toNat? == some 1)

/-- The number that a list starts with. -/
def firstNumber (start : ItemStart) : Option Nat :=
  if start.digits.isEmpty then none else (String.ofList start.digits).toNat?

/-! ## Reading -/

/-- Where blocks are read. -/
structure Scope where
  /-- The number of blocks around. -/
  depth : Nat
  /-- Tables and notes may stand here. -/
  notes : Bool
  lists : Bool
  quotes : Bool
  /-- The lines that underline nothing, by the number of lines behind each of them. -/
  soft : List Nat

namespace Scope

/-- The scope of a whole text. -/
def top : Scope := ⟨0, true, true, true, []⟩

/-- The scope of the text of a note. -/
def inNote : Scope := { top with depth := 1 }

/-- Lists stand in lists and quotations in quotations up to this depth. -/
def deepest : Nat := 5

/-- The scope of the items of a list. -/
def inList (scope : Scope) : Scope := ⟨scope.depth + 1, false, scope.depth < deepest, true, []⟩

/-- The scope of a quotation. -/
def inQuote (scope : Scope) (soft : List Nat) : Scope :=
  ⟨scope.depth + 1, false, true, scope.depth < deepest, soft⟩

end Scope

/-- What a line comes to: a block that needs no others, a block of code with what follows in its last
line, a heading that it underlines, the lines of a quotation or of the items of a list, a definition,
or a line of a paragraph. -/
inductive Piece where
  | block (block : Block) (rest : List Line)
  | code (found : List Block) (rest : List Line)
  | heading (level : Nat) (rest : List Line)
  | quote (found : QuoteLines)
  | list (start : ItemStart) (items : List (List Line)) (gap : Bool) (rest : List Line)
  | define (definitions : Definitions) (rest : List Line)
  | line

/-- The list that starts with an item. -/
def listPiece (start : ItemStart) (rest : List Line) : Piece :=
  let (items, gap, behind) := itemsFrom start.mark (rest.length + 1) start rest
  .list start items gap behind

/-- What a line comes to that would underline a heading. -/
def underlinePiece (blocks : List Block) (level : Nat) (line : Line) (rest : List Line) : Piece :=
  if inParagraph blocks then .heading level rest
  else if isRule 3 line then .block .rule rest
  else match item? 3 line with
    | some start => listPiece start rest
    | none => .line

/-- What a line comes to that may start a definition, markup or a table. -/
def lastPiece (scope : Scope) (definitions : Definitions) (blocks : List Block) (line : Line)
    (rest : List Line) : Piece :=
  let lines := line :: rest
  match if scope.notes then noteDefinition? definitions lines else none with
  | some (definitions, behind) => .define definitions behind
  | none =>
    if (linkLabel? lines).isSome then
      if inParagraph blocks then .line
      else match linkDefinition? definitions lines with
        | some (definitions, behind) => .define definitions behind
        | none => .line
    else if startsMarkup line then
      match markupEnd? line with
      | none => .line
      | some ending =>
        if ending.isLoose && inParagraph blocks then .line
        else
          let (block, behind) := markupBlock ending lines
          .block block behind
    else match (if scope.notes then tableLines? lines else none) with
      | none => .line
      | some found => match found.table? with
        | some table => .block table found.rest
        | none => .line

/-- What the next line comes to, behind some blocks. -/
def pieceAt (scope : Scope) (definitions : Definitions) (blocks : List Block) (line : Line)
    (rest : List Line) : Piece :=
  let underlines := if scope.soft.contains rest.length then none else underline? line
  match codeFence? 3 line, heading? 3 line, underlines with
  | some fence, _, _ =>
    if fence.opens then
      let (block, behind) := fencedCode fence rest
      .block block behind
    else .line
  | none, some (level, words), _ => .block (.heading level words) rest
  | none, none, some level => underlinePiece blocks level line rest
  | none, none, none =>
    if isCodeLine line then
      if inParagraph blocks then .line
      else
        let (found, behind) := indentedCode (line :: rest)
        .code found behind
    else if isRule 3 line then .block .rule rest
    else match (quoted? 3 line).filter fun _ => scope.quotes,
        (item? 3 line).filter fun _ => scope.lists with
      | some words, _ => .quote (quotation words rest)
      | none, some start =>
        if inParagraph blocks && !start.breaksParagraph then .line else listPiece start rest
      | none, none =>
        if isBlankLine line then .block .blank (rest.dropWhile isBlankLine)
        else lastPiece scope definitions blocks line rest

/-- The blocks with a quotation more, and the lines behind it.  A line that would break the quotation
with a list goes on with a paragraph right before it, if the list may not break that. -/
def withQuote (quote : Block) (found : QuoteLines) (blocks : List Block) :
    List Block × List Line :=
  match blocks, found.rest with
  | .paragraph words :: others, line :: behind =>
    if found.broken && !isRule 3 line && (item? 3 line).any (!·.breaksParagraph) then
      (addLine line (.paragraph words :: quote :: others), behind)
    else (quote :: blocks, found.rest)
  | _, _ => (quote :: blocks, found.rest)

mutual

/-- Reads lines behind some blocks, the last one first.  The blocks and the definitions are
returned, the first block first. -/
def readFrom (scope : Scope) : (fuel : Nat) → Definitions → (blocks : List Block) →
    (lines : List Line) → List Block × Definitions
  | 0, definitions, blocks, _ => (blocks.reverse, definitions)
  | _ + 1, definitions, blocks, [] => (blocks.reverse, definitions)
  | fuel + 1, definitions, blocks, line :: rest =>
    match pieceAt scope definitions blocks line rest with
    | .block block behind => readFrom scope fuel definitions (block :: blocks) behind
    | .code found behind => readFrom scope fuel definitions (found ++ blocks) behind
    | .heading level behind =>
      let headed := match blocks with
        | .paragraph words :: others => .heading level words :: others
        | other => other
      readFrom scope fuel definitions headed behind
    | .quote found =>
      let (quoted, definitions) := readFrom (scope.inQuote found.soft) fuel definitions [] found.inner
      let (blocks, behind) := withQuote (.quote quoted) found blocks
      readFrom scope fuel definitions blocks behind
    | .list start items gap behind =>
      let (items, definitions) := readItems scope.inList fuel definitions items
      let tight := !gap && !items.any isLoose
      let list := Block.list (firstNumber start) (if tight then items.map tightened else items)
      readFrom scope fuel definitions (list :: blocks) behind
    | .define definitions behind => readFrom scope fuel definitions blocks behind
    | .line => readFrom scope fuel definitions (addLine line blocks) rest

/-- Reads the items of a list. -/
def readItems (scope : Scope) : (fuel : Nat) → Definitions → (items : List (List Line)) →
    List (List Block) × Definitions
  | 0, definitions, _ => ([], definitions)
  | _ + 1, definitions, [] => ([], definitions)
  | fuel + 1, definitions, item :: rest =>
    let (first, definitions) := readFrom scope fuel definitions [] item
    let (others, definitions) := readItems scope fuel definitions rest
    (first :: others, definitions)

end

/-- Reads the blocks of a text. -/
def readBlocks (scope : Scope) (definitions : Definitions) (text : List Char) :
    List Block × Definitions :=
  readFrom scope (8 * text.length + 16) definitions [] (linesOf text)

end Shortcode.Markdown
