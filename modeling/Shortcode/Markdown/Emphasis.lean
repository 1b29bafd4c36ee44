import Shortcode.Markdown.Node
import Shortcode.Text.Alphanumeric
import Shortcode.Text.Blank

/-!
# Emphasis

A row of marks may open emphasis, close it, or both, as the characters beside it allow.  `paired`
goes through the parts of a text from left to right and pairs each row that may close with the
nearest open row of its mark; two marks on both sides are strong, and what is left over stays as it
is.
-/

namespace Shortcode.Markdown

/-- A part of a text: a span, or a row of marks. -/
inductive Inline where
  | span (content : Span)
  | marks (mark : Char) (count : Nat) (opens closes : Bool)

/-- No word goes on here. -/
def isGapBeside (char : Option Char) : Bool := char.all Text.isBlank

/-- A sign of punctuation stands here. -/
def isSignBeside (char : Option Char) : Bool :=
  char.any fun char => 0x20 < char.toNat && char.toNat < 0x7f && !char.isAlphanum

/-- A row of marks between two characters.  A line inside a word neither opens nor closes. -/
def Inline.ofMarks (mark : Char) (count : Nat) (before after : Option Char) : Inline :=
  let besideGap (char : Option Char) : Bool := isGapBeside char || isSignBeside char
  let leans (inner outer : Option Char) : Bool :=
    !isGapBeside inner && (!isSignBeside inner || besideGap outer)
  let (left, right) := (leans after before, leans before after)
  if mark == '_' then
    .marks mark count (left && (!right || isSignBeside before))
      (right && (!left || isSignBeside after))
  else .marks mark count left right

/-- A row of marks that is open, and the spans behind it, the last one first. -/
structure OpenRow where
  mark : Char
  /-- The marks that are not paired yet. -/
  count : Nat
  /-- The length of the whole row. -/
  length : Nat
  /-- The row may close emphasis too. -/
  closes : Bool
  inner : List Span

/-- The spans before the first open row, the last one first, and the open rows, innermost first. -/
structure Pairing where
  outer : List Span
  rows : List OpenRow

/-- The marks themselves. -/
def marksText (mark : Char) (count : Nat) : List Span :=
  if count == 0 then [] else [.text (List.replicate count mark)]

/-- The spans of open rows that stay open, the last one first. -/
def unpaired (rows : List OpenRow) : List Span :=
  rows.flatMap fun row => row.inner ++ marksText row.mark row.count

/-- More spans behind the others, the last one first. -/
def Pairing.add (pairing : Pairing) (spans : List Span) : Pairing :=
  match pairing.rows with
  | [] => { pairing with outer := spans ++ pairing.outer }
  | row :: rows => { pairing with rows := { row with inner := spans ++ row.inner } :: rows }

/-- Two rows pair.  If one of them may both open and close, their lengths may not add up to a
multiple of three, unless both are one. -/
def OpenRow.pairsWith (row : OpenRow) (mark : Char) (length : Nat) (opens : Bool) : Bool :=
  let threes := (row.length + length) % 3 == 0 && (row.length % 3 != 0 || length % 3 != 0)
  row.mark == mark && !((row.closes || opens) && threes)

/-- Pairs the marks of a row with the open rows: the marks that are left, and the pairing after. -/
def Pairing.close (mark : Char) (length : Nat) (opens : Bool) : (count : Nat) → Pairing →
    Nat × Pairing
  | 0, pairing => (0, pairing)
  | count + 1, pairing =>
    let pairsNot (row : OpenRow) : Bool := !row.pairsWith mark length opens
    match pairing.rows.dropWhile pairsNot with
    | [] => (count + 1, pairing)
    | row :: rows =>
      let inner := (unpaired (pairing.rows.takeWhile pairsNot) ++ row.inner).reverse
      let strong := 2 ≤ row.count && 1 ≤ count
      let span := if strong then Span.strong inner else .emphasis inner
      let width := if strong then 2 else 1
      let left := row.count - width
      let next : Pairing :=
        if left == 0 then Pairing.add { pairing with rows := rows } [span]
        else { pairing with rows := { row with count := left, inner := [span] } :: rows }
      Pairing.close mark length opens (if strong then count - 1 else count) next
termination_by count => count
decreasing_by split <;> omega

/-- One part more. -/
def Pairing.step (pairing : Pairing) : Inline → Pairing
  | .span content => pairing.add [content]
  | .marks mark count opens closes =>
    let (left, pairing) :=
      if closes then pairing.close mark count opens count else (count, pairing)
    if left > 0 && opens then
      { pairing with rows := ⟨mark, left, count, closes, []⟩ :: pairing.rows }
    else pairing.add (marksText mark left)

/-- The spans of the parts of a text. -/
def paired (parts : List Inline) : List Span :=
  let pairing := parts.foldl Pairing.step ⟨[], []⟩
  (unpaired pairing.rows ++ pairing.outer).reverse

end Shortcode.Markdown
