import Shortcode.Document.CodeSpan

/-!
# The cursor over a document

A cursor stands between two characters of a document and stops at the delimiters that open a
shortcode in prose.  It knows what stands before it and what is left, so a document is never cut or
changed by moving through it: `Cursor.text` stays the same.
-/

namespace Shortcode

/-- The two ways to write a shortcode. -/
inductive Shape where
  /-- `{{< … >}}`, on one line. -/
  | inline
  /-- `{{% … %}}`, with a body up to an end tag. -/
  | body
deriving DecidableEq, Repr

/-- The character after the two braces. -/
def Shape.mark : Shape → Char
  | .inline => '<'
  | .body => '%'

/-- The three characters that open a shortcode. -/
def Shape.opener (shape : Shape) : List Char :=
  match shape with
  | .inline => ['{', '{', '<']
  | .body => ['{', '{', '%']

/-- The three characters that end the line of a shortcode. -/
def Shape.closer : Shape → List Char
  | .inline => ['>', '}', '}']
  | .body => ['%', '}', '}']

/-- An opening delimiter in prose: its kind, its offset and its line. -/
structure Delimiter where
  shape : Shape
  start : Nat
  line : Nat
deriving DecidableEq, Repr

/-- The shortcode that opens at the start of the text. -/
def openerAt? : (text : List Char) → Option Shape
  | '{' :: '{' :: '<' :: _ => some .inline
  | '{' :: '{' :: '%' :: _ => some .body
  | _ => none

/-- A place in a document, with what a reader of the text before it remembers. -/
structure Cursor where
  /-- What stands before the cursor, nearest first. -/
  before : List Char
  /-- What is left. -/
  rest : List Char
  /-- The line of the cursor, counted from one. -/
  line : Nat
  /-- The cursor is at the start of a line that has not been looked at. -/
  atLineStart : Bool
  /-- The code fence that is open here. -/
  fence : Option Fence
deriving DecidableEq, Repr

namespace Cursor

/-- The start of a document. -/
def ofText (text : List Char) : Cursor := ⟨[], text, 1, true, none⟩

/-- The offset of the cursor. -/
def position (cursor : Cursor) : Nat := cursor.before.length

/-- The document. -/
def text (cursor : Cursor) : List Char := cursor.before.reverse ++ cursor.rest

/-- Moves past `count` characters and the line ends among them. -/
def skip (cursor : Cursor) (count : Nat) : Cursor :=
  let passed := cursor.rest.take count
  { cursor with
    before := passed.reverse ++ cursor.before
    rest := cursor.rest.drop count
    line := cursor.line + Text.lineEnds passed }

/-- Moves past the rest of the line. -/
def skipLine (cursor : Cursor) : Cursor :=
  let length := lineLength cursor.rest
  { cursor.skip length with atLineStart := (firstLine cursor.rest).length < length }

/-- Moves past a line end. -/
def newLine (cursor : Cursor) : Cursor := { cursor.skip 1 with atLineStart := true }

/-- Moves past a code span, or past a run of backticks that opens none. -/
def skipCode (cursor : Cursor) : Cursor :=
  cursor.skip ((codeSpan? cursor.rest).getD (runLength '`' cursor.rest))

/-- Moves past a line that belongs to fenced code, opening or closing the fence. -/
def skipFenced? (cursor : Cursor) : Option Cursor :=
  let line := dropIndent cursor.rest
  match cursor.fence with
  | none => (Fence.opening? line).map fun fence => { cursor with fence := some fence }.skipLine
  | some fence =>
    some { cursor with fence := if fence.closedBy line then none else some fence }.skipLine

theorem length_rest_skip (cursor : Cursor) (count : Nat) :
    (cursor.skip count).rest.length = cursor.rest.length - count := by
  simp [skip]

theorem lineLength_pos {text : List Char} (nonempty : text ≠ []) : 0 < lineLength text := by
  unfold lineLength
  have positive : 0 < text.length := List.length_pos_iff.2 nonempty
  dsimp only
  split <;> omega

theorem length_rest_skipLine (cursor : Cursor) :
    cursor.skipLine.rest.length = cursor.rest.length - lineLength cursor.rest := by
  simp [skipLine, skip]

theorem length_rest_skipFenced {cursor moved : Cursor} (nonempty : cursor.rest ≠ [])
    (skipped : cursor.skipFenced? = some moved) : moved.rest.length < cursor.rest.length := by
  have positive := lineLength_pos nonempty
  have length : 0 < cursor.rest.length := List.length_pos_iff.2 nonempty
  unfold skipFenced? at skipped
  dsimp only at skipped
  split at skipped
  · obtain ⟨fence, _, rfl⟩ := Option.map_eq_some_iff.1 skipped
    rw [length_rest_skipLine]
    dsimp only
    omega
  · cases skipped
    rw [length_rest_skipLine]
    dsimp only
    omega

theorem length_rest_skipCode {cursor : Cursor} {rest : List Char}
    (tick : cursor.rest = '`' :: rest) : cursor.skipCode.rest.length < cursor.rest.length := by
  have run : 0 < runLength '`' cursor.rest := by simp [runLength, tick]
  rw [skipCode, length_rest_skip]
  have moved : 0 < (codeSpan? cursor.rest).getD (runLength '`' cursor.rest) := by
    unfold codeSpan?
    dsimp only
    cases closingRun? (runLength '`' cursor.rest)
        (cursor.rest.drop (runLength '`' cursor.rest)) with
    | none => simpa using run
    | some distance =>
      simp only [Option.map_some, Option.getD_some]
      omega
  have length : 0 < cursor.rest.length := by simp [tick]
  omega

/-- Moves to the next delimiter in prose, or to the end of the document. -/
def next (cursor : Cursor) : Option Shape × Cursor :=
  match _remaining : cursor.rest with
  | [] => (none, cursor)
  | char :: _ =>
    if _fresh : cursor.atLineStart then
      match _skipped : cursor.skipFenced? with
      | some moved => moved.next
      | none => { cursor with atLineStart := false }.next
    else if char == '\n' then
      cursor.newLine.next
    else if _tick : char = '`' then cursor.skipCode.next
    else match openerAt? cursor.rest with
      | some shape => (some shape, cursor)
      | none => (cursor.skip 1).next
termination_by 2 * cursor.rest.length + cursor.atLineStart.toNat
decreasing_by
  · have shorter := length_rest_skipFenced (by simp [_remaining]) _skipped
    rw [_fresh]
    cases moved.atLineStart <;> simp only [Bool.toNat_true, Bool.toNat_false] <;> omega
  · simp [_fresh]
  · have moved : cursor.newLine.rest.length = cursor.rest.length - 1 := length_rest_skip cursor 1
    have start : cursor.newLine.atLineStart = true := rfl
    rw [moved, start]
    cases cursor.atLineStart with
    | true => simp [_remaining]
    | false =>
      simp [_remaining]
      omega
  · subst _tick
    have shorter := length_rest_skipCode _remaining
    have same : cursor.skipCode.atLineStart = cursor.atLineStart := rfl
    rw [same]
    omega
  · have same : (cursor.skip 1).atLineStart = cursor.atLineStart := rfl
    rw [same, length_rest_skip]
    simp [_remaining]

/-- Moves past `count` characters, to wherever in a line that leads. -/
def jump (cursor : Cursor) (count : Nat) : Cursor :=
  let moved := cursor.skip count
  { moved with atLineStart := moved.before.head? == some '\n' }

/-- Moves forward to an offset, or to the end if that comes first; never back.  An empty document
has no character to stand behind, so no move forward is possible there. -/
def advance? (cursor : Cursor) (position : Int) : Option Cursor :=
  if position ≤ cursor.position then some cursor
  else if cursor.before.isEmpty && cursor.rest.isEmpty then none
  else some (cursor.jump (position.toNat - cursor.position))

/-- The delimiter at the cursor. -/
def delimiter (cursor : Cursor) (shape : Shape) : Delimiter :=
  ⟨shape, cursor.position, cursor.line⟩

theorem length_rest_jump (cursor : Cursor) (count : Nat) :
    (cursor.jump count).rest.length = cursor.rest.length - count := by
  simp [jump, skip]

theorem length_rest_next_le (cursor : Cursor) :
    cursor.next.2.rest.length ≤ cursor.rest.length := by
  fun_induction next cursor with
  | case1 => simp
  | case2 cursor char rest remaining fresh moved skipped ih =>
    have shorter := length_rest_skipFenced (by simp [remaining]) skipped
    omega
  | case3 cursor char rest remaining fresh skipped ih => simpa using ih
  | case4 cursor char rest remaining fresh newline ih =>
    have moved : cursor.newLine.rest.length = cursor.rest.length - 1 := length_rest_skip cursor 1
    omega
  | case5 cursor rest fresh remaining newline ih =>
    have shorter := length_rest_skipCode remaining
    omega
  | case6 => simp
  | case7 cursor char rest remaining fresh newline tick opener ih =>
    simp [length_rest_skip] at ih
    omega

theorem next_found {cursor moved : Cursor} {shape : Shape}
    (found : cursor.next = (some shape, moved)) : openerAt? moved.rest = some shape := by
  fun_induction next cursor with
  | case1 => simp at found
  | case2 cursor char rest remaining fresh moved skipped ih => exact ih found
  | case3 cursor char rest remaining fresh skipped ih => exact ih found
  | case4 cursor char rest remaining fresh newline ih => exact ih found
  | case5 cursor rest remaining fresh newline ih => exact ih found
  | case6 cursor char rest remaining fresh newline tick shape opener =>
    simp only [Prod.mk.injEq, Option.some.injEq] at found
    rw [← found.1, ← found.2]
    exact opener
  | case7 cursor char rest remaining fresh newline tick opener ih => exact ih found

theorem rest_ne_nil_of_next {cursor moved : Cursor} {shape : Shape}
    (found : cursor.next = (some shape, moved)) : moved.rest ≠ [] := by
  intro empty
  have opener := next_found found
  simp [empty, openerAt?] at opener

theorem length_rest_jump_next {cursor moved : Cursor} {shape : Shape} {count : Nat}
    (found : cursor.next = (some shape, moved)) (positive : 0 < count) :
    (moved.jump count).rest.length < cursor.rest.length := by
  have shorter := length_rest_next_le cursor
  simp only [found] at shorter
  have nonempty := List.length_pos_iff.2 (rest_ne_nil_of_next found)
  rw [length_rest_jump]
  omega

/-- Every delimiter in prose, and the cursor at the end of the document.  After a delimiter the
search goes on behind its three characters. -/
def delimiters (cursor : Cursor) : List Delimiter × Cursor :=
  match _found : cursor.next with
  | (none, moved) => ([], moved)
  | (some shape, moved) =>
    let (others, last) := (moved.jump 3).delimiters
    (moved.delimiter shape :: others, last)
termination_by cursor.rest.length
decreasing_by exact length_rest_jump_next _found (by decide)

end Cursor

end Shortcode
