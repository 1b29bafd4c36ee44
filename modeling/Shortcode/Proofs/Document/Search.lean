import Shortcode.Proofs.Document.Cursor
import Shortcode.Proofs.Document.Segmentation

/-!
# A search walks over the pieces of a text

`find?` is what a search answers: the delimiter and the cursor that stands at
it.  A search from the start of a piece without a delimiter answers the same as
a search from behind the piece.
-/

namespace Shortcode

namespace Cursor

/-- The next delimiter in prose, and the cursor at it. -/
def find? (cursor : Cursor) : Option (Shape × Cursor) :=
  cursor.next.1.map fun shape => (shape, cursor.next.2)

theorem find?_eq_some_iff {cursor moved : Cursor} {shape : Shape} :
    cursor.find? = some (shape, moved) ↔
      cursor.next = (some shape, moved) := by
  rcases found : cursor.next with ⟨_ | other, last⟩
  · simp [find?, found]
  · simp [find?, found]

theorem find?_eq_none_iff {cursor : Cursor} :
    cursor.find? = none ↔ cursor.next.1 = none := by
  simp [find?]

theorem find?_of_rest_eq_nil {cursor : Cursor} (ended : cursor.rest = []) :
    cursor.find? = none := by
  rw [find?_eq_none_iff, next_of_rest_eq_nil ended]

theorem find?_of_opener {cursor : Cursor} {shape : Shape}
    (inside : cursor.atLineStart = false)
    (opens : shape.opener <+: cursor.rest) :
    cursor.find? = some (shape, cursor) :=
  find?_eq_some_iff.mpr (next_of_opener inside opens)

theorem Step.find?_eq {cursor moved : Cursor} (step : Step cursor moved) :
    cursor.find? = moved.find? := by
  rw [find?, find?, step.next_eq]

/-- Behind the end of the document it does not matter what is remembered. -/
theorem find?_congr {cursor other : Cursor} (rest : cursor.rest = other.rest)
    (same : cursor.rest ≠ [] → cursor = other) :
    cursor.find? = other.find? := by
  by_cases ended : cursor.rest = []
  · rw [find?_of_rest_eq_nil ended,
      find?_of_rest_eq_nil (rest.symm.trans ended)]
  · rw [same ended]

/-- The cursor behind a piece of the text, outside of any fence. -/
def behind (cursor : Cursor) (count : Nat) (lineStart : Bool) : Cursor :=
  { cursor.skip count with atLineStart := lineStart, fence := none }

@[simp] theorem behind_before (cursor : Cursor) (count : Nat)
    (lineStart : Bool) : (cursor.behind count lineStart).before =
      (cursor.rest.take count).reverse ++ cursor.before := rfl

@[simp] theorem behind_rest (cursor : Cursor) (count : Nat)
    (lineStart : Bool) :
    (cursor.behind count lineStart).rest = cursor.rest.drop count := rfl

theorem behind_zero {cursor : Cursor} (unfenced : cursor.fence = none)
    (lineStart : Bool) :
    cursor.behind 0 lineStart = { cursor with atLineStart := lineStart } := by
  simp [behind, skip, ← unfenced, Text.lineEnds]

theorem passes_behind (cursor : Cursor) (count : Nat) (lineStart : Bool) :
    cursor.Passes (cursor.rest.take count) (cursor.behind count lineStart) :=
  ⟨rfl, (List.take_append_drop count cursor.rest).symm, rfl⟩

/-- Two moves are one, whatever is remembered between them. -/
theorem behind_add (cursor : Cursor) (first second : Nat)
    (between lineStart : Bool) (fence : Option Fence) :
    ({ cursor.skip first with
        atLineStart := between, fence := fence } : Cursor).behind second
      lineStart = cursor.behind (first + second) lineStart := by
  rw [behind, behind, ← skip_skip]
  rfl

theorem behind_behind (cursor : Cursor) (first second : Nat)
    (between lineStart : Bool) :
    (cursor.behind first between).behind second lineStart =
      cursor.behind (first + second) lineStart :=
  cursor.behind_add first second between lineStart none

/-- Behind a line the next one starts. -/
theorem find?_skipLine (cursor : Cursor) {line : List Char} {length : Nat}
    (starts : StartsWithLine cursor.rest line length) :
    cursor.skipLine.find? =
      { cursor.skip length with atLineStart := true }.find? := by
  obtain rfl := starts.length_eq
  have first := starts.eq_firstLine
  refine find?_congr rfl ?_
  intro more
  obtain ⟨_, ⟨whole, _, counted⟩ | ⟨rest, _, counted⟩⟩ := starts
  · refine absurd ?_ more
    change cursor.rest.drop (lineLength cursor.rest) = []
    rw [counted, whole, List.drop_length]
  · have longer : (firstLine cursor.rest).length < lineLength cursor.rest := by
      rw [← first, counted]
      exact Nat.lt_succ_self line.length
    simp [skipLine, longer]

theorem find?_of_fencedTail {fence : Fence}
    (marked : fence.mark = '`' ∨ fence.mark = '~') (long : 3 ≤ fence.length)
    {text : List Char} {count : Nat} (tail : FencedTail fence text count)
    {cursor : Cursor} (remaining : cursor.rest = text)
    (inFence : cursor.fence = some fence) (fresh : cursor.atLineStart = true) :
    cursor.find? = (cursor.behind count true).find? := by
  induction tail generalizing cursor with
  | unclosed =>
      rw [find?_of_rest_eq_nil remaining]
      refine (find?_of_rest_eq_nil ?_).symm
      simpa using remaining
  | @closing text line length starts closes =>
      subst remaining
      have closed : fence.closedBy (dropIndent cursor.rest) = true := by
        rw [Fence.closedBy_dropIndent_iff marked long, ← starts.eq_firstLine]
        exact closes
      have skipped : cursor.skipFenced? =
          some { cursor with fence := none }.skipLine := by
        simp [skipFenced?, inFence, closed]
      have step : Step cursor { cursor with fence := none }.skipLine :=
        .fenced starts.ne_nil fresh skipped
      rw [step.find?_eq]
      exact find?_skipLine { cursor with fence := none } starts
  | @inside text line length count starts notClosing _ induction =>
      subst remaining
      have closed : fence.closedBy (dropIndent cursor.rest) = false := by
        rw [← Bool.not_eq_true, Fence.closedBy_dropIndent_iff marked long,
          ← starts.eq_firstLine]
        exact notClosing
      have kept : { cursor with fence := some fence } = cursor := by
        rw [← inFence]
      have skipped : cursor.skipFenced? = some cursor.skipLine := by
        simp [skipFenced?, inFence, closed, kept]
      have step : Step cursor cursor.skipLine :=
        .fenced starts.ne_nil fresh skipped
      have later := cursor.behind_add length count true true cursor.fence
      rw [step.find?_eq, find?_skipLine cursor starts, ← later]
      exact induction rfl inFence rfl

theorem find?_of_fencedRegion {cursor : Cursor} {count : Nat}
    (region : FencedRegion cursor.rest count) (unfenced : cursor.fence = none)
    (fresh : cursor.atLineStart = true) :
    cursor.find? = (cursor.behind count true).find? := by
  obtain ⟨fence, line, length, covered, starts, opens, tail, rfl⟩ := region
  have found := (opening?_eq_some_of_startsWithLine starts).mpr opens
  have skipped : cursor.skipFenced? =
      some { cursor with fence := some fence }.skipLine := by
    simp [skipFenced?, unfenced, found]
  have step : Step cursor { cursor with fence := some fence }.skipLine :=
    .fenced starts.ne_nil fresh skipped
  let opened : Cursor :=
    { cursor.skip length with atLineStart := true, fence := some fence }
  have later : opened.behind covered true =
      cursor.behind (length + covered) true :=
    cursor.behind_add length covered true true (some fence)
  calc
    cursor.find? = opened.find? := by
      rw [step.find?_eq]
      exact find?_skipLine { cursor with fence := some fence } starts
    _ = (cursor.behind (length + covered) true).find? := by
      rw [← later]
      exact find?_of_fencedTail opens.1 opens.2.1 tail rfl rfl rfl

/-- At a line start that opens no fence the search goes on within the line. -/
theorem find?_of_not_opensFence {cursor : Cursor}
    (unfenced : cursor.fence = none) (nonempty : cursor.rest ≠ [])
    (plain : cursor.atLineStart = true → ¬ OpensFence cursor.rest) :
    cursor.find? = (cursor.behind 0 false).find? := by
  rw [behind_zero unfenced]
  cases fresh : cursor.atLineStart with
  | false => rw [← fresh]
  | true =>
      have closed : Fence.opening? (dropIndent cursor.rest) = none := by
        rw [Option.eq_none_iff_forall_not_mem]
        intro fence found
        have starts := startsWithLine_firstLine nonempty
        exact plain fresh ⟨fence, _, _, starts,
          Fence.opening?_dropIndent_iff.mp found⟩
      have skipped : cursor.skipFenced? = none := by
        simp [skipFenced?, unfenced, closed]
      exact (Step.prose nonempty fresh skipped).find?_eq

theorem behind_skip (cursor : Cursor) (count : Nat) :
    (cursor.behind 0 false).skip count = cursor.behind count false := by
  have moved := cursor.skip_skip 0 count
  rw [Nat.zero_add] at moved
  rw [behind, behind, ← moved]
  rfl

theorem skipCode_eq_skip {cursor : Cursor} {count : Nat}
    (span : CodeSpan cursor.rest count ∨ UnclosedRun cursor.rest count) :
    cursor.skipCode = cursor.skip count := by
  rw [skipCode]
  rcases span with span | unclosed
  · obtain ⟨rest, remaining⟩ := span.exists_cons
    rw [remaining] at span ⊢
    rw [codeSpan?_eq_some_iff.mpr span, Option.getD_some]
  · obtain ⟨rest, remaining⟩ := unclosed.exists_cons
    rw [remaining] at unclosed ⊢
    obtain ⟨missing, rfl⟩ := codeSpan?_eq_none_iff.mpr unclosed
    rw [missing, Option.getD_none]

/-- Nothing opens within a delimiter, so a search may go on behind it or
behind its first character. -/
theorem find?_jump_opener {cursor : Cursor} {shape : Shape}
    (inside : cursor.atLineStart = false)
    (opens : shape.opener <+: cursor.rest) :
    (cursor.jump 3).find? = (cursor.skip 1).find? := by
  obtain ⟨rest, remaining⟩ := opens
  rw [Shape.opener_eq] at remaining
  have firstRest : (cursor.skip 1).rest = '{' :: shape.mark :: rest := by
    simp [skip, ← remaining]
  have secondRest : ((cursor.skip 1).skip 1).rest = shape.mark :: rest := by
    simp [skip, ← remaining]
  have second : Step (cursor.skip 1) ((cursor.skip 1).skip 1) := by
    refine .char inside firstRest (by decide) (by decide) ?_
    cases shape <;> simp [firstRest, Shape.mark, openerAt?]
  have third :
      Step ((cursor.skip 1).skip 1) (((cursor.skip 1).skip 1).skip 1) := by
    refine .char inside secondRest ?_ ?_ ?_
    · cases shape <;> decide
    · cases shape <;> decide
    · cases shape <;> simp [secondRest, Shape.mark, openerAt?]
  have landed : cursor.jump 3 = cursor.skip 3 := by
    have middle : (shape.mark == '\n') = false := by cases shape <;> rfl
    simp [jump, skip, ← remaining, inside, middle]
  rw [landed, second.find?_eq, third.find?_eq, skip_skip, skip_skip]

/-- A search goes on behind a piece in which no delimiter opens. -/
theorem find?_of_piece {cursor : Cursor} {lineStart next : Bool}
    {text : List Char} {count : Nat} {region : Region}
    (piece : Piece lineStart text count region next)
    (quiet : region = .prose → openerAt? text = none)
    (remaining : cursor.rest = text) (fresh : cursor.atLineStart = lineStart)
    (unfenced : cursor.fence = none) :
    cursor.find? = (cursor.behind count next).find? := by
  have nonempty : cursor.rest ≠ [] := remaining ▸ piece.ne_nil
  let inside := cursor.behind 0 false
  have insideRest : inside.rest = cursor.rest := by simp [inside]
  cases piece with
  | fenced fencedRegion =>
      subst remaining
      exact find?_of_fencedRegion fencedRegion unfenced fresh
  | code plain span =>
      subst remaining
      obtain ⟨rest, ticked⟩ := span.exists_cons
      have step : Step inside inside.skipCode :=
        .code rfl (insideRest.trans ticked)
      rw [find?_of_not_opensFence unfenced nonempty (fresh ▸ plain),
        step.find?_eq, skipCode_eq_skip (.inl (insideRest ▸ span)), behind_skip]
  | run plain unclosed =>
      subst remaining
      obtain ⟨rest, ticked⟩ := unclosed.exists_cons
      have step : Step inside inside.skipCode :=
        .code rfl (insideRest.trans ticked)
      rw [find?_of_not_opensFence unfenced nonempty (fresh ▸ plain),
        step.find?_eq, skipCode_eq_skip (.inr (insideRest ▸ unclosed)),
        behind_skip]
  | @char lineStart char rest plain notTick =>
      have insideChar : inside.rest = char :: rest := insideRest.trans remaining
      rw [find?_of_not_opensFence unfenced nonempty
        (by rwa [fresh, remaining])]
      by_cases lineEnd : char = '\n'
      · subst lineEnd
        have step : Step inside inside.newLine := .lineEnd rfl insideChar
        have moved : inside.newLine = cursor.behind 1 true := by
          rw [newLine, behind_skip]
          rfl
        rw [step.find?_eq, moved]
        rfl
      · have next : (char == '\n') = false := by simpa using lineEnd
        have closed : openerAt? inside.rest = none := by
          rw [insideChar]
          exact quiet rfl
        have step : Step inside (inside.skip 1) :=
          .char rfl insideChar lineEnd notTick closed
        rw [next, step.find?_eq, behind_skip]

/-- A search stops at a delimiter where no fence opens. -/
theorem find?_of_opener_of_not_opensFence {cursor : Cursor} {shape : Shape}
    (unfenced : cursor.fence = none) (opens : shape.opener <+: cursor.rest)
    (plain : cursor.atLineStart = true → ¬ OpensFence cursor.rest) :
    cursor.find? = some (shape, cursor.behind 0 false) := by
  have nonempty : cursor.rest ≠ [] := by
    intro ended
    simp [ended, Shape.opener_eq] at opens
  rw [find?_of_not_opensFence unfenced nonempty plain]
  refine find?_of_opener rfl ?_
  simpa using opens

end Cursor

end Shortcode
