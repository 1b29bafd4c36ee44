import Mathlib.Logic.Relation
import Shortcode.Document.Cursor
import Shortcode.Proofs.Document.CodeSpan

/-!
# Moves of the cursor

`Step` lists the moves by which the search for a delimiter goes on, and
`next_cases` says that a search either stops where it is or goes on with one of
them.  Every move only passes characters (`Passes`), so an invariant of the
cursor is checked move by move and holds of every search.
-/

namespace Shortcode

theorem openerAt?_eq_some_iff {text : List Char} {shape : Shape} :
    openerAt? text = some shape ↔ shape.opener <+: text := by
  constructor
  · intro opens
    unfold openerAt? at opens
    split at opens
    · cases opens
      exact ⟨_, rfl⟩
    · cases opens
      exact ⟨_, rfl⟩
    · cases opens
  · rintro ⟨rest, rfl⟩
    cases shape <;> rfl

theorem Shape.opener_eq (shape : Shape) :
    shape.opener = ['{', '{', shape.mark] := by
  cases shape <;> rfl

theorem Shape.length_opener (shape : Shape) : shape.opener.length = 3 := by
  cases shape <;> rfl

theorem Shape.length_closer (shape : Shape) : shape.closer.length = 3 := by
  cases shape <;> rfl

namespace Cursor

/-- `moved` stands in the same document, behind the `passed` characters. -/
structure Passes (cursor : Cursor) (passed : List Char) (moved : Cursor) :
    Prop where
  before : moved.before = passed.reverse ++ cursor.before
  rest : cursor.rest = passed ++ moved.rest
  line : moved.line = cursor.line + Text.lineEnds passed

/-- The line is that of the place in the document. -/
def Lined (cursor : Cursor) : Prop :=
  cursor.line = 1 + Text.lineEnds cursor.before

namespace Passes

theorem refl (cursor : Cursor) : cursor.Passes [] cursor :=
  ⟨rfl, rfl, rfl⟩

theorem trans {cursor moved last : Cursor} {first second : List Char}
    (early : cursor.Passes first moved) (late : moved.Passes second last) :
    cursor.Passes (first ++ second) last := by
  refine ⟨?_, ?_, ?_⟩
  · rw [late.before, early.before]
    simp
  · rw [early.rest, late.rest, List.append_assoc]
  · rw [late.line, early.line, Text.lineEnds_append, Nat.add_assoc]

theorem text_eq {cursor moved : Cursor} {passed : List Char}
    (passes : cursor.Passes passed moved) : moved.text = cursor.text := by
  simp [text, passes.before, passes.rest]

theorem position_eq {cursor moved : Cursor} {passed : List Char}
    (passes : cursor.Passes passed moved) :
    moved.position = cursor.position + passed.length := by
  rw [position, position, passes.before, List.length_append,
    List.length_reverse, Nat.add_comm]

theorem lined {cursor moved : Cursor} {passed : List Char}
    (passes : cursor.Passes passed moved) (lined : cursor.Lined) :
    moved.Lined := by
  rw [Lined, passes.line, passes.before, Text.lineEnds_append,
    Text.lineEnds_reverse, lined]
  omega

end Passes

theorem passes_skip (cursor : Cursor) (count : Nat) :
    cursor.Passes (cursor.rest.take count) (cursor.skip count) :=
  ⟨rfl, (List.take_append_drop count cursor.rest).symm, rfl⟩

theorem passes_jump (cursor : Cursor) (count : Nat) :
    cursor.Passes (cursor.rest.take count) (cursor.jump count) :=
  ⟨rfl, (List.take_append_drop count cursor.rest).symm, rfl⟩

theorem skip_skip (cursor : Cursor) (first second : Nat) :
    (cursor.skip first).skip second = cursor.skip (first + second) := by
  have passed : cursor.rest.take (first + second) =
      cursor.rest.take first ++ (cursor.rest.drop first).take second :=
    List.take_add
  simp [skip, passed, Nat.add_assoc]

/-! ## Steps of a search -/

/-- One move of the search for a delimiter. -/
inductive Step : Cursor → Cursor → Prop where
  /-- Past a line of a fence or of what it holds. -/
  | fenced {cursor moved : Cursor} :
      cursor.rest ≠ [] → cursor.atLineStart = true →
      cursor.skipFenced? = some moved → Step cursor moved
  /-- Into a line that opens no fence. -/
  | prose {cursor : Cursor} :
      cursor.rest ≠ [] → cursor.atLineStart = true →
      cursor.skipFenced? = none → Step cursor { cursor with atLineStart := false }
  | lineEnd {cursor : Cursor} {rest : List Char} :
      cursor.atLineStart = false → cursor.rest = '\n' :: rest →
      Step cursor cursor.newLine
  /-- Past a code span, or a run of backticks that opens none. -/
  | code {cursor : Cursor} {rest : List Char} :
      cursor.atLineStart = false → cursor.rest = '`' :: rest →
      Step cursor cursor.skipCode
  | char {cursor : Cursor} {char : Char} {rest : List Char} :
      cursor.atLineStart = false → cursor.rest = char :: rest →
      char ≠ '\n' → char ≠ '`' → openerAt? cursor.rest = none →
      Step cursor (cursor.skip 1)

theorem next_of_rest_eq_nil {cursor : Cursor} (ended : cursor.rest = []) :
    cursor.next = (none, cursor) := by
  rw [next]
  split
  · rfl
  · simp_all

theorem next_of_opener {cursor : Cursor} {shape : Shape}
    (inside : cursor.atLineStart = false)
    (opens : shape.opener <+: cursor.rest) :
    cursor.next = (some shape, cursor) := by
  have found := openerAt?_eq_some_iff.mpr opens
  obtain ⟨rest, remaining⟩ := opens
  rw [Shape.opener_eq] at remaining
  rw [next]
  split
  · rename_i empty
    simp [empty] at remaining
  · rename_i char tail written
    obtain rfl : '{' = char := by
      rw [written] at remaining
      exact (List.cons.inj remaining).1
    simp [inside, found]

theorem Step.next_eq {cursor moved : Cursor} (step : Step cursor moved) :
    cursor.next = moved.next := by
  rw [next]
  cases step with
  | fenced nonempty fresh skipped =>
      split
      · simp_all
      · split
        · split
          · simp_all
          · simp_all
        · simp_all
  | prose nonempty fresh unfenced =>
      split
      · simp_all
      · split
        · split
          · simp_all
          · rfl
        · simp_all
  | lineEnd inside remaining =>
      split
      · simp_all
      · split
        · simp_all
        · simp_all
  | code inside remaining =>
      split
      · simp_all
      · split
        · simp_all
        · simp_all
  | char inside remaining notEnd notTick noOpener =>
      split
      · simp_all
      · split
        · simp_all
        · simp_all

/-- A search is a row of steps up to an opening delimiter or to the end of the
document. -/
theorem next_run (cursor : Cursor) :
    ∃ last, Relation.ReflTransGen Step cursor last ∧
      ((cursor.next = (none, last) ∧ last.rest = []) ∨
        ∃ shape : Shape, cursor.next = (some shape, last) ∧
          last.atLineStart = false ∧ shape.opener <+: last.rest) := by
  fun_induction next cursor with
  | case1 cursor ended => exact ⟨cursor, .refl, .inl ⟨rfl, ended⟩⟩
  | case2 cursor char rest remaining fresh moved skipped induction =>
      obtain ⟨last, run, stop⟩ := induction
      have step : Step cursor moved :=
        .fenced (by simp [remaining]) fresh skipped
      exact ⟨last, .head step run, stop⟩
  | case3 cursor char rest remaining fresh skipped induction =>
      obtain ⟨last, run, stop⟩ := induction
      have step : Step cursor { cursor with atLineStart := false } :=
        .prose (by simp [remaining]) fresh skipped
      exact ⟨last, .head step run, stop⟩
  | case4 cursor char rest remaining fresh lineEnd induction =>
      obtain ⟨last, run, stop⟩ := induction
      obtain rfl : char = '\n' := by simpa using lineEnd
      have step : Step cursor cursor.newLine :=
        .lineEnd (by simpa using fresh) remaining
      exact ⟨last, .head step run, stop⟩
  | case5 cursor rest fresh remaining lineEnd induction =>
      obtain ⟨last, run, stop⟩ := induction
      have step : Step cursor cursor.skipCode :=
        .code (by simpa using fresh) remaining
      exact ⟨last, .head step run, stop⟩
  | case6 cursor char rest remaining fresh lineEnd tick shape opens =>
      exact ⟨cursor, .refl, .inr ⟨shape, rfl, by simpa using fresh,
        openerAt?_eq_some_iff.mp opens⟩⟩
  | case7 cursor char rest remaining fresh lineEnd tick opens induction =>
      obtain ⟨last, run, stop⟩ := induction
      have step : Step cursor (cursor.skip 1) :=
        .char (by simpa using fresh) remaining (by simpa using lineEnd) tick opens
      exact ⟨last, .head step run, stop⟩

/-- A search that finds a delimiter stops at it. -/
theorem run_of_next {cursor moved : Cursor} {shape : Shape}
    (found : cursor.next = (some shape, moved)) :
    Relation.ReflTransGen Step cursor moved ∧ moved.atLineStart = false ∧
      shape.opener <+: moved.rest := by
  obtain ⟨last, run, ⟨ended, _⟩ | ⟨other, stopped, inside, opens⟩⟩ :=
    cursor.next_run
  · rw [found] at ended
    cases ended
  · rw [found] at stopped
    cases stopped
    exact ⟨run, inside, opens⟩

theorem passes_skipFenced {cursor moved : Cursor}
    (skipped : cursor.skipFenced? = some moved) :
    cursor.Passes (cursor.rest.take (lineLength cursor.rest)) moved := by
  unfold skipFenced? at skipped
  dsimp only at skipped
  split at skipped
  · obtain ⟨fence, _, rfl⟩ := Option.map_eq_some_iff.mp skipped
    exact ⟨rfl, (List.take_append_drop _ cursor.rest).symm, rfl⟩
  · cases skipped
    exact ⟨rfl, (List.take_append_drop _ cursor.rest).symm, rfl⟩

theorem Step.passes {cursor moved : Cursor} (step : Step cursor moved) :
    ∃ passed, cursor.Passes passed moved := by
  cases step with
  | fenced _ _ skipped => exact ⟨_, passes_skipFenced skipped⟩
  | prose => exact ⟨[], rfl, rfl, rfl⟩
  | lineEnd =>
      exact ⟨_, rfl, (List.take_append_drop 1 cursor.rest).symm, rfl⟩
  | code => exact ⟨_, cursor.passes_skip _⟩
  | char => exact ⟨_, cursor.passes_skip 1⟩

theorem run_passes {cursor moved : Cursor}
    (run : Relation.ReflTransGen Step cursor moved) :
    ∃ passed, cursor.Passes passed moved := by
  induction run with
  | refl => exact ⟨[], .refl cursor⟩
  | tail _ step induction =>
      obtain ⟨early, before⟩ := induction
      obtain ⟨late, behind⟩ := step.passes
      exact ⟨early ++ late, before.trans behind⟩

end Cursor

end Shortcode
