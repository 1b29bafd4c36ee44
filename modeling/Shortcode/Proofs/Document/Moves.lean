import Shortcode.Proofs.Document.LineEnd
import Shortcode.Proofs.Document.Spans

/-!
# A reader moves through a document

`Move` lists what a reader of calls does from one place to the next, with the
calls that it finds on the way.  A reader that `Settles` arrives at the end of
its document outside of any fence and has met no run of backticks without a
partner.  If the document ends a line, such a reader makes the same moves in a
longer document, up to the place where the two begin to differ.
-/

namespace Shortcode

namespace Cursor

/-- One move of a reader of calls, and the calls that it finds. -/
inductive Move : Cursor → List Call → Cursor → Prop where
  | search {cursor moved : Cursor} : Step cursor moved → Move cursor [] moved
  /-- Past what is read at a delimiter. -/
  | read {cursor : Cursor} {shape : Shape} {reading : Reading} :
      cursor.atLineStart = false → shape.opener <+: cursor.rest →
      readTag shape cursor.line (cursor.rest.drop 3) = .ok reading →
      Move cursor (reading.call? cursor).toList (cursor.jump reading.length)

theorem calls_congr {cursor other : Cursor}
    (same : cursor.find? = other.find?) : cursor.calls = other.calls := by
  cases found : other.find? with
  | none =>
      rw [calls_of_find?_none (same.trans found), calls_of_find?_none found]
  | some entry =>
      obtain ⟨shape, moved⟩ := entry
      cases read : readTag shape moved.line (moved.rest.drop 3) with
      | error failure =>
          rw [calls_of_readTag_error (same.trans found) read,
            calls_of_readTag_error found read]
      | ok reading =>
          rw [calls_of_readTag_ok (same.trans found) read,
            calls_of_readTag_ok found read]

theorem Move.calls_eq {cursor moved : Cursor} {first : List Call}
    (move : Move cursor first moved) :
    cursor.calls = moved.calls.map (first ++ ·) := by
  cases move with
  | search step =>
      rw [calls_congr step.find?_eq]
      cases moved.calls <;> rfl
  | read inside opens tag => exact calls_of_readTag_ok (find?_of_opener inside opens) tag

/-- No run of backticks without a partner is ahead of a reader of prose. -/
def Paired (cursor : Cursor) : Prop :=
  cursor.atLineStart = false → ∀ run, ¬ UnclosedRun cursor.rest run

/-- The moves from here to the end of the document meet no run of backticks
that opens no code span, and at the end no fence is open. -/
inductive Settles : Cursor → Prop where
  | ended {cursor : Cursor} :
      cursor.rest = [] → cursor.fence = none → Settles cursor
  | move {cursor moved : Cursor} {first : List Call} :
      Move cursor first moved → cursor.Paired → Settles moved → Settles cursor

/-! ## The same moves in a longer document -/

/-- The cursor with more text at the end of its document. -/
def extend (cursor : Cursor) (tail : List Char) : Cursor :=
  { cursor with rest := cursor.rest ++ tail }

theorem skip_extend {cursor : Cursor} {count : Nat} (tail : List Char)
    (inside : count ≤ cursor.rest.length) :
    (cursor.extend tail).skip count = (cursor.skip count).extend tail := by
  simp [extend, skip, List.take_append_of_le_length inside,
    List.drop_append_of_le_length inside]

theorem jump_extend {cursor : Cursor} {count : Nat} (tail : List Char)
    (inside : count ≤ cursor.rest.length) :
    (cursor.extend tail).jump count = (cursor.jump count).extend tail := by
  rw [jump, jump, skip_extend tail inside]
  rfl

theorem lineLength_le (text : List Char) : lineLength text ≤ text.length := by
  have starts := firstLine_prefix text
  have line := starts.length_le
  unfold lineLength
  dsimp only
  split <;> omega

theorem skipLine_extend {cursor : Cursor} (member : '\n' ∈ cursor.rest)
    (tail : List Char) :
    (cursor.extend tail).skipLine = cursor.skipLine.extend tail := by
  have line : firstLine (cursor.extend tail).rest = firstLine cursor.rest :=
    firstLine_append_of_mem member tail
  have length : lineLength (cursor.extend tail).rest = lineLength cursor.rest :=
    lineLength_append_of_mem member tail
  rw [skipLine, line, length, skip_extend tail (lineLength_le cursor.rest)]
  rfl

/-- An open fence is one that a line can open. -/
def Fenced (cursor : Cursor) : Prop :=
  ∀ fence, cursor.fence = some fence →
    (fence.mark = '`' ∨ fence.mark = '~') ∧ 3 ≤ fence.length

theorem skipFenced?_extend {cursor : Cursor} (real : cursor.Fenced)
    (member : '\n' ∈ cursor.rest) (tail : List Char) :
    (cursor.extend tail).skipFenced? =
      cursor.skipFenced?.map (·.extend tail) := by
  cases open_ : cursor.fence with
  | none =>
      have opening : Fence.opening? (dropIndent (cursor.extend tail).rest) =
          Fence.opening? (dropIndent cursor.rest) :=
        opening?_append_of_mem member tail
      have unfenced : (cursor.extend tail).fence = none := open_
      simp only [skipFenced?, unfenced, open_, opening, Option.map_map]
      refine Option.map_congr ?_
      intro fence _
      let opened : Cursor := { cursor with fence := some fence }
      have remaining : '\n' ∈ opened.rest := member
      exact skipLine_extend remaining tail
  | some fence =>
      obtain ⟨marked, long⟩ := real fence open_
      have closing : fence.closedBy (dropIndent (cursor.extend tail).rest) =
          fence.closedBy (dropIndent cursor.rest) :=
        closedBy_append_of_mem marked long member tail
      have inFence : (cursor.extend tail).fence = some fence := open_
      simp only [skipFenced?, inFence, open_, closing, Option.map_some]
      let left : Cursor := { cursor with
        fence := if fence.closedBy (dropIndent cursor.rest) then none
          else some fence }
      have remaining : '\n' ∈ left.rest := member
      exact congrArg some (skipLine_extend remaining tail)

/-- A run of backticks with a partner opens a span that ends with one. -/
theorem exists_codeSpan {text rest : List Char} (ticked : text = '`' :: rest)
    (paired : ∀ run, ¬ UnclosedRun text run) :
    ∃ inner after, text = inner ++ '`' :: after ∧
      codeSpan? text = some (inner.length + 1) := by
  cases spanned : codeSpan? text with
  | none =>
      obtain ⟨run, unclosed⟩ :=
        exists_unclosedRun_iff.mpr ⟨by rw [ticked]; rfl, spanned⟩
      exact absurd unclosed (paired run)
  | some count =>
      have span : CodeSpan text count := by
        rw [ticked] at spanned ⊢
        exact codeSpan?_eq_some_iff.mp spanned
      obtain ⟨inner, after, cut, rfl⟩ := span.exists_append
      exact ⟨inner, after, cut, rfl⟩

theorem skipCode_extend {cursor : Cursor} {rest : List Char}
    (ticked : cursor.rest = '`' :: rest) (ended : EndsLine cursor.rest)
    (paired : ∀ run, ¬ UnclosedRun cursor.rest run) (tail : List Char) :
    (cursor.extend tail).skipCode = cursor.skipCode.extend tail := by
  obtain ⟨inner, after, cut, spanned⟩ := exists_codeSpan ticked paired
  have inside : inner.length + 1 ≤ cursor.rest.length := by
    rw [cut]
    simp
  have same : codeSpan? (cursor.extend tail).rest = some (inner.length + 1) :=
    codeSpan?_append spanned ended tail
  rw [skipCode, same, skipCode, spanned]
  exact skip_extend tail inside

theorem Step.extend {cursor moved : Cursor} (step : Step cursor moved)
    (real : cursor.Fenced) (ended : EndsLine cursor.rest)
    (paired : cursor.Paired) (tail : List Char) :
    Step (cursor.extend tail) (moved.extend tail) := by
  have nonempty : (cursor.extend tail).rest ≠ [] := by
    obtain ⟨lines, cut⟩ := ended
    simp [Cursor.extend, cut]
  have one : 1 ≤ cursor.rest.length :=
    List.length_pos_of_mem ended.mem
  cases step with
  | fenced _ fresh skipped =>
      refine .fenced nonempty fresh ?_
      rw [skipFenced?_extend real ended.mem tail, skipped, Option.map_some]
  | prose _ fresh skipped =>
      refine .prose nonempty fresh ?_
      rw [skipFenced?_extend real ended.mem tail, skipped, Option.map_none]
  | lineEnd inside remaining =>
      have moves : (cursor.extend tail).newLine = cursor.newLine.extend tail := by
        rw [newLine, skip_extend tail one]
        rfl
      rw [← moves]
      exact .lineEnd inside (by rw [Cursor.extend, remaining]; rfl)
  | code inside remaining =>
      rw [← skipCode_extend remaining ended (paired inside) tail]
      exact .code inside (by rw [Cursor.extend, remaining]; rfl)
  | char inside remaining notEnd notTick closed =>
      rw [← skip_extend tail one]
      refine .char inside (by rw [Cursor.extend, remaining]; rfl) notEnd notTick ?_
      exact (openerAt?_append_of_mem ended.mem tail).trans closed

theorem length_le_of_readTag {shape : Shape} {line : Int} {text : List Char}
    {reading : Reading} (read : readTag shape line text = .ok reading) :
    reading.length ≤ text.length + 3 := by
  cases reading with
  | delimiter => simp [Reading.length]
  | strayEnd length =>
      obtain ⟨content, rest, cut, _, counted⟩ := exists_of_readTag_strayEnd read
      have longer := congrArg List.length cut
      rw [List.length_append, List.length_append, shape.length_closer] at longer
      simp only [Reading.length]
      omega
  | call kind head body length =>
      obtain ⟨invocation, rest, _, _, _, cut, _, _, rfl⟩ :=
        Invocation.exists_of_readTag read
      have longer := congrArg List.length cut
      rw [List.length_append, List.length_append, shape.length_opener] at longer
      simp only [Reading.length]
      omega

theorem Move.extend {cursor moved : Cursor} {first : List Call}
    (move : Move cursor first moved) (real : cursor.Fenced)
    (ended : EndsLine cursor.rest)
    (paired : cursor.Paired) (tail : List Char) :
    Move (cursor.extend tail) first (moved.extend tail) := by
  cases move with
  | search step => exact .search (step.extend real ended paired tail)
  | @read shape reading inside opens read =>
      obtain ⟨after, cut⟩ := opens
      have behind : cursor.rest.drop 3 = after := by
        rw [← cut, List.drop_left' shape.length_opener]
      -- The tag ends on its line, and that line ends in the shorter document.
      have member : '\n' ∈ after := by
        rw [← cut] at ended
        rcases ended.of_append with rfl | later
        · have last : EndsLine (['{', '{'] ++ [shape.mark]) := by
            rwa [List.append_nil, Shape.opener_eq] at ended
          have notEnd : shape.mark ≠ '\n' := by cases shape <;> decide
          exact absurd last.eq_lineEnd notEnd
        · exact later.mem
      have length : reading.length ≤ cursor.rest.length := by
        have bound := length_le_of_readTag read
        rw [behind] at bound
        rw [← cut, List.length_append, shape.length_opener]
        omega
      have opensLonger : shape.opener <+: (cursor.extend tail).rest :=
        ⟨after ++ tail, by rw [Cursor.extend, ← cut, List.append_assoc]⟩
      have dropped : (cursor.extend tail).rest.drop 3 =
          cursor.rest.drop 3 ++ tail := by
        rw [Cursor.extend, ← cut, List.append_assoc,
          List.drop_left' shape.length_opener, List.drop_left' shape.length_opener]
      have readLonger : readTag shape (cursor.extend tail).line
          ((cursor.extend tail).rest.drop 3) = .ok reading := by
        rw [dropped]
        exact readTag_append read (behind ▸ member) tail
      rw [← jump_extend tail length]
      exact .read inside opensLonger readLonger

/-! ## Up to the end of a document -/

/-- What a line that belongs to fenced code leaves behind. -/
theorem exists_eq_skipLine {cursor moved : Cursor}
    (skipped : cursor.skipFenced? = some moved) :
    ∃ fence, moved = { cursor with fence := fence }.skipLine ∧
      ∀ open_, fence = some open_ → cursor.fence = some open_ ∨
        Fence.opening? (dropIndent cursor.rest) = some open_ := by
  unfold skipFenced? at skipped
  cases inFence : cursor.fence with
  | none =>
      simp only [inFence] at skipped
      obtain ⟨fence, opening, rfl⟩ := Option.map_eq_some_iff.mp skipped
      refine ⟨some fence, rfl, ?_⟩
      intro open_ same
      exact .inr (same ▸ opening)
  | some fence =>
      simp only [inFence, Option.some.injEq] at skipped
      refine ⟨_, skipped.symm, ?_⟩
      intro open_ same
      split at same
      · cases same
      · exact .inl same

theorem Move.fenced {cursor moved : Cursor} {first : List Call}
    (move : Move cursor first moved) (real : cursor.Fenced) : moved.Fenced := by
  cases move with
  | search step =>
      cases step with
      | fenced _ _ skipped =>
          obtain ⟨fence, rfl, origin⟩ := exists_eq_skipLine skipped
          intro open_ inFence
          rcases origin open_ inFence with kept | opening
          · exact real open_ kept
          · obtain ⟨marked, long, _⟩ := Fence.opening?_eq_some_iff.mp opening
            exact ⟨marked, long⟩
      | prose => exact real
      | lineEnd => exact real
      | code => exact real
      | char => exact real
  | read => exact real

theorem Move.ne_nil {cursor moved : Cursor} {first : List Call}
    (move : Move cursor first moved) : cursor.rest ≠ [] := by
  cases move with
  | search step =>
      cases step with
      | fenced nonempty => exact nonempty
      | prose nonempty => exact nonempty
      | lineEnd _ remaining => simp [remaining]
      | code _ remaining => simp [remaining]
      | char _ remaining => simp [remaining]
  | @read shape _ _ opens =>
      intro empty
      simp [empty, Shape.opener_eq] at opens

theorem Move.passes {cursor moved : Cursor} {first : List Call}
    (move : Move cursor first moved) : ∃ passed, cursor.Passes passed moved := by
  cases move with
  | search step => exact step.passes
  | read => exact ⟨_, cursor.passes_jump _⟩

/-- At the end of a document that ends a line the next line would start. -/
theorem Move.atLineStart_of_ended {cursor moved : Cursor} {first : List Call}
    (move : Move cursor first moved) (ended : EndsLine cursor.rest)
    (paired : cursor.Paired)
    (exhausted : moved.rest = []) : moved.atLineStart = true := by
  cases move with
  | search step =>
      cases step with
      | fenced _ _ skipped =>
          obtain ⟨fence, rfl, _⟩ := exists_eq_skipLine skipped
          simp [skipLine, lineLength_of_mem ended.mem]
      | prose nonempty => exact absurd exhausted nonempty
      | lineEnd => rfl
      | code inside remaining =>
          obtain ⟨inner, after, cut, spanned⟩ :=
            exists_codeSpan remaining (paired inside)
          have after_nil : after = [] := by
            rw [skipCode, spanned] at exhausted
            have dropped : cursor.rest.drop (inner.length + 1) = [] := exhausted
            rwa [cut, ← List.drop_drop, List.drop_left, List.drop_succ_cons,
              List.drop_zero] at dropped
          rw [cut, after_nil] at ended
          exact absurd ended.eq_lineEnd tick_ne_lineEnd
      | @char char rest _ remaining notEnd =>
          have rest_nil : rest = [] := by simpa [skip, remaining] using exhausted
          rw [remaining, rest_nil] at ended
          have last : EndsLine ([] ++ [char]) := ended
          exact absurd last.eq_lineEnd notEnd
  | @read shape reading inside opens read =>
      have passes := cursor.passes_jump reading.length
      have whole : cursor.rest.take reading.length = cursor.rest := by
        have rest := passes.rest
        rw [exhausted, List.append_nil] at rest
        exact rest.symm
      obtain ⟨lines, cut⟩ := ended
      have before : (cursor.jump reading.length).before.head? = some '\n' := by
        rw [passes.before, whole, cut]
        simp
      have skipped : (cursor.skip reading.length).before.head? = some '\n' :=
        before
      simp [jump, skipped]

/-- A document that ends a line, read from here on. -/
def AtLine (cursor : Cursor) : Prop :=
  EndsLine cursor.rest ∨ cursor.rest = [] ∧ cursor.atLineStart = true

theorem Move.atLine {cursor moved : Cursor} {first : List Call}
    (move : Move cursor first moved) (ended : EndsLine cursor.rest)
    (paired : cursor.Paired) : moved.AtLine := by
  obtain ⟨passed, passes⟩ := move.passes
  have behind : EndsLine (passed ++ moved.rest) := passes.rest ▸ ended
  rcases behind.of_append with exhausted | later
  · exact .inr ⟨exhausted, move.atLineStart_of_ended ended paired exhausted⟩
  · exact .inl later

/-- The calls of a longer document are those that the reader finds before the
seam, and those from there on. -/
theorem Settles.exists_seam {cursor : Cursor} (settles : Settles cursor)
    (real : cursor.Fenced) (atLine : cursor.AtLine) {found : List Call}
    (read : cursor.calls = .ok found) (tail : List Char) :
    ∃ seam, cursor.Passes cursor.rest seam ∧ seam.rest = [] ∧
      seam.atLineStart = true ∧ seam.fence = none ∧
      (cursor.extend tail).calls =
        (seam.extend tail).calls.map (found ++ ·) := by
  induction settles generalizing found with
  | @ended cursor exhausted unfenced =>
      rcases atLine with ended | ⟨_, fresh⟩
      · rw [exhausted] at ended
        exact absurd ended.mem List.not_mem_nil
      · rw [calls_of_find?_none (find?_of_rest_eq_nil exhausted)] at read
        cases read
        refine ⟨cursor, ?_, exhausted, fresh, unfenced, ?_⟩
        · rw [exhausted]
          exact .refl cursor
        · cases (cursor.extend tail).calls <;> rfl
  | @move cursor moved first move paired _ induction =>
      have ended : EndsLine cursor.rest :=
        atLine.resolve_right fun exhausted => move.ne_nil exhausted.1
      rw [move.calls_eq] at read
      cases others : moved.calls with
      | error failure => simp [others, Except.map] at read
      | ok later =>
          rw [others] at read
          obtain rfl : first ++ later = found := Except.ok.inj read
          obtain ⟨seam, passes, exhausted, fresh, unfenced, longer⟩ :=
            induction (move.fenced real) (move.atLine ended paired) others
          obtain ⟨passed, early⟩ := move.passes
          refine ⟨seam, ?_, exhausted, fresh, unfenced, ?_⟩
          · rw [early.rest]
            exact early.trans passes
          · rw [(move.extend real ended paired tail).calls_eq, longer]
            cases (seam.extend tail).calls <;> simp [Except.map]

end Cursor

end Shortcode
