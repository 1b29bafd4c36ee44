import Shortcode.Proofs.Document.Moves

/-!
# Documents with text in front of them

A reader that starts behind other text, outside of any fence and at the start
of a line, finds the calls of the document that follows.  Offsets and lines are
counted on, also in the failures.
-/

namespace Shortcode

/-! ## Failures -/

/-- The failure with its line moved on by `count`. -/
def Failure.shift (count : Nat) : Failure → Failure
  | .fault located => .fault { located with line := located.line + count }
  | other => other

namespace Head

theorem readName_add (line : Int) (count : Nat) (text : List Char) :
    readName (line + count) text =
      (readName line text).mapError (Failure.shift count) := by
  unfold readName
  dsimp only
  split
  · rfl
  · split <;> rfl

theorem readArguments_add (name : String) (line : Int) (count : Nat)
    (text : List Char) :
    readArguments name (line + count) text =
      (readArguments name line text).mapError (Failure.shift count) := by
  unfold readArguments
  split <;> rfl

theorem read_add (line : Int) (count : Nat) (text : List Char) :
    read (line + count) text =
      (read line text).mapError (Failure.shift count) := by
  unfold read
  split
  · rename_i nameText rest _
    rw [readName_add]
    cases readName line nameText with
    | error failure => rfl
    | ok name =>
        simp only [bind, Except.bind, Except.mapError]
        split
        · rename_i argumentText after _
          rw [readArguments_add]
          cases readArguments name line (Text.trim argumentText) <;> rfl
        · rfl
  · rfl

end Head

theorem readBody_add (line : Int) (count : Nat) (head : Head) (length : Nat)
    (text : List Char) :
    readBody (line + count) head length text =
      (readBody line head length text).mapError (Failure.shift count) := by
  unfold readBody
  split <;> rfl

theorem readTag_add (shape : Shape) (line : Int) (count : Nat)
    (text : List Char) :
    readTag shape (line + count) text =
      (readTag shape line text).mapError (Failure.shift count) := by
  unfold readTag
  cases splitAtCloser? shape.closer text with
  | none => rfl
  | some parts =>
      obtain ⟨content, rest⟩ := parts
      cases shape with
      | inline =>
          simp only [Head.read_add]
          cases Head.read line (Text.trim content) <;> rfl
      | body =>
          simp only [Head.read_add]
          split
          · rfl
          · cases Head.read line (Text.trim content) with
            | error failure => rfl
            | ok head => exact readBody_add line count head _ rest

/-! ## Searches -/

/-- The call in a document with `lead` in front of it. -/
def Call.after (lead : List Char) (call : Call) : Call :=
  { call with
    start := lead.length + call.start
    stop := lead.length + call.stop
    line := call.line + Text.lineEnds lead }

namespace Cursor

/-- The cursor in a document with `lead` in front of it. -/
def after (lead : List Char) (cursor : Cursor) : Cursor :=
  { cursor with
    before := cursor.before ++ lead.reverse
    line := cursor.line + Text.lineEnds lead }

theorem skip_after (lead : List Char) (cursor : Cursor) (count : Nat) :
    (cursor.after lead).skip count = (cursor.skip count).after lead := by
  simp [skip, after, Nat.add_right_comm]

theorem skipLine_after (lead : List Char) (cursor : Cursor) :
    (cursor.after lead).skipLine = cursor.skipLine.after lead := by
  rw [skipLine, skip_after]
  rfl

theorem skipFenced?_after (lead : List Char) (cursor : Cursor) :
    (cursor.after lead).skipFenced? =
      cursor.skipFenced?.map (·.after lead) := by
  cases inFence : cursor.fence with
  | none =>
      have unfenced : (cursor.after lead).fence = none := inFence
      simp only [skipFenced?, unfenced, inFence, Option.map_map]
      refine Option.map_congr ?_
      intro fence _
      exact skipLine_after lead { cursor with fence := some fence }
  | some fence =>
      have same : (cursor.after lead).fence = some fence := inFence
      simp only [skipFenced?, same, inFence, Option.map_some]
      exact congrArg some (skipLine_after lead { cursor with
        fence := if fence.closedBy (dropIndent cursor.rest) then none
          else some fence })

theorem Step.after {cursor moved : Cursor} (step : Step cursor moved)
    (lead : List Char) : Step (cursor.after lead) (moved.after lead) := by
  cases step with
  | fenced nonempty fresh skipped =>
      refine .fenced nonempty fresh ?_
      rw [skipFenced?_after, skipped, Option.map_some]
  | prose nonempty fresh skipped =>
      refine .prose nonempty fresh ?_
      rw [skipFenced?_after, skipped, Option.map_none]
  | lineEnd inside remaining =>
      have moves : (cursor.after lead).newLine = cursor.newLine.after lead := by
        rw [newLine, skip_after]
        rfl
      rw [← moves]
      exact .lineEnd inside remaining
  | code inside remaining =>
      have moves : (cursor.after lead).skipCode = cursor.skipCode.after lead :=
        skip_after lead cursor _
      rw [← moves]
      exact .code inside remaining
  | char inside remaining notEnd notTick closed =>
      rw [← skip_after]
      exact .char inside remaining notEnd notTick closed

theorem find?_after (lead : List Char) (cursor : Cursor) :
    (cursor.after lead).find? =
      cursor.find?.map fun (shape, moved) => (shape, moved.after lead) := by
  obtain ⟨last, run, stop⟩ := cursor.next_run
  have same : (cursor.after lead).find? = (last.after lead).find? := by
    -- The search of the shifted cursor makes the same steps.
    clear stop
    induction run with
    | refl => rfl
    | tail _ step induction => rw [induction, (step.after lead).find?_eq]
  rw [same]
  rcases stop with ⟨missing, exhausted⟩ | ⟨shape, found, inside, opens⟩
  · have ended : (last.after lead).find? = none := find?_of_rest_eq_nil exhausted
    rw [ended, find?_eq_none_iff.mpr (by rw [missing])]
    rfl
  · have stopped : (last.after lead).find? = some (shape, last.after lead) :=
      find?_of_opener inside opens
    rw [stopped, find?_eq_some_iff.mpr found]
    rfl

theorem jump_after (lead : List Char) {cursor : Cursor} {count : Nat}
    (nonempty : cursor.rest ≠ []) (positive : 0 < count) :
    (cursor.after lead).jump count = (cursor.jump count).after lead := by
  obtain ⟨char, rest, remaining⟩ := List.exists_cons_of_ne_nil nonempty
  obtain ⟨less, rfl⟩ := Nat.exists_eq_succ_of_ne_zero (Nat.ne_of_gt positive)
  rw [jump, jump, skip_after]
  simp [after, skip, remaining]

theorem call?_after (lead : List Char) (reading : Reading) (cursor : Cursor) :
    reading.call? (cursor.after lead) =
      (reading.call? cursor).map (Call.after lead) := by
  cases reading with
  | delimiter => rfl
  | strayEnd => rfl
  | call shape head body length =>
      simp [Reading.call?, Call.after, position, Cursor.after, Nat.add_comm,
        Nat.add_left_comm]

/-- The calls behind `lead`. -/
theorem calls_after (lead : List Char) (cursor : Cursor) :
    (cursor.after lead).calls =
      (cursor.calls.map (List.map (Call.after lead))).mapError
        (Failure.shift (Text.lineEnds lead)) := by
  fun_induction calls cursor with
  | case1 cursor moved next =>
      have ended : (cursor.after lead).find? = none := by
        rw [find?_after, find?_eq_none_iff.mpr (by rw [next])]
        rfl
      exact calls_of_find?_none ended
  | case2 cursor shape moved next failure read =>
      have found : (cursor.after lead).find? = some (shape, moved.after lead) := by
        rw [find?_after, find?_eq_some_iff.mpr next]
        rfl
      refine calls_of_readTag_error found ?_
      have later := readTag_add shape moved.line (Text.lineEnds lead)
        (moved.rest.drop 3)
      rw [read] at later
      exact later
  | case3 cursor shape moved next reading read induction =>
      have found : (cursor.after lead).find? = some (shape, moved.after lead) := by
        rw [find?_after, find?_eq_some_iff.mpr next]
        rfl
      have later := readTag_add shape moved.line (Text.lineEnds lead)
        (moved.rest.drop 3)
      rw [read] at later
      rw [calls_of_readTag_ok found later, call?_after,
        jump_after lead (rest_ne_nil_of_next next) (length_pos_of_readTag read),
        induction]
      cases (moved.jump reading.length).calls with
      | error failure => rfl
      | ok others =>
          cases reading.call? moved <;> rfl

end Cursor

end Shortcode
