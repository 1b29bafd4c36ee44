import Shortcode.Proofs.Document.Invocation
import Shortcode.Proofs.Document.Search

/-!
# The spans of the calls of a document

Each call stands in the document where its span says, written as a well-formed
invocation, and no call begins before the one in front of it has ended.
-/

namespace Shortcode

namespace Cursor

theorem calls_of_find?_none {cursor : Cursor} (ended : cursor.find? = none) :
    cursor.calls = .ok [] := by
  rw [find?_eq_none_iff] at ended
  rw [calls]
  split
  · rfl
  · simp_all

theorem calls_of_readTag_error {cursor moved : Cursor} {shape : Shape}
    {failure : Failure} (found : cursor.find? = some (shape, moved))
    (read : readTag shape moved.line (moved.rest.drop 3) = .error failure) :
    cursor.calls = .error failure := by
  rw [find?_eq_some_iff] at found
  rw [calls]
  split
  · simp_all
  · split
    · simp_all
    · simp_all

theorem calls_of_readTag_ok {cursor moved : Cursor} {shape : Shape}
    {reading : Reading} (found : cursor.find? = some (shape, moved))
    (read : readTag shape moved.line (moved.rest.drop 3) = .ok reading) :
    cursor.calls = (moved.jump reading.length).calls.map
      ((reading.call? moved).toList ++ ·) := by
  rw [find?_eq_some_iff] at found
  rw [calls]
  split
  · simp_all
  · split
    · simp_all
    · simp_all

end Cursor

namespace Call

/-- The text of the span. -/
def source (call : Call) (text : List Char) : List Char :=
  (text.take call.stop).drop call.start

/-- The call is what the reader makes of a well-formed invocation that stands
at its span, and its line is the line of that place. -/
def WrittenIn (call : Call) (text : List Char) : Prop :=
  ∃ (before : List Char) (invocation : Invocation) (rest : List Char),
    text = before ++ (invocation.print ++ rest) ∧
    invocation.WellFormed ∧ invocation.head call.line = .ok call.toHead ∧
    call.shape = invocation.shape ∧ call.body = invocation.body? ∧
    call.start = before.length ∧
    call.stop = before.length + invocation.print.length ∧
    call.line = 1 + Text.lineEnds before

/-- Each call begins behind the one in front of it, and the first one not
before `start`. -/
def Ascending : (start : Nat) → List Call → Prop
  | _, [] => True
  | start, call :: rest => start ≤ call.start ∧ Ascending call.stop rest

theorem Ascending.mono {start earlier : Nat} {found : List Call}
    (ascending : Ascending start found) (le : earlier ≤ start) :
    Ascending earlier found := by
  cases found with
  | nil => trivial
  | cons call rest => exact ⟨le.trans ascending.1, ascending.2⟩

theorem WrittenIn.bounds {call : Call} {text : List Char}
    (written : call.WrittenIn text) :
    call.start < call.stop ∧ call.stop ≤ text.length := by
  obtain ⟨before, invocation, rest, rfl, _, _, _, _, start, stop, _⟩ := written
  have positive : 0 < invocation.print.length := by
    rw [invocation.length_print]
    omega
  simp only [List.length_append]
  omega

theorem WrittenIn.line_eq {call : Call} {text : List Char}
    (written : call.WrittenIn text) :
    call.line = 1 + Text.lineEnds (text.take call.start) := by
  obtain ⟨before, invocation, rest, rfl, _, _, _, _, start, _, line⟩ := written
  rw [line, start, List.take_left]

theorem WrittenIn.exists_invocation {call : Call} {text : List Char}
    (written : call.WrittenIn text) :
    ∃ invocation : Invocation, call.source text = invocation.print ∧
      invocation.WellFormed ∧ invocation.head call.line = .ok call.toHead ∧
      call.shape = invocation.shape ∧ call.body = invocation.body? := by
  obtain ⟨before, invocation, rest, rfl, wellFormed, head, shape, body, start,
    stop, _⟩ := written
  refine ⟨invocation, ?_, wellFormed, head, shape, body⟩
  have inside : (before ++ (invocation.print ++ rest)).take call.stop =
      before ++ invocation.print := by
    rw [stop, ← List.append_assoc, ← List.length_append, List.take_left]
  rw [source, inside, start, List.drop_left]

theorem Ascending.pairwise {start : Nat} {found : List Call}
    (ascending : Ascending start found)
    (bounds : ∀ call ∈ found, call.start < call.stop) :
    found.Pairwise (fun earlier later => earlier.stop ≤ later.start) ∧
      ∀ call ∈ found, start ≤ call.start := by
  induction found generalizing start with
  | nil => simp
  | cons call rest induction =>
      obtain ⟨here, others⟩ := ascending
      obtain ⟨pairwise, behind⟩ :=
        induction others fun other member => bounds other (by simp [member])
      have positive := bounds call List.mem_cons_self
      refine ⟨List.pairwise_cons.mpr ⟨behind, pairwise⟩, ?_⟩
      intro other member
      rcases List.mem_cons.mp member with rfl | later
      · exact here
      · have after := behind other later
        omega

end Call

namespace Cursor

theorem position_jump_le (cursor : Cursor) (count : Nat) :
    cursor.position ≤ (cursor.jump count).position := by
  rw [(cursor.passes_jump count).position_eq]
  omega

/-- The invocation at the cursor that a reader has found. -/
theorem exists_invocation_of_readTag {cursor : Cursor} {shape kind : Shape}
    {head : Head} {body : Option String} {length : Nat}
    (opens : shape.opener <+: cursor.rest)
    (read : readTag shape cursor.line (cursor.rest.drop 3) =
      .ok (.call kind head body length)) :
    ∃ invocation rest, Invocation.WellFormed invocation ∧
      cursor.rest = invocation.print ++ rest ∧
      invocation.head cursor.line = .ok head ∧ invocation.shape = kind ∧
      invocation.body? = body ∧ invocation.print.length = length := by
  obtain ⟨invocation, rest, wellFormed, rfl, kindEq, cut, reads, bodyEq,
    lengthEq⟩ := Invocation.exists_of_readTag read
  refine ⟨invocation, rest, wellFormed, ?_, reads, kindEq.symm, bodyEq,
    lengthEq⟩
  obtain ⟨tail, written⟩ := opens
  rw [← cut, ← written, Shape.opener_eq]
  rfl

/-- The calls that a cursor finds are written in the document behind it. -/
theorem ascending_writtenIn_of_calls {cursor : Cursor} {found : List Call}
    (lined : cursor.Lined) (read : cursor.calls = .ok found) :
    Call.Ascending cursor.position found ∧
      ∀ call ∈ found, call.WrittenIn cursor.text := by
  fun_induction calls cursor generalizing found with
  | case1 =>
      cases read
      exact ⟨trivial, by simp⟩
  | case2 => cases read
  | case3 cursor shape moved next reading tagRead induction =>
      obtain ⟨run, _, opens⟩ := run_of_next next
      obtain ⟨passed, passes⟩ := run_passes run
      have jumped := moved.passes_jump reading.length
      have movedLined := passes.lined lined
      obtain ⟨others, later, same⟩ : ∃ others,
          (moved.jump reading.length).calls = .ok others ∧
            (reading.call? moved).toList ++ others = found := by
        cases later : (moved.jump reading.length).calls with
        | error failure => simp [later, Except.map] at read
        | ok others => exact ⟨others, rfl, by simpa [later, Except.map] using read⟩
      obtain ⟨ascending, written⟩ := induction (jumped.lined movedLined) later
      rw [jumped.text_eq, passes.text_eq] at written
      have started : cursor.position ≤ moved.position := by
        rw [passes.position_eq]
        omega
      cases reading with
      | delimiter | strayEnd =>
          obtain rfl : others = found := same
          exact ⟨ascending.mono (started.trans (moved.position_jump_le _)),
            written⟩
      | call kind head body length =>
          obtain ⟨invocation, rest, wellFormed, cut, reads, rfl, rfl, rfl⟩ :=
            exists_invocation_of_readTag opens tagRead
          obtain rfl : _ :: others = found := same
          have stop : (moved.jump invocation.print.length).position =
              moved.position + invocation.print.length := by
            simp [(moved.passes_jump _).position_eq, cut]
          refine ⟨⟨started, stop ▸ ascending⟩, ?_⟩
          intro call member
          rcases List.mem_cons.mp member with rfl | later
          · refine ⟨moved.before.reverse, invocation, rest, ?_, wellFormed,
              reads, rfl, rfl, ?_, ?_, ?_⟩
            · rw [← passes.text_eq, text, cut]
            · simp [position]
            · simp [position]
            · simpa [Lined] using movedLined
          · exact written call later

end Cursor

/-- The calls of a document stand in it one behind the other. -/
theorem ascending_writtenIn_of_calls {text : List Char} {found : List Call}
    (read : calls text = .ok found) :
    Call.Ascending 0 found ∧ ∀ call ∈ found, call.WrittenIn text :=
  Cursor.ascending_writtenIn_of_calls (by simp [Cursor.Lined, Cursor.ofText])
    read

/-- The span begins and ends as the kind of the call demands. -/
def Call.Delimited (call : Call) (text : List Char) : Prop :=
  match call.shape with
  | .inline => ['{', '{', '<'] <+: call.source text ∧
      ['>', '}', '}'] <:+ call.source text ∧ '\n' ∉ call.source text
  | .body => ['{', '{', '%'] <+: call.source text ∧
      ∃ tag, EndTag tag ∧ tag <:+ call.source text

theorem Call.WrittenIn.delimited {call : Call} {text : List Char}
    (written : call.WrittenIn text) : call.Delimited text := by
  obtain ⟨invocation, source, wellFormed, _, shape, _⟩ :=
    written.exists_invocation
  rw [Delimited, source, shape]
  cases invocation with
  | inline content =>
      have single : '\n' ∉ content := wellFormed.1
      refine ⟨List.prefix_append _ _, ⟨Shape.inline.opener ++ content, ?_⟩, ?_⟩
      · simp [Invocation.print, Invocation.shape, Invocation.content,
          Invocation.block, Shape.closer]
      · simp [Invocation.print, Invocation.shape, Invocation.content,
          Invocation.block, Shape.opener, Shape.closer, single]
  | body content block tag =>
      refine ⟨List.prefix_append _ _, tag, wellFormed.2.2.2.2,
        Shape.body.opener ++ (content ++ (Shape.body.closer ++ block)), ?_⟩
      simp [Invocation.print, Invocation.shape, Invocation.content,
        Invocation.block]

/-- Spans are in the document, in order and apart; each begins and ends with
delimiters of its kind, and the line of a call is the line its span begins on.
-/
theorem calls_in_order_and_delimited {text : List Char} {found : List Call}
    (read : calls text = .ok found) :
    found.Pairwise (fun earlier later => earlier.stop ≤ later.start) ∧
      ∀ call ∈ found, call.start < call.stop ∧ call.stop ≤ text.length ∧
        call.line = 1 + Text.lineEnds (text.take call.start) ∧
        call.Delimited text := by
  obtain ⟨ascending, written⟩ := ascending_writtenIn_of_calls read
  constructor
  · have positive : ∀ call ∈ found, call.start < call.stop :=
      fun call member => (written call member).bounds.1
    exact (ascending.pairwise positive).1
  · intro call member
    have place := written call member
    exact ⟨place.bounds.1, place.bounds.2, place.line_eq, place.delimited⟩

/-- An inline call behind a fence and a code span over two lines, and a body
that holds a backtick and an opener. -/
def callsAroundCode : List Char :=
  "```\n\x7b\x7b< a() >\x7d\x7d\n```\n`x\n` ".toList ++
    "\x7b\x7b< b(k=1) >\x7d\x7d\n\x7b\x7b% c() %\x7d\x7d\n".toList ++
    "`\x7b\x7b< d() >\x7d\x7d\n\x7b\x7b% end %\x7d\x7d".toList

theorem calls_in_order_around_code :
    ∃ found, calls callsAroundCode = .ok found ∧
      found.map (fun call => (call.start, call.stop, call.line)) =
        [(25, 39, 5), (40, 76, 6)] ∧
      found.Pairwise (fun earlier later => earlier.stop ≤ later.start) ∧
      ∀ call ∈ found,
        call.start < call.stop ∧ call.stop ≤ callsAroundCode.length ∧
        call.line = 1 + Text.lineEnds (callsAroundCode.take call.start) ∧
        call.Delimited callsAroundCode := by
  have spans : (calls callsAroundCode).toOption.map (List.map fun call =>
      (call.start, call.stop, call.line)) =
        some [(25, 39, 5), (40, 76, 6)] := by
    decide +kernel
  cases read : calls callsAroundCode with
  | error failure =>
      rw [read] at spans
      cases spans
  | ok found =>
      rw [read] at spans
      exact ⟨found, rfl, Option.some.inj spans,
        calls_in_order_and_delimited read⟩

end Shortcode
