import Shortcode.Proofs.Document.Cut
import Shortcode.Proofs.Document.Failure
import Shortcode.Proofs.Document.Shift

/-!
# The shortcode to blame

A document with a fault falls into two at the delimiter of the shortcode to
blame.  What stands in front of the delimiter can be read, and what starts with
it has the same fault.
-/

namespace Shortcode

namespace Cursor

/-- If a document ends at a delimiter to which its reader would come, it can be
read. -/
theorem exists_calls_eq_ok {cursor last : Cursor} {shape : Shape}
    {tail : List Char} (opens : shape.opener <+: tail) (real : cursor.Fenced)
    (reaches : (cursor.extend tail).Reaches last) (arrived : last.rest = tail) :
    ∃ found, cursor.calls = .ok found := by
  -- Each move of the longer document is one of the shorter document, until
  -- nothing but the tail is left.
  generalize longer : cursor.extend tail = start at reaches
  induction reaches using Relation.ReflTransGen.head_induction_on
    generalizing cursor with
  | refl =>
      have empty : cursor.rest ++ tail = tail := by
        rw [← longer] at arrived
        exact arrived
      have ended : cursor.rest = [] := List.append_left_eq_self.mp empty
      exact ⟨[], calls_of_find?_none (find?_of_rest_eq_nil ended)⟩
  | @head start middle move reaches induction =>
      subst longer
      obtain ⟨first, move⟩ := move
      obtain ⟨more, passes⟩ := Reaches.passes reaches
      have inside : middle.rest = more ++ tail := arrived ▸ passes.rest
      by_cases ended : cursor.rest = []
      · exact ⟨[], calls_of_find?_none (find?_of_rest_eq_nil ended)⟩
      · obtain ⟨shorter, own, same⟩ :=
          move.of_extend real ended opens inside
        obtain ⟨found, read⟩ := induction (own.fenced real) same
        refine ⟨first ++ found, ?_⟩
        rw [own.calls_eq, read]
        rfl

end Cursor

/-- On the first line the same fault is found. -/
theorem readTag_of_fault {shape : Shape} {count : Nat} {text : List Char}
    {fault : Fault}
    (failed : readTag shape (1 + count) text = .error (.fault fault)) :
    fault.line = 1 + count ∧
      readTag shape 1 text = .error (.fault { fault with line := 1 }) := by
  have here : fault.line = 1 + count := (foundAt_of_readTag_error failed).1
  refine ⟨here, ?_⟩
  rw [readTag_add] at failed
  cases first : readTag shape 1 text with
  | ok reading => simp [first, Except.mapError] at failed
  | error failure =>
      have found := foundAt_of_readTag_error first
      simp only [first, Except.mapError, Except.error.injEq] at failed
      cases failure with
      | tooManyDigits => cases failed
      | fault located =>
          cases failed
          have start : located.line = 1 := found.1
          rw [← start]

/-- The first fault of a document is the one of a shortcode that starts at some
delimiter.  The text in front of it has none, and the text from there on has the
same one on its first line. -/
theorem exists_start_of_calls_error {text : List Char} {fault : Fault}
    (failed : calls text = .error (.fault fault)) :
    ∃ start, (∃ shape : Shape, shape.opener <+: text.drop start) ∧
      (∃ found, calls (text.take start) = .ok found) ∧
      fault.line = 1 + Text.lineEnds (text.take start) ∧
      calls (text.drop start) = .error (.fault { fault with line := 1 }) := by
  obtain ⟨last, shape, reaches, _, opens, tagFailed⟩ :=
    Cursor.exists_reaches_of_calls_error failed
  obtain ⟨passed, passes⟩ := reaches.passes
  have cut : text = passed ++ last.rest := passes.rest
  have line : (last.line : Int) = 1 + Text.lineEnds passed :=
    (congrArg Nat.cast passes.line).trans (Int.natCast_add 1 _)
  rw [line] at tagFailed
  obtain ⟨here, alone⟩ := readTag_of_fault tagFailed
  refine ⟨passed.length, ⟨shape, ?_⟩, ?_, ?_, ?_⟩
  · rwa [cut, List.drop_left]
  · have real : (Cursor.ofText passed).Fenced := by
      rintro fence ⟨⟩
    have whole : (Cursor.ofText passed).extend last.rest =
        Cursor.ofText text := by
      rw [cut]
      rfl
    rw [cut, List.take_left]
    exact Cursor.exists_calls_eq_ok opens real (whole ▸ reaches) rfl
  · rwa [cut, List.take_left]
  · rw [cut, List.drop_left]
    exact Cursor.calls_of_readTag_error
      (Cursor.find?_ofText_of_opener opens) alone

/-- The body on line six is not closed: the end tag behind it is cut short.  In
front of it stand a fence with a malformed shortcode, a code span, a delimiter
without a closer and a call. -/
def unclosedDocument : List Char :=
  "```\n\x7b\x7b< a( >\x7d\x7d\n```\n`\x7b\x7b<` \x7b\x7b% b\n".toList ++
    "\x7b\x7b< c(k=1) >\x7d\x7d\n\t\x7b\x7b% d() %\x7d\x7d `\n".toList ++
    "\x7b\x7b< e() >\x7d\x7d \x7b\x7b% end %\x7d".toList

theorem exists_start_of_calls_unclosedDocument :
    calls unclosedDocument = .error (.fault ⟨6, .unclosedBody "d"⟩) ∧
      ∃ start, (∃ shape : Shape, shape.opener <+: unclosedDocument.drop start) ∧
        (∃ found, calls (unclosedDocument.take start) = .ok found) ∧
        6 = 1 + (Text.lineEnds (unclosedDocument.take start) : Int) ∧
        calls (unclosedDocument.drop start) =
          .error (.fault ⟨1, .unclosedBody "d"⟩) := by
  have failure : (match calls unclosedDocument with
      | .ok _ => none
      | .error failure => some failure) =
        some (.fault ⟨6, .unclosedBody "d"⟩) := by
    decide +kernel
  have failed : calls unclosedDocument =
      .error (.fault ⟨6, .unclosedBody "d"⟩) := by
    cases read : calls unclosedDocument with
    | ok found => simp [read] at failure
    | error other =>
        rw [read] at failure
        exact congrArg Except.error (Option.some.inj failure)
  exact ⟨failed, exists_start_of_calls_error failed⟩

end Shortcode
