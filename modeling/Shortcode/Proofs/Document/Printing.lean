import Shortcode.Proofs.Call
import Shortcode.Proofs.Document.Spans

/-!
# Printed documents

A document printed as prose with invocations in it reads back as exactly these
invocations.  Prose is `Plain` if nothing in it sends the search elsewhere; it
may end in braces or blanks, since no delimiter and no fence can straddle the
place where an invocation begins.
-/

namespace Shortcode

/-- At most three spaces and three tildes. -/
def tildes (indent : Nat) : List Char :=
  List.replicate indent ' ' ++ ['~', '~', '~']

/-- Prose without backticks, opening delimiters and lines that start with
tildes; its first characters may be tildes if they stand within a line. -/
structure Plain (text : List Char) : Prop where
  noTick : '`' ∉ text
  noOpener : ∀ shape : Shape, ¬ shape.opener <:+: text
  noTildes : ∀ indent ≤ 3, ¬ '\n' :: tildes indent <:+: text

/-- An invocation and the prose behind it. -/
structure Part where
  invocation : Invocation
  head : Head
  prose : List Char

namespace Part

/-- The invocation reads as the name and the arguments, and the prose is plain.
-/
structure Valid (part : Part) : Prop where
  wellFormed : part.invocation.WellFormed
  read : ∃ line, part.invocation.head line = .ok part.head
  plain : Plain part.prose

def print (part : Part) : List Char := part.invocation.print ++ part.prose

/-- The call of the invocation, which `before` stands in front of. -/
def call (part : Part) (before : List Char) : Call :=
  { part.head with
    shape := part.invocation.shape
    body := part.invocation.body?
    start := before.length
    stop := before.length + part.invocation.print.length
    line := 1 + Text.lineEnds before }

end Part

def printParts (parts : List Part) : List Char := parts.flatMap Part.print

/-- The calls of a document, each behind the text in front of it. -/
def printedCalls (lead : List Char) (parts : List Part) : List Call :=
  parts.mapIdx fun index part =>
    part.call (lead ++ printParts (parts.take index))

theorem printParts_cons (part : Part) (parts : List Part) :
    printParts (part :: parts) =
      part.invocation.print ++ (part.prose ++ printParts parts) := by
  simp [printParts, Part.print]

theorem printedCalls_cons (lead : List Char) (part : Part)
    (parts : List Part) :
    printedCalls lead (part :: parts) =
      part.call lead :: printedCalls (lead ++ part.print) parts := by
  simp [printedCalls, printParts, List.mapIdx_cons]

theorem map_shape_printedCalls (lead : List Char) (parts : List Part) :
    (printedCalls lead parts).map Call.shape =
      parts.map fun part => part.invocation.shape := by
  induction parts generalizing lead with
  | nil => rfl
  | cons part parts induction =>
      rw [printedCalls_cons, List.map_cons, List.map_cons, induction]
      rfl

/-! ## Plain prose -/

theorem Plain.tail {char : Char} {text : List Char}
    (plain : Plain (char :: text)) : Plain text := by
  refine ⟨?_, ?_, ?_⟩
  · exact fun member => plain.noTick (List.mem_cons_of_mem _ member)
  · exact fun shape inside => plain.noOpener shape (List.infix_cons inside)
  · exact fun indent few inside =>
      plain.noTildes indent few (List.infix_cons inside)

/-- The text is over, or an opening delimiter stands here. -/
def AtOpener (text : List Char) : Prop :=
  text = [] ∨ ∃ shape : Shape, shape.opener <+: text

theorem AtOpener.head?_eq {text : List Char} (ready : AtOpener text) :
    ∀ char ∈ text.head?, char = '{' := by
  rintro char first
  rcases ready with rfl | ⟨shape, rest, rfl⟩
  · cases first
  · simpa [Shape.opener_eq, eq_comm] using first

/-- What holds no brace does not reach into the next invocation. -/
theorem prefix_of_append_atOpener {lead text tail : List Char}
    (ready : AtOpener tail) (noBrace : '{' ∉ lead)
    (begins : lead <+: text ++ tail) : lead <+: text := by
  obtain ⟨rest, cut⟩ := begins
  rcases List.append_eq_append_iff.mp cut.symm with
    ⟨more, leadCut, tailCut⟩ | ⟨more, textCut, _⟩
  · cases more with
    | nil => exact ⟨[], by simpa using leadCut⟩
    | cons char more =>
        have brace : char = '{' := ready.head?_eq char (by rw [tailCut]; rfl)
        refine absurd ?_ noBrace
        rw [leadCut, brace]
        simp
  · exact ⟨more, textCut.symm⟩

/-- No delimiter straddles the place where an invocation begins. -/
theorem openerAt?_append_atOpener {text tail : List Char}
    (ready : AtOpener tail) (nonempty : text ≠ [])
    (absent : ∀ shape : Shape, ¬ shape.opener <:+: text) :
    openerAt? (text ++ tail) = none := by
  rw [Option.eq_none_iff_forall_not_mem]
  intro shape found
  have begins := openerAt?_eq_some_iff.mp found
  have notBrace : shape.mark ≠ '{' := by cases shape <;> decide
  match text, nonempty with
  | [first], _ =>
      rcases ready with rfl | ⟨other, rest, rfl⟩
      · simp [Shape.opener_eq] at begins
      · simp [Shape.opener_eq, notBrace] at begins
  | [first, second], _ =>
      rcases ready with rfl | ⟨other, rest, rfl⟩
      · simp [Shape.opener_eq] at begins
      · simp [Shape.opener_eq, notBrace] at begins
  | first :: second :: third :: more, _ =>
      apply absent shape
      rw [Shape.opener_eq] at begins ⊢
      have inside : ['{', '{', shape.mark] <+:
          first :: second :: third :: more := by
        simpa using begins
      exact inside.isInfix

/-- No fence opens on a line that starts with plain prose. -/
theorem not_opensFence_append {text tail : List Char} (ready : AtOpener tail)
    (noTick : '`' ∉ text) (noTildes : ∀ indent ≤ 3, ¬ tildes indent <+: text) :
    ¬ OpensFence (text ++ tail) := by
  rintro ⟨fence, line, length, starts, marked, long, indent, few, run, rfl,
    after, rfl, _⟩
  have begins : List.replicate indent ' ' ++
      List.replicate 3 fence.mark <+: text ++ tail := by
    obtain ⟨more, count⟩ := Nat.exists_eq_add_of_le long
    have inLine := firstLine_prefix (text ++ tail)
    rw [← starts.eq_firstLine, count, List.replicate_add, List.append_assoc,
      ← List.append_assoc] at inLine
    exact (List.prefix_append _ _).trans inLine
  rcases marked with tick | tilde
  · rw [tick] at begins
    have inside := prefix_of_append_atOpener ready (by simp) begins
    exact noTick (inside.subset (by simp))
  · rw [tilde] at begins
    have inside := prefix_of_append_atOpener ready (by simp) begins
    exact noTildes indent few inside

namespace Cursor

/-- A search walks over plain prose to the place where the next invocation
begins. -/
theorem find?_of_plain {text tail : List Char} (ready : AtOpener tail)
    (plain : Plain text) {cursor : Cursor} (remaining : cursor.rest = text ++ tail)
    (unfenced : cursor.fence = none)
    (noTildes : cursor.atLineStart = true →
      ∀ indent ≤ 3, ¬ tildes indent <+: text) :
    ∃ lineStart,
      cursor.find? = (cursor.behind text.length lineStart).find? := by
  -- Each character is a piece of its own, since no piece of plain prose is
  -- longer; `noTildes` is given anew at each line end.
  induction text generalizing cursor with
  | nil =>
      refine ⟨cursor.atLineStart, ?_⟩
      rw [List.length_nil, behind_zero unfenced]
  | cons char text induction =>
      have piece : Piece cursor.atLineStart (char :: (text ++ tail)) 1 .prose
          (char == '\n') := by
        refine .char ?_ ?_
        · intro fresh
          exact not_opensFence_append ready plain.noTick (noTildes fresh)
        · rintro rfl
          exact plain.noTick List.mem_cons_self
      have quiet : openerAt? (char :: (text ++ tail)) = none :=
        openerAt?_append_atOpener ready (List.cons_ne_nil _ _) plain.noOpener
      have moved := find?_of_piece piece (fun _ => quiet) remaining rfl unfenced
      have dropped :
          (cursor.behind 1 (char == '\n')).rest = text ++ tail := by
        simp [remaining]
      have noLine : (char == '\n') = true →
          ∀ indent ≤ 3, ¬ tildes indent <+: text := by
        intro lineEnd indent few begins
        obtain rfl : char = '\n' := by simpa using lineEnd
        apply plain.noTildes indent few
        exact (List.cons_prefix_cons.mpr ⟨rfl, begins⟩).isInfix
      obtain ⟨lineStart, later⟩ := induction plain.tail dropped rfl noLine
      refine ⟨lineStart, ?_⟩
      rw [moved, later, behind_behind, List.length_cons, Nat.add_comm]

/-- A search in plain prose ends at the invocation behind it. -/
theorem find?_of_plain_of_opener {text tail : List Char} {shape : Shape}
    (opens : shape.opener <+: tail) (plain : Plain text) {cursor : Cursor}
    (remaining : cursor.rest = text ++ tail) (unfenced : cursor.fence = none)
    (noTildes : cursor.atLineStart = true →
      ∀ indent ≤ 3, ¬ tildes indent <+: text) :
    cursor.find? = some (shape, cursor.behind text.length false) := by
  have ready : AtOpener tail := .inr ⟨shape, opens⟩
  obtain ⟨lineStart, walked⟩ :=
    find?_of_plain ready plain remaining unfenced noTildes
  have rest : (cursor.behind text.length lineStart).rest = tail := by
    simp [remaining]
  have noFence : ¬ OpensFence ([] ++ tail) := by
    refine not_opensFence_append ready List.not_mem_nil ?_
    simp [tildes]
  have stop := find?_of_opener_of_not_opensFence rfl (rest ▸ opens)
    (fun _ => rest ▸ noFence)
  rw [walked, stop, behind_behind, Nat.add_zero]

/-! ## Invocations between prose -/

/-- Behind an invocation no line starts. -/
theorem atLineStart_jump_print {cursor : Cursor} {invocation : Invocation}
    {rest : List Char} (wellFormed : invocation.WellFormed)
    (remaining : cursor.rest = invocation.print ++ rest) :
    (cursor.jump invocation.print.length).atLineStart = false := by
  obtain ⟨inner, closed⟩ := wellFormed.exists_print_eq
  have passed : cursor.rest.take invocation.print.length = inner ++ ['}'] := by
    rw [remaining, List.take_left, closed]
  simp [jump, skip, passed]

/-- The calls of a document whose first invocation stands behind plain prose.
-/
theorem exists_calls_eq_map {part : Part} (valid : part.Valid)
    {prose rest : List Char} (plain : Plain prose) {cursor : Cursor}
    (remaining : cursor.rest = prose ++ (part.invocation.print ++ rest))
    (unfenced : cursor.fence = none) (lined : cursor.Lined)
    (noTildes : cursor.atLineStart = true →
      ∀ indent ≤ 3, ¬ tildes indent <+: prose) :
    ∃ landed, cursor.Passes (prose ++ part.invocation.print) landed ∧
      landed.fence = none ∧ landed.atLineStart = false ∧
      cursor.calls = landed.calls.map
        (part.call (cursor.before.reverse ++ prose) :: ·) := by
  obtain ⟨wellFormed, ⟨line, read⟩, _⟩ := valid
  have opens : part.invocation.shape.opener <+: part.invocation.print ++ rest :=
    part.invocation.opener_prefix_print.trans (List.prefix_append _ _)
  let moved := cursor.behind prose.length false
  have found : cursor.find? = some (part.invocation.shape, moved) :=
    find?_of_plain_of_opener opens plain remaining unfenced noTildes
  have early : cursor.Passes prose moved := by
    have passes := cursor.passes_behind prose.length false
    rwa [remaining, List.take_left] at passes
  have movedRest : moved.rest = part.invocation.print ++ rest := by
    simp [moved, remaining]
  have late : moved.Passes part.invocation.print
      (moved.jump part.invocation.print.length) := by
    have passes := moved.passes_jump part.invocation.print.length
    rwa [movedRest, List.take_left] at passes
  have tag := Invocation.readTag_print wellFormed
    (Head.read_of_line read moved.line) rest
  rw [← movedRest] at tag
  have here : Reading.call? (.call part.invocation.shape part.head
      part.invocation.body? part.invocation.print.length) moved =
        some (part.call (cursor.before.reverse ++ prose)) := by
    have before : moved.before.reverse = cursor.before.reverse ++ prose := by
      simp [early.before]
    have position : moved.position =
        (cursor.before.reverse ++ prose).length := by
      rw [← before, List.length_reverse, Cursor.position]
    have line : moved.line =
        1 + Text.lineEnds (cursor.before.reverse ++ prose) := by
      rw [← before, Text.lineEnds_reverse, ← early.lined lined]
    simp only [Reading.call?, Part.call, position, line]
  refine ⟨_, early.trans late, rfl,
    atLineStart_jump_print wellFormed movedRest, ?_⟩
  rw [calls_of_readTag_ok found tag, here]
  rfl

theorem calls_of_printParts {parts : List Part}
    (valid : ∀ part ∈ parts, part.Valid) {prose : List Char}
    (plain : Plain prose) {cursor : Cursor}
    (remaining : cursor.rest = prose ++ printParts parts)
    (unfenced : cursor.fence = none) (lined : cursor.Lined)
    (noTildes : cursor.atLineStart = true →
      ∀ indent ≤ 3, ¬ tildes indent <+: prose) :
    cursor.calls =
      .ok (printedCalls (cursor.before.reverse ++ prose) parts) := by
  -- Between two invocations the cursor stands within a line, so the prose
  -- there may start with tildes.
  induction parts generalizing prose cursor with
  | nil =>
      obtain ⟨lineStart, walked⟩ :=
        find?_of_plain (.inl rfl) plain remaining unfenced noTildes
      have ended : (cursor.behind prose.length lineStart).rest = [] := by
        simp [remaining, printParts]
      exact calls_of_find?_none (walked.trans (find?_of_rest_eq_nil ended))
  | cons part parts induction =>
      obtain ⟨here, others⟩ := List.forall_mem_cons.mp valid
      rw [printParts_cons] at remaining
      obtain ⟨landed, passes, landedUnfenced, inLine, first⟩ :=
        exists_calls_eq_map here plain remaining unfenced lined noTildes
      have landedRest : landed.rest = part.prose ++ printParts parts := by
        have rest := passes.rest
        rwa [remaining, ← List.append_assoc, List.append_cancel_left_eq,
          eq_comm] at rest
      have before : landed.before.reverse ++ part.prose =
          (cursor.before.reverse ++ prose) ++ part.print := by
        simp [passes.before, Part.print]
      have later := induction others here.plain landedRest landedUnfenced
        (passes.lined lined) (by simp [inLine])
      rw [first, later, before, printedCalls_cons]
      rfl

end Cursor

/-- A printed document reads back as its invocations, and each call is of the
kind that is printed. -/
theorem calls_print {lead : List Char} {parts : List Part}
    (plain : Plain lead) (noTildes : ∀ indent ≤ 3, ¬ tildes indent <+: lead)
    (valid : ∀ part ∈ parts, part.Valid) :
    calls (lead ++ printParts parts) = .ok (printedCalls lead parts) ∧
      (printedCalls lead parts).map Call.shape =
        parts.map fun part => part.invocation.shape := by
  constructor
  · have lined : (Cursor.ofText (lead ++ printParts parts)).Lined := by
      simp [Cursor.Lined, Cursor.ofText]
    exact Cursor.calls_of_printParts valid plain rfl rfl lined fun _ => noTildes
  · exact map_shape_printedCalls lead parts

/-- The argument holds a backtick and an opening delimiter. -/
def tickedInvocation : Invocation :=
  .inline " a(k=\"`\x7b\x7b%\") ".toList

/-- The body holds an open fence, a shortcode and an end tag over two lines. -/
def fencedInvocation : Invocation :=
  .body " b() ".toList
    "\n```\n`\x7b\x7b< c() >\x7d\x7d\n\x7b\x7b% end\n%\x7d\x7d".toList
    "\x7b\x7b% end\t%\x7d\x7d".toList

/-- The prose behind the first invocation is tildes, and ends in a brace. -/
def printedParts : List Part :=
  [⟨tickedInvocation, ⟨"a", [("k", .text "`\x7b\x7b%")]⟩, "~~~\n  \x7b".toList⟩,
    ⟨fencedInvocation, ⟨"b", []⟩, "\n\x7b\x7b".toList⟩]

theorem fencedInvocation_wellFormed : fencedInvocation.WellFormed := by
  refine ⟨by decide, by decide, by decide +kernel, ?_, ?_⟩
  · exact findEndTag?_eq_none_iff.mp (by decide +kernel)
  · have space : Text.AllBlank [' '] :=
      List.forall_mem_singleton.mpr (by decide)
    have tab : Text.AllBlank ['\t'] :=
      List.forall_mem_singleton.mpr (by decide)
    exact ⟨[' '], ['\t'], space, tab, by decide, by decide, rfl⟩

theorem printedParts_valid : ∀ part ∈ printedParts, part.Valid := by
  have tickedRead : tickedInvocation.head 1 =
      .ok ⟨"a", [("k", .text "`\x7b\x7b%")]⟩ := by
    with_unfolding_all rfl
  have fencedRead : fencedInvocation.head 1 = .ok ⟨"b", []⟩ := by
    with_unfolding_all rfl
  rw [printedParts, List.forall_mem_cons, List.forall_mem_singleton]
  constructor
  · refine ⟨⟨by decide, by decide, trivial⟩, ⟨1, tickedRead⟩, by decide, ?_,
      by decide⟩
    intro shape
    cases shape <;> decide
  · refine ⟨fencedInvocation_wellFormed, ⟨1, fencedRead⟩, by decide, ?_,
      by decide⟩
    intro shape
    cases shape <;> decide

theorem calls_print_printedParts :
    calls (['~', '~', '{'] ++ printParts printedParts) =
        .ok (printedCalls ['~', '~', '{'] printedParts) ∧
      (printedCalls ['~', '~', '{'] printedParts).map
        (fun call => (call.start, call.stop, call.line)) =
          [(3, 22, 1), (29, 80, 2)] ∧
      (printedCalls ['~', '~', '{'] printedParts).map Call.shape =
        [.inline, .body] := by
  have plain : Plain ['~', '~', '{'] := by
    refine ⟨by decide, ?_, by decide⟩
    intro shape
    cases shape <;> decide
  obtain ⟨read, shapes⟩ := calls_print plain (by decide) printedParts_valid
  exact ⟨read, by decide, shapes⟩

end Shortcode
