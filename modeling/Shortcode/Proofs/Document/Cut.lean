import Shortcode.Proofs.Document.Moves

/-!
# Documents cut in front of a delimiter

A reader that comes to a delimiter has made the moves that it makes if the
document ends there.  What it found on the way stands in front of the
delimiter, and what it looked for in vain is missing in the shorter document
too.
-/

namespace Shortcode

theorem head?_of_opener {shape : Shape} {text : List Char}
    (opens : shape.opener <+: text) : text.head? = some '{' := by
  obtain ⟨rest, rfl⟩ := opens
  rw [Shape.opener_eq]
  rfl

/-! ## Runs and code spans -/

theorem startsWithRun_append_iff {mark : Char} {length : Nat}
    {text tail : List Char} (stop : tail.head? ≠ some mark) :
    StartsWithRun mark length (text ++ tail) ↔
      StartsWithRun mark length text := by
  constructor
  · intro run
    have own := startsWithRun_runLength mark text
    have whole := startsWithRun_append own stop
    obtain rfl := whole.runLength_eq.symm.trans run.runLength_eq
    exact own
  · intro run
    exact startsWithRun_append run stop

theorem runAt_append_iff {mark : Char} {length offset : Nat}
    {text tail : List Char} (stop : tail.head? ≠ some mark)
    (inside : offset ≤ text.length) :
    RunAt mark length (text ++ tail) offset ↔ RunAt mark length text offset := by
  rw [RunAt, RunAt, List.take_append_of_le_length inside,
    List.drop_append_of_le_length inside, startsWithRun_append_iff stop]

theorem RunAt.offset_lt {mark : Char} {length offset : Nat} {text : List Char}
    (positive : 0 < length) (run : RunAt mark length text offset) :
    offset < text.length :=
  run.2.offset_lt positive

theorem CodeSpan.of_append {text tail : List Char} {count : Nat}
    (stop : tail.head? ≠ some '`') (inside : count ≤ text.length)
    (span : CodeSpan (text ++ tail) count) : CodeSpan text count := by
  obtain ⟨run, distance, positive, starts, ⟨closes, least⟩, rfl⟩ := span
  have runInside : run ≤ text.length := by omega
  rw [List.drop_append_of_le_length runInside] at closes least
  refine ⟨run, distance, positive, (startsWithRun_append_iff stop).mp starts,
    ⟨?_, ?_⟩, rfl⟩
  · refine (runAt_append_iff stop ?_).mp closes
    rw [List.length_drop]
    omega
  · intro offset there
    exact least
      ((runAt_append_iff stop (there.offset_lt positive).le).mpr there)

theorem UnclosedRun.of_append {text tail : List Char} {run : Nat}
    (stop : tail.head? ≠ some '`') (unclosed : UnclosedRun (text ++ tail) run) :
    UnclosedRun text run := by
  obtain ⟨positive, starts, absent⟩ := unclosed
  have own := (startsWithRun_append_iff stop).mp starts
  have inside : run ≤ text.length := own.length_le
  rw [List.drop_append_of_le_length inside] at absent
  refine ⟨positive, own, ?_⟩
  intro offset there
  exact absent offset
    ((runAt_append_iff stop (there.offset_lt positive).le).mpr there)

theorem exists_codeSpan_or_unclosedRun {text rest : List Char}
    (ticked : text = '`' :: rest) :
    ∃ count, CodeSpan text count ∨ UnclosedRun text count := by
  subst ticked
  cases spanned : codeSpan? ('`' :: rest) with
  | some count => exact ⟨count, .inl (codeSpan?_eq_some_iff.mp spanned)⟩
  | none => exact ⟨_, .inr (codeSpan?_eq_none_iff.mp ⟨spanned, rfl⟩)⟩

/-! ## Lines and fences -/

/-- A line that ends in front of a delimiter has a line end there. -/
theorem lineEnd_mem_of_drop {text tail more : List Char}
    (nonempty : tail ≠ []) (inLine : tail.head? ≠ some '\n')
    (inside : (text ++ tail).drop (lineLength (text ++ tail)) = more ++ tail) :
    '\n' ∈ text := by
  by_contra absent
  obtain ⟨char, rest, rfl⟩ := List.exists_cons_of_ne_nil nonempty
  have different : char ≠ '\n' := by simpa using inLine
  have line : firstLine (text ++ char :: rest) =
      text ++ char :: firstLine rest := by
    rw [firstLine_append absent]
    simp [firstLine, different]
  have long : text.length < lineLength (text ++ char :: rest) := by
    unfold lineLength
    simp only [line, List.length_append, List.length_cons]
    split <;> omega
  have counted := congrArg List.length inside
  simp only [List.length_drop, List.length_append, List.length_cons] at counted
  omega

/-- A cut in front of a delimiter makes no line a line that opens a fence. -/
theorem opening?_of_append {text tail : List Char} {shape : Shape}
    (opens : shape.opener <+: tail)
    (closed : Fence.opening? (dropIndent (text ++ tail)) = none) :
    Fence.opening? (dropIndent text) = none := by
  by_cases member : '\n' ∈ text
  · rwa [opening?_append_of_mem member] at closed
  · rw [Option.eq_none_iff_forall_not_mem]
    intro fence found
    obtain ⟨marked, long, indent, few, rest, line, run⟩ :=
      Fence.opening?_dropIndent_iff.mp found
    have stop : (firstLine tail).head? ≠ some fence.mark := by
      obtain ⟨after, rfl⟩ := opens
      rcases marked with mark | mark <;> simp [mark, Shape.opener_eq, firstLine]
    have longer : fence.Opens (firstLine (text ++ tail)) := by
      refine ⟨marked, long, indent, few, rest ++ firstLine tail, ?_,
        startsWithRun_append run stop⟩
      rw [firstLine_append member, ← List.append_assoc, ← line,
        firstLine_eq_self member]
    rw [Fence.opening?_dropIndent_iff.mpr longer] at closed
    cases closed

/-! ## Tags -/

theorem splitAtCloser?_of_append {shape : Shape} {text tail : List Char}
    (missing : splitAtCloser? shape.closer (text ++ tail) = none) :
    splitAtCloser? shape.closer text = none := by
  rw [Option.eq_none_iff_forall_not_mem]
  rintro ⟨content, rest⟩ found
  obtain ⟨rfl, single, absent⟩ := splitAtCloser?_eq_some_iff.mp found
  rw [List.append_assoc, List.append_assoc,
    splitAtCloser?_append single absent] at missing
  cases missing

/-- A closer in front of a cut is found in the shorter document too. -/
theorem exists_splitAtCloser?_of_append {shape : Shape}
    {text tail content rest : List Char}
    (split : splitAtCloser? shape.closer (text ++ tail) = some (content, rest))
    (inside : content.length + 3 ≤ text.length) :
    ∃ more, splitAtCloser? shape.closer text = some (content, more) ∧
      rest = more ++ tail ∧ text.length = content.length + 3 + more.length := by
  obtain ⟨cut, single, absent⟩ := splitAtCloser?_eq_some_iff.mp split
  have begins : content ++ shape.closer <+: text := by
    refine List.prefix_of_prefix_length_le ?_ (List.prefix_append text tail) ?_
    · exact ⟨rest, by rw [cut, List.append_assoc]⟩
    · rwa [List.length_append, shape.length_closer]
  obtain ⟨more, rfl⟩ := begins
  refine ⟨more, ?_, ?_, ?_⟩
  · rw [List.append_assoc]
    exact splitAtCloser?_append single absent more
  · simpa using cut.symm
  · rw [List.length_append, List.length_append, shape.length_closer]

theorem readBody_of_append {line : Int} {head : Head} {length : Nat}
    {text tail : List Char} {reading : Reading}
    (read : readBody line head length (text ++ tail) = .ok reading)
    (inside : reading.length ≤ length + text.length) :
    readBody line head length text = .ok reading := by
  obtain ⟨block, tag, rest, cut, endTag, absent, rfl⟩ :=
    readBody_eq_ok_iff.mp read
  have begins : block ++ tag <+: text := by
    refine List.prefix_of_prefix_length_le ?_ (List.prefix_append text tail) ?_
    · exact ⟨rest, by rw [cut, List.append_assoc]⟩
    · rw [List.length_append]
      exact Nat.le_of_add_le_add_left inside
  obtain ⟨more, rfl⟩ := begins
  exact readBody_eq_ok_iff.mpr
    ⟨block, tag, more, List.append_assoc _ _ _, endTag, absent, rfl⟩

/-- What is read in front of a cut is read in the shorter document too. -/
theorem readTag_of_append {shape : Shape} {line : Int} {text tail : List Char}
    {reading : Reading} (read : readTag shape line (text ++ tail) = .ok reading)
    (inside : reading.length ≤ text.length + 3) :
    readTag shape line text = .ok reading := by
  have shorter : ∀ {content rest : List Char},
      splitAtCloser? shape.closer (text ++ tail) = some (content, rest) →
      ∃ more, splitAtCloser? shape.closer text = some (content, more) ∧
        rest = more ++ tail ∧
        text.length = content.length + 3 + more.length := by
    intro content rest split
    have tag := length_tag_le_of_readTag read split
    exact exists_splitAtCloser?_of_append split (by omega)
  rw [readTag_eq_iff] at read ⊢
  cases read with
  | delimiter missing => exact .delimiter (splitAtCloser?_of_append missing)
  | strayEnd split ends =>
      obtain ⟨more, own, _⟩ := shorter split
      exact .strayEnd own ends
  | inline split reads =>
      obtain ⟨more, own, _⟩ := shorter split
      exact .inline own reads
  | body split notEnd reads found =>
      obtain ⟨more, own, rfl, counted⟩ := shorter split
      exact .body own notEnd reads (readBody_of_append found (by omega))

/-! ## Moves -/

theorem le_length_of_drop {text tail more : List Char} {count : Nat}
    (nonempty : tail ≠ []) (inside : (text ++ tail).drop count = more ++ tail) :
    count ≤ text.length := by
  have positive := List.length_pos_iff.mpr nonempty
  have counted := congrArg List.length inside
  simp only [List.length_drop, List.length_append] at counted
  omega

namespace Cursor

theorem skipFenced?_eq_none_iff {cursor : Cursor} :
    cursor.skipFenced? = none ↔
      cursor.fence = none ∧ Fence.opening? (dropIndent cursor.rest) = none := by
  cases open_ : cursor.fence <;> simp [skipFenced?, open_]

theorem Step.of_extend {cursor moved : Cursor} {shape : Shape}
    {tail more : List Char} (step : Step (cursor.extend tail) moved)
    (real : cursor.Fenced) (nonempty : cursor.rest ≠ [])
    (opens : shape.opener <+: tail) (inside : moved.rest = more ++ tail) :
    ∃ shorter, Step cursor shorter ∧ shorter.extend tail = moved := by
  have brace := head?_of_opener opens
  have tailNonempty : tail ≠ [] := by
    rintro rfl
    cases brace
  have one : 1 ≤ cursor.rest.length := List.length_pos_iff.mpr nonempty
  have long : (cursor.extend tail).rest = cursor.rest ++ tail := rfl
  have firstChar : ∀ char rest, (cursor.extend tail).rest = char :: rest →
      ∃ others, cursor.rest = char :: others := by
    intro char rest remaining
    obtain ⟨first, others, written⟩ := List.exists_cons_of_ne_nil nonempty
    rw [long, written] at remaining
    exact ⟨others, by rw [written, (List.cons.inj remaining).1]⟩
  cases step with
  | fenced _ fresh skipped =>
      have member : '\n' ∈ cursor.rest := by
        obtain ⟨fence, rfl, _⟩ := exists_eq_skipLine skipped
        exact lineEnd_mem_of_drop tailNonempty (by simp [brace]) inside
      rw [skipFenced?_extend real member] at skipped
      obtain ⟨shorter, shorterSkipped, same⟩ :=
        Option.map_eq_some_iff.mp skipped
      exact ⟨shorter, .fenced nonempty fresh shorterSkipped, same⟩
  | prose _ fresh skipped =>
      refine ⟨_, .prose nonempty fresh ?_, rfl⟩
      obtain ⟨unfenced, closed⟩ := skipFenced?_eq_none_iff.mp skipped
      exact skipFenced?_eq_none_iff.mpr
        ⟨unfenced, opening?_of_append opens closed⟩
  | lineEnd inLine remaining =>
      obtain ⟨others, written⟩ := firstChar _ _ remaining
      refine ⟨_, .lineEnd inLine written, ?_⟩
      rw [newLine, newLine, skip_extend tail one]
      rfl
  | code inLine remaining =>
      obtain ⟨others, written⟩ := firstChar _ _ remaining
      refine ⟨_, .code inLine written, ?_⟩
      obtain ⟨count, partner⟩ := exists_codeSpan_or_unclosedRun remaining
      rw [skipCode_eq_skip partner] at inside ⊢
      have short := le_length_of_drop tailNonempty inside
      have stop : tail.head? ≠ some '`' := by simp [brace]
      -- A span that ends in front of the delimiter keeps its partner, and a
      -- run that has none in the longer document has none here.
      have own : CodeSpan cursor.rest count ∨ UnclosedRun cursor.rest count := by
        rcases partner with span | unclosed
        · exact .inl (span.of_append stop short)
        · exact .inr (unclosed.of_append stop)
      rw [skipCode_eq_skip own, skip_extend tail short]
  | char inLine remaining notEnd notTick closed =>
      obtain ⟨others, written⟩ := firstChar _ _ remaining
      refine ⟨_, .char inLine written notEnd notTick ?_,
        (skip_extend tail one).symm⟩
      rw [Option.eq_none_iff_forall_not_mem] at closed ⊢
      intro other found
      refine closed other (openerAt?_eq_some_iff.mpr ?_)
      exact (openerAt?_eq_some_iff.mp found).trans (List.prefix_append _ _)

theorem Move.of_extend {cursor moved : Cursor} {shape : Shape}
    {tail more : List Char} {first : List Call}
    (move : Move (cursor.extend tail) first moved) (real : cursor.Fenced)
    (nonempty : cursor.rest ≠ []) (opens : shape.opener <+: tail)
    (inside : moved.rest = more ++ tail) :
    ∃ shorter, Move cursor first shorter ∧ shorter.extend tail = moved := by
  cases move with
  | search step =>
      obtain ⟨shorter, own, same⟩ := step.of_extend real nonempty opens inside
      exact ⟨shorter, .search own, same⟩
  | @read other reading inLine begins read =>
      have tailNonempty : tail ≠ [] := by
        rintro rfl
        cases head?_of_opener opens
      have short : reading.length ≤ cursor.rest.length :=
        le_length_of_drop tailNonempty inside
      have delimiter := three_le_length_of_readTag read
      have ownOpens : other.opener <+: cursor.rest := by
        refine List.prefix_of_prefix_length_le begins
          (List.prefix_append _ tail) ?_
        rw [other.length_opener]
        exact delimiter.trans short
      obtain ⟨after, written⟩ := ownOpens
      have behind : cursor.rest.drop 3 = after := by
        rw [← written, List.drop_left' other.length_opener]
      have longBehind : (cursor.extend tail).rest.drop 3 = after ++ tail := by
        rw [Cursor.extend, ← written, List.append_assoc,
          List.drop_left' other.length_opener]
      have counted : after.length + 3 = cursor.rest.length := by
        rw [← written, List.length_append, other.length_opener, Nat.add_comm]
      rw [longBehind] at read
      have own := readTag_of_append read (counted ▸ short)
      rw [← behind] at own
      exact ⟨_, .read inLine ⟨after, written⟩ own, (jump_extend tail short).symm⟩

end Cursor

end Shortcode
