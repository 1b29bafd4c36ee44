import Shortcode.Document.Fence
import Shortcode.Proofs.Text.Search

/-!
# Which lines open and close a fence

`Fence.Opens` and `Fence.Closes` say of one line what the look-ahead over the
rest of the document decides.  Both looks agree, since neither an indentation
nor a run of marks reaches past a line end.
-/

namespace Shortcode

/-- The text starts with a run of exactly `length` characters `mark`. -/
def StartsWithRun (mark : Char) (length : Nat) (text : List Char) : Prop :=
  ∃ rest, text = List.replicate length mark ++ rest ∧ rest.head? ≠ some mark

theorem startsWithRun_runLength (mark : Char) (text : List Char) :
    StartsWithRun mark (runLength mark text) text := by
  obtain ⟨run, rest, rfl, inside, stops⟩ :=
    Text.exists_stretch (· == mark) text
  have repeated : run = List.replicate run.length mark := by
    refine List.eq_replicate_iff.mpr ⟨rfl, ?_⟩
    intro char member
    simpa using inside char member
  refine ⟨rest, ?_, ?_⟩
  · rw [runLength, Text.takeWhile_append_of_stops inside stops, ← repeated]
  · intro continued
    have stopped := stops mark continued
    simp at stopped

theorem StartsWithRun.runLength_eq {mark : Char} {length : Nat}
    {text : List Char} (run : StartsWithRun mark length text) :
    runLength mark text = length := by
  obtain ⟨rest, rfl, stop⟩ := run
  have marks : ∀ char ∈ List.replicate length mark, (char == mark) = true := by
    intro char member
    simpa using List.eq_of_mem_replicate member
  have stops : ∀ char ∈ rest.head?, (char == mark) = false := by
    intro char first
    rw [beq_eq_false_iff_ne]
    rintro rfl
    exact stop first
  rw [runLength, Text.takeWhile_append_of_stops marks stops,
    List.length_replicate]

theorem runLength_eq_iff {mark : Char} {length : Nat} {text : List Char} :
    runLength mark text = length ↔ StartsWithRun mark length text := by
  constructor
  · rintro rfl
    exact startsWithRun_runLength mark text
  · exact StartsWithRun.runLength_eq

/-- The run as a slice of the text and the character behind it. -/
theorem startsWithRun_iff_take_eq {mark : Char} {length : Nat}
    {text : List Char} :
    StartsWithRun mark length text ↔
      text.take length = List.replicate length mark ∧
        text[length]? ≠ some mark := by
  constructor
  · rintro ⟨rest, rfl, stop⟩
    refine ⟨List.take_left' (by simp), ?_⟩
    rw [List.getElem?_append_right (by simp), List.length_replicate,
      Nat.sub_self, ← List.head?_eq_getElem?]
    exact stop
  · rintro ⟨marks, stop⟩
    refine ⟨text.drop length, ?_, ?_⟩
    · rw [← marks, List.take_append_drop]
    · rwa [List.head?_drop]

theorem StartsWithRun.length_le {mark : Char} {length : Nat} {text : List Char}
    (run : StartsWithRun mark length text) : length ≤ text.length := by
  obtain ⟨rest, rfl, _⟩ := run
  simp

theorem StartsWithRun.offset_lt {mark : Char} {length offset : Nat}
    {text : List Char} (positive : 0 < length)
    (run : StartsWithRun mark length (text.drop offset)) :
    offset < text.length := by
  have fits := run.length_le
  rw [List.length_drop] at fits
  omega

theorem startsWithRun_append {mark : Char} {length : Nat}
    {text tail : List Char} (run : StartsWithRun mark length text)
    (stop : tail.head? ≠ some mark) :
    StartsWithRun mark length (text ++ tail) := by
  obtain ⟨rest, rfl, restStop⟩ := run
  refine ⟨rest ++ tail, by simp, ?_⟩
  cases rest with
  | nil => simpa using stop
  | cons char rest => simpa using restStop

theorem exists_dropIndent (text : List Char) :
    ∃ indent ≤ 3, text = List.replicate indent ' ' ++ dropIndent text := by
  unfold dropIndent
  split
  · exact ⟨3, by decide, rfl⟩
  · exact ⟨2, by decide, rfl⟩
  · exact ⟨1, by decide, rfl⟩
  · exact ⟨0, by decide, rfl⟩

theorem dropIndent_append {indent : Nat} {rest : List Char} (few : indent ≤ 3)
    (stop : rest.head? ≠ some ' ') :
    dropIndent (List.replicate indent ' ' ++ rest) = rest := by
  have visible : ∀ char tail, rest = char :: tail → char ≠ ' ' := by
    rintro char tail rfl
    simpa using stop
  match indent, few with
  | 0, _ | 1, _ | 2, _ | 3, _ =>
      cases rest with
      | nil => rfl
      | cons char tail =>
          have different := visible char tail rfl
          simp [dropIndent, List.replicate, different]

/-! ## Lines -/

/-- The text starts with a line; `length` counts its line end, if it has one.
-/
structure StartsWithLine (text line : List Char) (length : Nat) : Prop where
  single : '\n' ∉ line
  cut : (text = line ∧ line ≠ [] ∧ length = line.length) ∨
    ∃ rest, text = line ++ '\n' :: rest ∧ length = line.length + 1

theorem lineEnd_notMem_firstLine (text : List Char) :
    '\n' ∉ firstLine text := by
  intro member
  have inside := List.mem_takeWhile_imp member
  simp at inside

theorem firstLine_append {before : List Char} (single : '\n' ∉ before)
    (after : List Char) :
    firstLine (before ++ after) = before ++ firstLine after := by
  refine List.takeWhile_append_of_pos ?_
  intro char member
  have different : char ≠ '\n' := fun same => single (same ▸ member)
  simpa using different

theorem firstLine_eq_self {line : List Char} (single : '\n' ∉ line) :
    firstLine line = line := by
  simpa [firstLine] using firstLine_append single []

@[simp] theorem firstLine_lineEnd (rest : List Char) :
    firstLine ('\n' :: rest) = [] := rfl

theorem firstLine_prefix (text : List Char) : firstLine text <+: text :=
  List.takeWhile_prefix _

/-- What follows the first line is nothing or begins with its line end. -/
theorem exists_firstLine (text : List Char) :
    ∃ tail, text = firstLine text ++ tail ∧
      (tail = [] ∨ ∃ rest, tail = '\n' :: rest) := by
  obtain ⟨line, tail, rfl, inside, stops⟩ :=
    Text.exists_stretch (· != '\n') text
  refine ⟨tail, ?_, ?_⟩
  · rw [firstLine, Text.takeWhile_append_of_stops inside stops]
  · cases tail with
    | nil => exact .inl rfl
    | cons char rest =>
        have lineEnd : char = '\n' := by simpa using stops char rfl
        exact .inr ⟨rest, by rw [lineEnd]⟩

theorem startsWithLine_firstLine {text : List Char} (nonempty : text ≠ []) :
    StartsWithLine text (firstLine text) (lineLength text) := by
  refine ⟨lineEnd_notMem_firstLine text, ?_⟩
  obtain ⟨tail, cut, rfl | ⟨rest, rfl⟩⟩ := exists_firstLine text
  · have whole : firstLine text = text := by simpa using cut.symm
    have filled : firstLine text ≠ [] := by rwa [whole]
    exact .inl ⟨whole.symm, filled, by simp [lineLength, whole]⟩
  · refine .inr ⟨rest, cut, ?_⟩
    have longer := congrArg List.length cut
    simp only [List.length_append, List.length_cons] at longer
    have shorter : (firstLine text).length < text.length := by omega
    simp [lineLength, shorter]

theorem StartsWithLine.eq_firstLine {text line : List Char} {length : Nat}
    (starts : StartsWithLine text line length) : line = firstLine text := by
  obtain ⟨single, ⟨rfl, _, _⟩ | ⟨rest, rfl, _⟩⟩ := starts
  · exact (firstLine_eq_self single).symm
  · simpa using (firstLine_append single ('\n' :: rest)).symm

theorem StartsWithLine.length_eq {text line : List Char} {length : Nat}
    (starts : StartsWithLine text line length) : length = lineLength text := by
  have first := starts.eq_firstLine
  obtain ⟨single, ⟨rfl, _, rfl⟩ | ⟨rest, rfl, rfl⟩⟩ := starts
  · simp [lineLength, ← first]
  · simp [lineLength, ← first]

theorem StartsWithLine.ne_nil {text line : List Char} {length : Nat}
    (starts : StartsWithLine text line length) : text ≠ [] := by
  obtain ⟨_, ⟨rfl, nonempty, _⟩ | ⟨rest, rfl, _⟩⟩ := starts
  · exact nonempty
  · simp

/-- The first line behind spaces and a run of marks. -/
theorem firstLine_indented {mark : Char} (inLine : mark ≠ '\n')
    (indent run : Nat) (rest : List Char) :
    firstLine (List.replicate indent ' ' ++
      (List.replicate run mark ++ rest)) =
    List.replicate indent ' ' ++
      (List.replicate run mark ++ firstLine rest) := by
  have noSpaceEnd : '\n' ∉ List.replicate indent ' ' := by
    simp [List.mem_replicate]
  have noMarkEnd : '\n' ∉ List.replicate run mark := by
    simp [List.mem_replicate, Ne.symm inLine]
  rw [firstLine_append noSpaceEnd, firstLine_append noMarkEnd]

/-- Taking the indentation off the text takes it off its first line. -/
theorem exists_dropIndent_append {text rest : List Char} {indent : Nat}
    (few : indent ≤ 3)
    (line : firstLine text = List.replicate indent ' ' ++ rest)
    (visible : ∃ mark ≠ ' ', rest.head? = some mark) :
    ∃ tail, dropIndent text = rest ++ tail ∧
      (tail = [] ∨ ∃ more, tail = '\n' :: more) := by
  obtain ⟨tail, cut, tailStart⟩ := exists_firstLine text
  obtain ⟨mark, notSpace, starts⟩ := visible
  have stop : (rest ++ tail).head? ≠ some ' ' := by
    simp [List.head?_append, starts, notSpace]
  refine ⟨tail, ?_, tailStart⟩
  rw [cut, line, List.append_assoc]
  exact dropIndent_append few stop

namespace Fence

/-! ## Opening and closing lines -/

/-- The line, after at most three spaces, starts with the run that opens the
fence. -/
def Opens (fence : Fence) (line : List Char) : Prop :=
  (fence.mark = '`' ∨ fence.mark = '~') ∧ 3 ≤ fence.length ∧
    ∃ indent ≤ 3, ∃ rest, line = List.replicate indent ' ' ++ rest ∧
      StartsWithRun fence.mark fence.length rest

/-- The line is, after at most three spaces, a run at least as long as the one
that opened the fence, and then only spaces, tabs and carriage returns. -/
def Closes (fence : Fence) (line : List Char) : Prop :=
  ∃ indent ≤ 3, ∃ run ≥ fence.length, ∃ filler,
    line = List.replicate indent ' ' ++
      (List.replicate run fence.mark ++ filler) ∧
    ∀ char ∈ filler, char = ' ' ∨ char = '\t' ∨ char = '\r'

theorem opening?_eq_some_iff {text : List Char} {fence : Fence} :
    opening? text = some fence ↔
      (fence.mark = '`' ∨ fence.mark = '~') ∧ 3 ≤ fence.length ∧
        StartsWithRun fence.mark fence.length text := by
  rw [← runLength_eq_iff]
  cases text with
  | nil =>
      simp only [opening?, reduceCtorEq, false_iff, not_and]
      intro _ long run
      have empty : fence.length = 0 := run.symm
      omega
  | cons mark rest =>
      rw [opening?]
      constructor
      · intro opened
        split at opened
        · rename_i accepted
          cases opened
          simpa [isMark] using accepted
        · cases opened
      · rintro ⟨marked, long, run⟩
        have same : mark = fence.mark := by
          by_contra different
          have none : runLength fence.mark (mark :: rest) = 0 := by
            simp [runLength, different]
          omega
        subst same
        have accepted : isMark fence.mark = true := by simpa [isMark] using marked
        simp [accepted, run, long]

/-- The mark of a fence stands neither in an indentation nor at a line end. -/
private theorem mark_visible {mark : Char} (marked : mark = '`' ∨ mark = '~') :
    mark ≠ ' ' ∧ mark ≠ '\n' ∧ mark ≠ '\t' ∧ mark ≠ '\r' := by
  rcases marked with rfl | rfl <;> decide

theorem opening?_dropIndent_iff {text : List Char} {fence : Fence} :
    opening? (dropIndent text) = some fence ↔ fence.Opens (firstLine text) := by
  rw [opening?_eq_some_iff]
  constructor
  · rintro ⟨marked, long, rest, run, stop⟩
    obtain ⟨_, inLine, _⟩ := mark_visible marked
    obtain ⟨indent, few, indented⟩ := exists_dropIndent text
    refine ⟨marked, long, indent, few,
      List.replicate fence.length fence.mark ++ firstLine rest, ?_,
      firstLine rest, rfl, ?_⟩
    · rw [indented, run, firstLine_indented inLine]
    · obtain ⟨tail, tailCut⟩ := firstLine_prefix rest
      intro continued
      apply stop
      rw [← tailCut, List.head?_append, continued, Option.some_or]
  · rintro ⟨marked, long, indent, few, rest, line, run⟩
    obtain ⟨notSpace, inLine, _⟩ := mark_visible marked
    have starts : rest.head? = some fence.mark := by
      obtain ⟨after, rfl, _⟩ := run
      obtain ⟨more, count⟩ := Nat.exists_eq_add_of_le' long
      simp [count, List.replicate_succ]
    obtain ⟨tail, unindented, tailStart⟩ :=
      exists_dropIndent_append few line ⟨_, notSpace, starts⟩
    refine ⟨marked, long, ?_⟩
    rw [unindented]
    refine startsWithRun_append run ?_
    rcases tailStart with rfl | ⟨_, rfl⟩
    · simp
    · simpa using Ne.symm inLine

theorem isFiller_iff {char : Char} :
    isFiller char = true ↔ char = ' ' ∨ char = '\t' ∨ char = '\r' := by
  simp [isFiller, or_assoc]

theorem closedBy_dropIndent_iff {text : List Char} {fence : Fence}
    (marked : fence.mark = '`' ∨ fence.mark = '~') (long : 3 ≤ fence.length) :
    fence.closedBy (dropIndent text) = true ↔
      fence.Closes (firstLine text) := by
  obtain ⟨notSpace, inLine, notTab, notReturn⟩ := mark_visible marked
  simp only [closedBy, Bool.and_eq_true, decide_eq_true_eq, List.all_eq_true]
  constructor
  · rintro ⟨⟨_, enough⟩, filled⟩
    obtain ⟨indent, few, indented⟩ := exists_dropIndent text
    obtain ⟨rest, run, _⟩ :=
      startsWithRun_runLength fence.mark (dropIndent text)
    have dropped : (dropIndent text).drop
        (runLength fence.mark (dropIndent text)) = rest := by
      refine (congrArg (List.drop _) run).trans ?_
      simp
    rw [dropped] at filled
    refine ⟨indent, few, _, enough, firstLine rest, ?_, ?_⟩
    · rw [← firstLine_indented inLine, ← run, ← indented]
    · intro char member
      exact isFiller_iff.mp (filled char member)
  · rintro ⟨indent, few, run, enough, filler, line, filled⟩
    have starts : (List.replicate run fence.mark ++ filler).head? =
        some fence.mark := by
      obtain ⟨more, count⟩ := Nat.exists_eq_add_of_le' (long.trans enough)
      simp [count, List.replicate_succ]
    obtain ⟨tail, unindented, tailStart⟩ :=
      exists_dropIndent_append few line ⟨_, notSpace, starts⟩
    have stop : (filler ++ tail).head? ≠ some fence.mark := by
      cases filler with
      | nil =>
          rcases tailStart with rfl | ⟨_, rfl⟩
          · simp
          · simpa using Ne.symm inLine
      | cons char filler =>
          have different : char ≠ fence.mark := by
            rcases filled char (by simp) with rfl | rfl | rfl
            · exact Ne.symm notSpace
            · exact Ne.symm notTab
            · exact Ne.symm notReturn
          simpa using different
    have counted : runLength fence.mark (dropIndent text) = run := by
      rw [runLength_eq_iff]
      exact ⟨filler ++ tail, by simp [unindented], stop⟩
    have noFillerEnd : '\n' ∉ filler := by
      intro member
      simpa using filled '\n' member
    have fillerLine : firstLine (filler ++ tail) = filler := by
      rcases tailStart with rfl | ⟨more, rfl⟩
      · simpa using firstLine_eq_self noFillerEnd
      · simpa using firstLine_append noFillerEnd ('\n' :: more)
    rw [counted]
    refine ⟨⟨by omega, enough⟩, ?_⟩
    rw [unindented, List.append_assoc, List.drop_left' (by simp), fillerLine]
    intro char member
    exact isFiller_iff.mpr (filled char member)

end Fence

end Shortcode
