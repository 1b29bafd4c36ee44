import Shortcode.Document.CodeSpan
import Shortcode.Proofs.Document.Fence
import Shortcode.Proofs.Text.Search

/-!
# Which run closes a code span

`RunAt` says where a run of exactly some length stands.  The search for a
closing run, which counts runs from left to right, finds the least such place.
`RunFrom` says the same by the offsets of the document in which the search
starts.
-/

namespace Shortcode

/-- A run of exactly `length` characters `mark` stands at the offset. -/
def RunAt (mark : Char) (length : Nat) (text : List Char) (offset : Nat) :
    Prop :=
  (text.take offset).getLast? ≠ some mark ∧
    StartsWithRun mark length (text.drop offset)

namespace RunAt

variable {mark : Char} {length : Nat}

theorem zero_iff {text : List Char} :
    RunAt mark length text 0 ↔ StartsWithRun mark length text := by
  simp [RunAt]

theorem cons_succ_iff {char : Char} {rest : List Char} {offset : Nat}
    (different : char ≠ mark) :
    RunAt mark length (char :: rest) (offset + 1) ↔
      RunAt mark length rest offset := by
  have last : ((char :: rest).take (offset + 1)).getLast? ≠ some mark ↔
      (rest.take offset).getLast? ≠ some mark := by
    rw [List.take_succ_cons, List.getLast?_cons]
    cases (rest.take offset).getLast? <;> simp [different]
  simp only [RunAt, last, List.drop_succ_cons]

theorem not_of_inside {run offset : Nat} {rest : List Char}
    (positive : 0 < offset) (inside : offset ≤ run) :
    ¬ RunAt mark length (List.replicate run mark ++ rest) offset := by
  rintro ⟨bounded, _⟩
  apply bounded
  have taken : (List.replicate run mark ++ rest).take offset =
      List.replicate offset mark := by
    rw [List.take_append_of_le_length (by simpa using inside),
      List.take_replicate, Nat.min_eq_left inside]
  rw [taken, List.getLast?_replicate, if_neg (Nat.ne_of_gt positive)]

theorem behind_iff {run offset : Nat} {rest : List Char}
    (positive : 0 < length) (stop : rest.head? ≠ some mark) :
    RunAt mark length (List.replicate run mark ++ rest) (run + offset) ↔
      RunAt mark length rest offset := by
  have dropped : (List.replicate run mark ++ rest).drop (run + offset) =
      rest.drop offset := by
    rw [← List.drop_drop, List.drop_left' (by simp)]
  by_cases shifted : rest.take offset = []
  · have started : ¬ StartsWithRun mark length (rest.drop offset) := by
      intro run
      obtain ⟨more, count⟩ := Nat.exists_eq_add_of_lt positive
      obtain ⟨after, written, _⟩ := run
      have whole : rest = rest.drop offset := by
        simpa [shifted] using (List.take_append_drop offset rest).symm
      apply stop
      rw [whole, written, count]
      simp [List.replicate_succ]
    simp [RunAt, dropped, started]
  · have taken : (List.replicate run mark ++ rest).take (run + offset) =
        List.replicate run mark ++ rest.take offset := by
      simp [List.take_append, List.take_of_length_le]
    obtain ⟨last, ends⟩ := Option.ne_none_iff_exists'.mp
      (mt List.getLast?_eq_none_iff.mp shifted)
    rw [RunAt, RunAt, dropped, taken, List.getLast?_append, ends,
      Option.some_or]

end RunAt

theorem not_startsWithRun {mark char : Char} {length : Nat} {rest : List Char}
    (positive : 0 < length) (different : char ≠ mark) :
    ¬ StartsWithRun mark length (char :: rest) := by
  intro run
  have counted := run.runLength_eq
  simp [runLength, different] at counted
  omega

/-- A run of another length is no place to stop, and neither is its inside. -/
theorem not_runAt_of_lt {mark : Char} {length run offset : Nat}
    {rest : List Char} (stop : rest.head? ≠ some mark) (other : run ≠ length)
    (inside : offset < run) :
    ¬ RunAt mark length (List.replicate run mark ++ rest) offset := by
  cases offset with
  | zero =>
      rw [RunAt.zero_iff]
      intro starts
      have whole : StartsWithRun mark run (List.replicate run mark ++ rest) :=
        ⟨rest, rfl, stop⟩
      exact other (whole.runLength_eq.symm.trans starts.runLength_eq)
  | succ offset =>
      exact RunAt.not_of_inside (Nat.succ_pos offset) (Nat.le_of_lt inside)

/-- The run at the start of a text, and what the search goes on with. -/
theorem cons_eq_run_append (mark : Char) (rest : List Char) :
    mark :: rest = List.replicate (runLength mark rest + 1) mark ++
        rest.drop (runLength mark rest) ∧
      (rest.drop (runLength mark rest)).head? ≠ some mark := by
  obtain ⟨after, run, stop⟩ := startsWithRun_runLength mark rest
  have dropped : rest.drop (runLength mark rest) = after := by
    refine (congrArg (List.drop _) run).trans ?_
    simp
  rw [dropped, List.replicate_succ, List.cons_append, ← run]
  exact ⟨rfl, stop⟩

theorem closingRun?_isFirst {length : Nat} (positive : 0 < length)
    (text : List Char) :
    Text.IsFirst (RunAt '`' length text) (closingRun? length text) := by
  fun_induction closingRun? length text with
  | case1 =>
      intro offset
      rintro ⟨_, starts⟩
      have counted := starts.runLength_eq
      simp [runLength] at counted
      omega
  | case2 char rest tick run same =>
      have ticked : char = '`' := by simpa using tick
      have counted : run = length := by simpa using same
      obtain ⟨written, stop⟩ := cons_eq_run_append '`' rest
      refine Text.IsFirst.zero (RunAt.zero_iff.mpr ?_)
      rw [ticked, written, ← counted]
      exact ⟨_, rfl, stop⟩
  | case3 char rest tick run different induction =>
      have ticked : char = '`' := by simpa using tick
      have other : run ≠ length := by simpa using different
      obtain ⟨written, stop⟩ := cons_eq_run_append '`' rest
      rw [ticked, written]
      -- The search goes on behind the whole run, not behind its first tick.
      refine Text.IsFirst.map_add ?_ ?_ induction
      · intro offset inside
        exact not_runAt_of_lt stop other inside
      · intro offset
        exact RunAt.behind_iff positive stop
  | case4 char rest tick induction =>
      have different : char ≠ '`' := by simpa using tick
      refine Text.IsFirst.map_add ?_ ?_ induction
      · intro offset before
        have start : offset = 0 := by omega
        rw [start, RunAt.zero_iff]
        exact not_startsWithRun positive different
      · intro offset
        rw [Nat.add_comm]
        exact RunAt.cons_succ_iff different

/-- The first `count` characters are a run of backticks with everything
through the next run of exactly the same length. -/
def CodeSpan (text : List Char) (count : Nat) : Prop :=
  ∃ run distance, 0 < run ∧ StartsWithRun '`' run text ∧
    IsLeast {offset | RunAt '`' run (text.drop run) offset} distance ∧
    count = run + distance + run

/-- The first `run` characters are a run of backticks that no other run of
exactly this length follows. -/
def UnclosedRun (text : List Char) (run : Nat) : Prop :=
  0 < run ∧ StartsWithRun '`' run text ∧
    ∀ offset, ¬ RunAt '`' run (text.drop run) offset

/-- A code span ends with the last backtick of its closing run. -/
theorem CodeSpan.exists_append {text : List Char} {count : Nat}
    (span : CodeSpan text count) :
    ∃ inner rest, text = inner ++ '`' :: rest ∧ count = inner.length + 1 := by
  obtain ⟨run, distance, positive, _, ⟨⟨_, closes⟩, _⟩, rfl⟩ := span
  rw [List.drop_drop] at closes
  have inside := (closes.offset_lt positive).le
  obtain ⟨after, closing, _⟩ := closes
  obtain ⟨more, rfl⟩ := Nat.exists_eq_add_of_lt positive
  rw [Nat.zero_add] at closing inside ⊢
  rw [List.replicate_succ'] at closing
  refine ⟨text.take (more + 1 + distance) ++ List.replicate more '`', after,
    ?_, ?_⟩
  · have cut := List.take_append_drop (more + 1 + distance) text
    rw [closing] at cut
    simpa using cut.symm
  · rw [List.length_append, List.length_take, Nat.min_eq_left inside,
      List.length_replicate]
    omega

theorem codeSpan?_eq_some_iff {rest : List Char} {count : Nat} :
    codeSpan? ('`' :: rest) = some count ↔ CodeSpan ('`' :: rest) count := by
  have positive : 0 < runLength '`' ('`' :: rest) := by simp [runLength]
  have first := closingRun?_isFirst positive
    (('`' :: rest).drop (runLength '`' ('`' :: rest)))
  simp only [codeSpan?, Option.map_eq_some_iff]
  constructor
  · rintro ⟨distance, found, rfl⟩
    exact ⟨_, distance, positive, startsWithRun_runLength _ _,
      first.eq_some_iff.mp found, rfl⟩
  · rintro ⟨run, distance, _, starts, least, rfl⟩
    obtain rfl := starts.runLength_eq
    exact ⟨distance, first.eq_some_iff.mpr least, rfl⟩

theorem codeSpan?_eq_none_iff {rest : List Char} {run : Nat} :
    codeSpan? ('`' :: rest) = none ∧ run = runLength '`' ('`' :: rest) ↔
      UnclosedRun ('`' :: rest) run := by
  have positive : 0 < runLength '`' ('`' :: rest) := by simp [runLength]
  have first := closingRun?_isFirst positive
    (('`' :: rest).drop (runLength '`' ('`' :: rest)))
  simp only [codeSpan?, Option.map_eq_none_iff]
  constructor
  · rintro ⟨missing, rfl⟩
    exact ⟨positive, startsWithRun_runLength _ _, first.eq_none_iff.mp missing⟩
  · rintro ⟨_, starts, absent⟩
    obtain rfl := starts.runLength_eq
    exact ⟨first.eq_none_iff.mpr absent, rfl⟩

theorem exists_unclosedRun_iff {text : List Char} :
    (∃ run, UnclosedRun text run) ↔
      text.head? = some '`' ∧ codeSpan? text = none := by
  cases text with
  | nil =>
      constructor
      · rintro ⟨run, positive, starts, _⟩
        have counted := starts.runLength_eq
        simp [runLength] at counted
        omega
      · simp
  | cons char rest =>
      by_cases tick : char = '`'
      · subst tick
        simp [← codeSpan?_eq_none_iff]
      · constructor
        · rintro ⟨run, positive, starts, _⟩
          exact absurd starts (not_startsWithRun positive tick)
        · simp [tick]

theorem not_unclosedRun {text : List Char}
    (closed : text.head? = some '`' → codeSpan? text ≠ none) (run : Nat) :
    ¬ UnclosedRun text run := by
  intro unclosed
  obtain ⟨tick, missing⟩ := exists_unclosedRun_iff.mp ⟨run, unclosed⟩
  exact closed tick missing

/-! ## Counted from an offset -/

/-- A run of exactly `length` characters `mark` stands at an offset of the text,
for a reader that starts at `start` and does not look at what stands before. -/
structure RunFrom (mark : Char) (length : Nat) (text : List Char)
    (start offset : Nat) : Prop where
  behind : start ≤ offset
  fresh : offset = start ∨ text[offset - 1]? ≠ some mark
  marks : (text.drop offset).take length = List.replicate length mark
  stop : text[offset + length]? ≠ some mark

theorem getLast?_take_drop_ne_iff {mark : Char} {text : List Char}
    {start distance : Nat} (inside : start + distance ≤ text.length) :
    ((text.drop start).take distance).getLast? ≠ some mark ↔
      start + distance = start ∨ text[start + distance - 1]? ≠ some mark := by
  cases distance with
  | zero => simp
  | succ distance =>
      have here : start + distance < text.length := inside
      have last : ((text.drop start).take (distance + 1)).getLast? =
          text[start + distance]? := by
        rw [List.getLast?_take, if_neg (Nat.succ_ne_zero distance),
          Nat.add_sub_cancel, List.getElem?_drop,
          List.getElem?_eq_getElem here, Option.some_or]
      have moved : start + (distance + 1) ≠ start := by omega
      rw [last, or_iff_right moved]
      rfl

theorem runFrom_add_iff {mark : Char} {length start distance : Nat}
    {text : List Char} (positive : 0 < length) :
    RunFrom mark length text start (start + distance) ↔
      RunAt mark length (text.drop start) distance := by
  have run : StartsWithRun mark length (text.drop (start + distance)) ↔
      (text.drop (start + distance)).take length =
          List.replicate length mark ∧
        text[start + distance + length]? ≠ some mark := by
    rw [startsWithRun_iff_take_eq, List.getElem?_drop]
  constructor
  · rintro ⟨-, fresh, marks, stop⟩
    have starts := run.mpr ⟨marks, stop⟩
    have inside := (starts.offset_lt positive).le
    rw [← List.drop_drop] at starts
    exact ⟨(getLast?_take_drop_ne_iff inside).mpr fresh, starts⟩
  · rintro ⟨fresh, starts⟩
    rw [List.drop_drop] at starts
    have inside := (starts.offset_lt positive).le
    obtain ⟨marks, stop⟩ := run.mp starts
    exact ⟨Nat.le_add_right start distance,
      (getLast?_take_drop_ne_iff inside).mp fresh, marks, stop⟩

/-- From any offset on, the search for a closing run finds the least offset at
which a run of exactly that length stands, and nothing only if there is none: it
stops neither inside of a longer run nor behind one that fits.  A run that goes
on from before the offset is counted from there. -/
theorem closingRun?_leftmost_from {length : Nat} (positive : 0 < length)
    (text : List Char) (start : Nat) :
    (∀ offset,
      (closingRun? length (text.drop start)).map (· + start) = some offset ↔
        IsLeast {offset | RunFrom '`' length text start offset} offset) ∧
    (closingRun? length (text.drop start) = none ↔
      ∀ offset, ¬ RunFrom '`' length text start offset) := by
  have first : Text.IsFirst (RunFrom '`' length text start)
      ((closingRun? length (text.drop start)).map (· + start)) := by
    refine Text.IsFirst.map_add ?_ ?_ (closingRun?_isFirst positive _)
    · intro offset before run
      exact Nat.not_le_of_lt before run.behind
    · intro distance
      exact runFrom_add_iff positive
  constructor
  · intro offset
    exact first.eq_some_iff
  · rw [← first.eq_none_iff, Option.map_eq_none_iff]

/-- Runs of two, three, two and one backticks. -/
def unevenRuns : List Char := "``a```b``c`".toList

/-- The search starts inside of a run, is met by runs of other lengths on the
way, or finds none that fits. -/
theorem closingRun?_leftmost_from_unevenRuns :
    IsLeast {offset | RunFrom '`' 1 unevenRuns 1 offset} 1 ∧
    IsLeast {offset | RunFrom '`' 2 unevenRuns 1 offset} 7 ∧
    IsLeast {offset | RunFrom '`' 2 unevenRuns 4 offset} 4 ∧
    ∀ offset, ¬ RunFrom '`' 4 unevenRuns 0 offset := by
  have found :
      (closingRun? 1 (unevenRuns.drop 1)).map (· + 1) = some 1 ∧
      (closingRun? 2 (unevenRuns.drop 1)).map (· + 1) = some 7 ∧
      (closingRun? 2 (unevenRuns.drop 4)).map (· + 4) = some 4 ∧
      closingRun? 4 (unevenRuns.drop 0) = none := by
    decide +kernel
  obtain ⟨atOnce, later, inside, missing⟩ := found
  obtain ⟨ones, -⟩ := closingRun?_leftmost_from Nat.one_pos unevenRuns 1
  obtain ⟨twos, -⟩ := closingRun?_leftmost_from Nat.two_pos unevenRuns 1
  obtain ⟨inner, -⟩ := closingRun?_leftmost_from Nat.two_pos unevenRuns 4
  obtain ⟨-, fours⟩ :=
    closingRun?_leftmost_from (show 0 < 4 by decide) unevenRuns 0
  exact ⟨(ones 1).mp atOnce, (twos 7).mp later, (inner 4).mp inside,
    fours.mp missing⟩

end Shortcode
