import Shortcode.Proofs.Document.CodeSpan

/-!
# Segmentation of a document

`Segmentation` cuts a text, from left to right, into prose, code spans and
fenced regions, and gives every character its region.  It is stated over lines
and runs alone, without a cursor.  Every text has exactly one segmentation.
-/

namespace Shortcode

/-- What a character of a document belongs to. -/
inductive Region where
  | prose
  | code
  | fenced
deriving DecidableEq, Repr

/-- The lines behind the one that opened the fence, `count` characters, up to
and including the first that closes it, or to the end of the text. -/
inductive FencedTail (fence : Fence) : List Char → Nat → Prop where
  | unclosed : FencedTail fence [] 0
  | closing {text line : List Char} {length : Nat} :
      StartsWithLine text line length → fence.Closes line →
      FencedTail fence text length
  | inside {text line : List Char} {length count : Nat} :
      StartsWithLine text line length → ¬ fence.Closes line →
      FencedTail fence (text.drop length) count →
      FencedTail fence text (length + count)

/-- The first `count` characters are the line that opens a fence and the lines
that the fence covers. -/
def FencedRegion (text : List Char) (count : Nat) : Prop :=
  ∃ fence line length covered, StartsWithLine text line length ∧
    Fence.Opens fence line ∧ FencedTail fence (text.drop length) covered ∧
    count = length + covered

/-- The first line of the text opens a fence. -/
def OpensFence (text : List Char) : Prop :=
  ∃ fence line length, StartsWithLine text line length ∧
    Fence.Opens fence line

/-- The first piece of a text: its length, its region, and whether a line
starts behind it. -/
inductive Piece : (lineStart : Bool) → (text : List Char) →
    (count : Nat) → (region : Region) → (next : Bool) → Prop where
  | fenced {text : List Char} {count : Nat} :
      FencedRegion text count → Piece true text count .fenced true
  | code {lineStart : Bool} {text : List Char} {count : Nat} :
      (lineStart = true → ¬ OpensFence text) → CodeSpan text count →
      Piece lineStart text count .code false
  | run {lineStart : Bool} {text : List Char} {count : Nat} :
      (lineStart = true → ¬ OpensFence text) → UnclosedRun text count →
      Piece lineStart text count .prose false
  | char {lineStart : Bool} {char : Char} {rest : List Char} :
      (lineStart = true → ¬ OpensFence (char :: rest)) → char ≠ '`' →
      Piece lineStart (char :: rest) 1 .prose (char == '\n')

/-- The regions of the characters of a text, piece by piece. -/
inductive Segmentation :
    (lineStart : Bool) → (text : List Char) → List Region → Prop where
  | done {lineStart : Bool} : Segmentation lineStart [] []
  | piece {lineStart next : Bool} {text : List Char} {count : Nat}
      {region : Region} {regions : List Region} :
      Piece lineStart text count region next →
      Segmentation next (text.drop count) regions →
      Segmentation lineStart text (List.replicate count region ++ regions)

/-! ## One piece -/

theorem StartsWithLine.length_pos {text line : List Char} {length : Nat}
    (starts : StartsWithLine text line length) : 0 < length := by
  obtain ⟨_, ⟨_, nonempty, rfl⟩ | ⟨_, _, rfl⟩⟩ := starts
  · exact List.length_pos_iff.mpr nonempty
  · omega

theorem FencedTail.exists_count (fence : Fence) (text : List Char) :
    ∃ count, FencedTail fence text count := by
  by_cases ended : text = []
  · exact ⟨0, ended ▸ .unclosed⟩
  · have starts := startsWithLine_firstLine ended
    by_cases closes : fence.Closes (firstLine text)
    · exact ⟨_, .closing starts closes⟩
    · obtain ⟨count, tail⟩ :=
        FencedTail.exists_count fence (text.drop (lineLength text))
      exact ⟨_, .inside starts closes tail⟩
termination_by text.length
decreasing_by
  have positive := starts.length_pos
  have nonempty := List.length_pos_iff.mpr ended
  rw [List.length_drop]
  omega

theorem FencedTail.unique {fence : Fence} {text : List Char} {count other : Nat}
    (tail : FencedTail fence text count)
    (otherTail : FencedTail fence text other) : count = other := by
  induction tail generalizing other with
  | unclosed =>
      cases otherTail with
      | unclosed => rfl
      | closing starts => exact absurd rfl starts.ne_nil
      | inside starts => exact absurd rfl starts.ne_nil
  | closing starts closes =>
      cases otherTail with
      | unclosed => exact absurd rfl starts.ne_nil
      | closing otherStarts => rw [starts.length_eq, otherStarts.length_eq]
      | inside otherStarts open_ =>
          rw [starts.eq_firstLine, ← otherStarts.eq_firstLine] at closes
          exact absurd closes open_
  | inside starts open_ _ induction =>
      cases otherTail with
      | unclosed => exact absurd rfl starts.ne_nil
      | closing otherStarts closes =>
          rw [otherStarts.eq_firstLine, ← starts.eq_firstLine] at closes
          exact absurd closes open_
      | inside otherStarts _ otherTail =>
          obtain rfl := starts.length_eq
          obtain rfl := otherStarts.length_eq
          rw [induction otherTail]

theorem opening?_eq_some_of_startsWithLine {text line : List Char}
    {length : Nat} {fence : Fence} (starts : StartsWithLine text line length) :
    Fence.opening? (dropIndent text) = some fence ↔ fence.Opens line := by
  rw [starts.eq_firstLine]
  exact Fence.opening?_dropIndent_iff

theorem FencedRegion.unique {text : List Char} {count other : Nat}
    (region : FencedRegion text count) (otherRegion : FencedRegion text other) :
    count = other := by
  obtain ⟨fence, line, length, covered, starts, opens, tail, rfl⟩ := region
  obtain ⟨_, _, _, _, otherStarts, otherOpens, otherTail, rfl⟩ := otherRegion
  have found := (opening?_eq_some_of_startsWithLine starts).mpr opens
  have otherFound :=
    (opening?_eq_some_of_startsWithLine otherStarts).mpr otherOpens
  obtain rfl := Option.some.inj (found.symm.trans otherFound)
  obtain rfl := starts.length_eq
  obtain rfl := otherStarts.length_eq
  rw [tail.unique otherTail]

theorem FencedRegion.opensFence {text : List Char} {count : Nat}
    (region : FencedRegion text count) : OpensFence text := by
  obtain ⟨fence, line, length, _, starts, opens, _⟩ := region
  exact ⟨fence, line, length, starts, opens⟩

theorem OpensFence.exists_region {text : List Char} (opens : OpensFence text) :
    ∃ count, FencedRegion text count := by
  obtain ⟨fence, line, length, starts, opening⟩ := opens
  obtain ⟨covered, tail⟩ := FencedTail.exists_count fence (text.drop length)
  exact ⟨_, fence, line, length, covered, starts, opening, tail, rfl⟩

theorem StartsWithRun.exists_cons {mark : Char} {length : Nat}
    {text : List Char} (run : StartsWithRun mark length text)
    (positive : 0 < length) : ∃ rest, text = mark :: rest := by
  obtain ⟨rest, rfl, _⟩ := run
  obtain ⟨more, count⟩ := Nat.exists_eq_add_of_lt positive
  exact ⟨List.replicate more mark ++ rest, by simp [count, List.replicate_succ]⟩

theorem CodeSpan.exists_cons {text : List Char} {count : Nat}
    (span : CodeSpan text count) : ∃ rest, text = '`' :: rest := by
  obtain ⟨run, _, positive, starts, _⟩ := span
  exact starts.exists_cons positive

theorem UnclosedRun.exists_cons {text : List Char} {run : Nat}
    (unclosed : UnclosedRun text run) : ∃ rest, text = '`' :: rest :=
  unclosed.2.1.exists_cons unclosed.1

theorem Piece.count_pos {lineStart next : Bool} {text : List Char} {count : Nat}
    {region : Region} (piece : Piece lineStart text count region next) :
    0 < count := by
  cases piece with
  | fenced fencedRegion =>
      obtain ⟨_, _, length, covered, starts, _, _, rfl⟩ := fencedRegion
      have positive := starts.length_pos
      omega
  | code _ span =>
      obtain ⟨run, distance, positive, _, _, rfl⟩ := span
      omega
  | run _ unclosed => exact unclosed.1
  | char => exact Nat.one_pos

theorem Piece.ne_nil {lineStart next : Bool} {text : List Char} {count : Nat}
    {region : Region} (piece : Piece lineStart text count region next) :
    text ≠ [] := by
  cases piece with
  | fenced fencedRegion =>
      obtain ⟨_, _, _, _, starts, _⟩ := fencedRegion
      exact starts.ne_nil
  | code _ span =>
      obtain ⟨rest, rfl⟩ := span.exists_cons
      simp
  | run _ unclosed =>
      obtain ⟨rest, rfl⟩ := unclosed.exists_cons
      simp
  | char => simp

theorem Piece.exists_of_ne_nil (lineStart : Bool) {text : List Char}
    (nonempty : text ≠ []) :
    ∃ count region next, Piece lineStart text count region next := by
  by_cases opens : lineStart = true ∧ OpensFence text
  · obtain ⟨rfl, opens⟩ := opens
    obtain ⟨count, region⟩ := opens.exists_region
    exact ⟨count, _, _, .fenced region⟩
  · have plain : lineStart = true → ¬ OpensFence text := by
      intro fresh opening
      exact opens ⟨fresh, opening⟩
    obtain ⟨char, rest, rfl⟩ := List.exists_cons_of_ne_nil nonempty
    by_cases tick : char = '`'
    · subst tick
      cases spanned : codeSpan? ('`' :: rest) with
      | some count =>
          exact ⟨count, _, _, .code plain (codeSpan?_eq_some_iff.mp spanned)⟩
      | none =>
          exact ⟨_, _, _, .run plain (codeSpan?_eq_none_iff.mp ⟨spanned, rfl⟩)⟩
    · exact ⟨1, _, _, .char plain tick⟩

theorem Piece.unique {lineStart next otherNext : Bool} {text : List Char}
    {count other : Nat} {region otherRegion : Region}
    (piece : Piece lineStart text count region next)
    (otherPiece : Piece lineStart text other otherRegion otherNext) :
    count = other ∧ region = otherRegion ∧ next = otherNext := by
  cases piece with
  | fenced fencedRegion =>
      cases otherPiece with
      | fenced otherFenced => exact ⟨fencedRegion.unique otherFenced, rfl, rfl⟩
      | code plain => exact absurd fencedRegion.opensFence (plain rfl)
      | run plain => exact absurd fencedRegion.opensFence (plain rfl)
      | char plain => exact absurd fencedRegion.opensFence (plain rfl)
  | code plain span =>
      obtain ⟨rest, rfl⟩ := span.exists_cons
      have spanned := codeSpan?_eq_some_iff.mpr span
      cases otherPiece with
      | fenced otherFenced => exact absurd otherFenced.opensFence (plain rfl)
      | code _ otherSpan =>
          have otherSpanned := codeSpan?_eq_some_iff.mpr otherSpan
          exact ⟨Option.some.inj (spanned.symm.trans otherSpanned), rfl, rfl⟩
      | run _ unclosed =>
          have missing := (codeSpan?_eq_none_iff.mpr unclosed).1
          rw [spanned] at missing
          cases missing
      | char _ notTick => exact absurd rfl notTick
  | run plain unclosed =>
      obtain ⟨rest, rfl⟩ := unclosed.exists_cons
      have missing := codeSpan?_eq_none_iff.mpr unclosed
      cases otherPiece with
      | fenced otherFenced => exact absurd otherFenced.opensFence (plain rfl)
      | code _ otherSpan =>
          have otherSpanned := codeSpan?_eq_some_iff.mpr otherSpan
          rw [missing.1] at otherSpanned
          cases otherSpanned
      | run _ otherUnclosed =>
          have otherMissing := codeSpan?_eq_none_iff.mpr otherUnclosed
          exact ⟨missing.2.trans otherMissing.2.symm, rfl, rfl⟩
      | char _ notTick => exact absurd rfl notTick
  | char plain notTick =>
      cases otherPiece with
      | fenced otherFenced => exact absurd otherFenced.opensFence (plain rfl)
      | code _ otherSpan =>
          obtain ⟨rest, ticked⟩ := otherSpan.exists_cons
          exact absurd (List.cons.inj ticked).1 notTick
      | run _ otherUnclosed =>
          obtain ⟨rest, ticked⟩ := otherUnclosed.exists_cons
          exact absurd (List.cons.inj ticked).1 notTick
      | char => exact ⟨rfl, rfl, rfl⟩

/-! ## The whole text -/

namespace Segmentation

theorem exists_regions (lineStart : Bool) (text : List Char) :
    ∃ regions, Segmentation lineStart text regions := by
  by_cases ended : text = []
  · exact ⟨[], ended ▸ .done⟩
  · obtain ⟨count, region, next, piece⟩ :=
      Piece.exists_of_ne_nil lineStart ended
    obtain ⟨regions, others⟩ := Segmentation.exists_regions next (text.drop count)
    exact ⟨_, .piece piece others⟩
termination_by text.length
decreasing_by
  have positive := piece.count_pos
  have nonempty := List.length_pos_iff.mpr ended
  rw [List.length_drop]
  omega

theorem unique {lineStart : Bool} {text : List Char}
    {regions others : List Region}
    (segmentation : Segmentation lineStart text regions)
    (other : Segmentation lineStart text others) : regions = others := by
  induction segmentation generalizing others with
  | done =>
      cases other with
      | done => rfl
      | piece otherPiece => exact absurd rfl otherPiece.ne_nil
  | piece piece _ induction =>
      cases other with
      | done => exact absurd rfl piece.ne_nil
      | piece otherPiece otherRest =>
          obtain ⟨rfl, rfl, rfl⟩ := piece.unique otherPiece
          rw [induction otherRest]

end Segmentation

end Shortcode
