import Shortcode.Proofs.Document.Delimiters

/-!
# Fenced blocks as a structure of lines

`FencedBlocks` reads a text line by line and knows nothing of code spans.  It
agrees with the segmentation up to the first block whose opening line begins
inside a code span: the search passes over such a line and looks at what the
block holds as if it were prose.
-/

namespace Shortcode

/-- A fenced block: where its opening line begins, and where it is over. -/
structure FencedBlock where
  start : Nat
  stop : Nat
deriving DecidableEq, Repr

/-- The fenced blocks of a text that begins at `offset`, from its lines alone.
-/
inductive FencedBlocks : (offset : Nat) → (text : List Char) →
    List FencedBlock → Prop where
  | done {offset : Nat} : FencedBlocks offset [] []
  | outside {offset length : Nat} {text line : List Char}
      {blocks : List FencedBlock} :
      StartsWithLine text line length → ¬ OpensFence text →
      FencedBlocks (offset + length) (text.drop length) blocks →
      FencedBlocks offset text blocks
  | block {offset count : Nat} {text : List Char}
      {blocks : List FencedBlock} :
      FencedRegion text count →
      FencedBlocks (offset + count) (text.drop count) blocks →
      FencedBlocks offset text (⟨offset, offset + count⟩ :: blocks)

theorem FencedRegion.length_pos {text : List Char} {count : Nat}
    (region : FencedRegion text count) : 0 < count := by
  obtain ⟨_, _, length, covered, starts, _, _, rfl⟩ := region
  have positive := starts.length_pos
  omega

theorem FencedRegion.ne_nil {text : List Char} {count : Nat}
    (region : FencedRegion text count) : text ≠ [] := by
  obtain ⟨_, _, _, _, starts, _⟩ := region
  exact starts.ne_nil

namespace FencedBlocks

theorem exists_blocks (offset : Nat) (text : List Char) :
    ∃ blocks, FencedBlocks offset text blocks := by
  by_cases ended : text = []
  · exact ⟨[], ended ▸ .done⟩
  · have shorter : 0 < text.length := List.length_pos_iff.mpr ended
    by_cases opens : OpensFence text
    · obtain ⟨count, region⟩ := opens.exists_region
      have positive := region.length_pos
      obtain ⟨blocks, others⟩ :=
        exists_blocks (offset + count) (text.drop count)
      exact ⟨_, .block region others⟩
    · have starts := startsWithLine_firstLine ended
      have positive := starts.length_pos
      obtain ⟨blocks, others⟩ := exists_blocks (offset + lineLength text)
        (text.drop (lineLength text))
      exact ⟨blocks, .outside starts opens others⟩
termination_by text.length
decreasing_by
  · rw [List.length_drop]
    omega
  · rw [List.length_drop]
    omega

theorem unique {offset : Nat} {text : List Char}
    {blocks others : List FencedBlock}
    (found : FencedBlocks offset text blocks)
    (other : FencedBlocks offset text others) : blocks = others := by
  induction found generalizing others with
  | done =>
      cases other with
      | done => rfl
      | outside starts => exact absurd rfl starts.ne_nil
      | block region => exact absurd rfl region.ne_nil
  | outside starts closed _ induction =>
      cases other with
      | done => exact absurd rfl starts.ne_nil
      | outside otherStarts _ later =>
          obtain rfl := starts.length_eq
          obtain rfl := otherStarts.length_eq
          exact induction later
      | block region => exact absurd region.opensFence closed
  | block region _ induction =>
      cases other with
      | done => exact absurd rfl region.ne_nil
      | outside _ closed => exact absurd region.opensFence closed
      | block otherRegion later =>
          obtain rfl := region.unique otherRegion
          rw [induction later]

theorem le_start {offset : Nat} {text : List Char}
    {blocks : List FencedBlock} (found : FencedBlocks offset text blocks) :
    ∀ block ∈ blocks, offset ≤ block.start := by
  induction found with
  | done => simp
  | outside _ _ _ induction =>
      intro block member
      have behind := induction block member
      omega
  | block _ _ induction =>
      intro block member
      rcases List.mem_cons.mp member with rfl | later
      · exact Nat.le_refl _
      · have behind := induction block later
        omega

/-- Behind a line that opens no fence the blocks are those of what is left. -/
theorem behind_line {offset : Nat} {text : List Char}
    {blocks : List FencedBlock} (found : FencedBlocks offset text blocks)
    (closed : ¬ OpensFence text) :
    FencedBlocks (offset + lineLength text) (text.drop (lineLength text))
      blocks := by
  cases found with
  | done => exact .done
  | outside starts _ later =>
      obtain rfl := starts.length_eq
      exact later
  | block region => exact absurd region.opensFence closed

theorem exists_start_of_opensFence {offset : Nat} {text : List Char}
    {blocks : List FencedBlock} (found : FencedBlocks offset text blocks)
    (opens : OpensFence text) : ∃ block ∈ blocks, block.start = offset := by
  cases found with
  | done =>
      obtain ⟨_, _, _, starts, _⟩ := opens
      exact absurd rfl starts.ne_nil
  | outside _ closed => exact absurd opens closed
  | block => exact ⟨_, List.mem_cons_self, rfl⟩

theorem exists_cons_of_fencedRegion {offset count : Nat} {text : List Char}
    {blocks : List FencedBlock} (found : FencedBlocks offset text blocks)
    (region : FencedRegion text count) :
    ∃ others, blocks = ⟨offset, offset + count⟩ :: others ∧
      FencedBlocks (offset + count) (text.drop count) others := by
  cases found with
  | done => exact absurd rfl region.ne_nil
  | outside _ closed => exact absurd region.opensFence closed
  | block otherRegion later =>
      obtain rfl := region.unique otherRegion
      exact ⟨_, rfl, later⟩

end FencedBlocks

/-! ## Blocks and pieces -/

theorem lineLength_cons (char : Char) (rest : List Char) :
    lineLength (char :: rest) =
      if char = '\n' then 1 else lineLength rest + 1 := by
  by_cases lineEnd : char = '\n'
  · simp [lineLength, firstLine, lineEnd]
  · have line : firstLine (char :: rest) = char :: firstLine rest := by
      simp [firstLine, lineEnd]
    by_cases ended : (firstLine rest).length < rest.length
    · simp [lineLength, line, lineEnd, ended]
    · simp [lineLength, line, lineEnd, ended]

/-- The blocks of what is left, for a reader outside of any block.  Within a
line the next line is the first that can open one. -/
def BlocksAhead (lineStart : Bool) (offset : Nat) (text : List Char)
    (blocks : List FencedBlock) : Prop :=
  if lineStart then FencedBlocks offset text blocks
  else FencedBlocks (offset + lineLength text) (text.drop (lineLength text))
    blocks

namespace BlocksAhead

theorem within {lineStart : Bool} {offset : Nat} {text : List Char}
    {blocks : List FencedBlock}
    (ahead : BlocksAhead lineStart offset text blocks)
    (plain : lineStart = true → ¬ OpensFence text) :
    BlocksAhead false offset text blocks := by
  cases lineStart with
  | false => exact ahead
  | true => exact FencedBlocks.behind_line ahead (plain rfl)

theorem le_start {lineStart : Bool} {offset : Nat} {text : List Char}
    {blocks : List FencedBlock}
    (ahead : BlocksAhead lineStart offset text blocks) :
    ∀ block ∈ blocks, offset ≤ block.start := by
  intro block member
  cases lineStart with
  | false =>
      have later := FencedBlocks.le_start ahead block member
      omega
  | true => exact FencedBlocks.le_start ahead block member

theorem char {lineStart : Bool} {offset : Nat} {char : Char}
    {rest : List Char} {blocks : List FencedBlock}
    (ahead : BlocksAhead lineStart offset (char :: rest) blocks)
    (plain : lineStart = true → ¬ OpensFence (char :: rest)) :
    BlocksAhead (char == '\n') (offset + 1) rest blocks := by
  have inLine := ahead.within plain
  simp only [BlocksAhead, Bool.false_eq_true, if_false, lineLength_cons]
    at inLine
  by_cases lineEnd : char = '\n'
  · simpa [BlocksAhead, lineEnd] using inLine
  · rw [if_neg lineEnd, List.drop_succ_cons, Nat.add_comm (lineLength rest),
      ← Nat.add_assoc] at inLine
    simpa [BlocksAhead, lineEnd] using inLine

theorem nil {lineStart : Bool} {offset : Nat} {blocks : List FencedBlock}
    (ahead : BlocksAhead lineStart offset [] blocks) : blocks = [] := by
  have found := ahead.within fun _ opens => by
    obtain ⟨_, _, _, starts, _⟩ := opens
    exact starts.ne_nil rfl
  exact FencedBlocks.unique found .done

theorem inLine {offset : Nat} {passed rest : List Char}
    {blocks : List FencedBlock} (single : '\n' ∉ passed)
    (ahead : BlocksAhead false offset (passed ++ rest) blocks) :
    BlocksAhead false (offset + passed.length) rest blocks := by
  induction passed generalizing offset with
  | nil => exact ahead
  | cons char passed induction =>
      obtain ⟨notEnd, others⟩ := not_or.mp (mt List.mem_cons.mpr single)
      have next := ahead.char (by simp)
      have same : (char == '\n') = false := by simpa using Ne.symm notEnd
      rw [same] at next
      have behind := induction others next
      rwa [Nat.add_right_comm, Nat.add_assoc] at behind

/-- A block that opens where a reader passes is the next one. -/
theorem exists_next {lineStart : Bool} {offset : Nat} {text : List Char}
    {blocks : List FencedBlock}
    (ahead : BlocksAhead lineStart offset text blocks)
    (opens : lineStart = true ∧ OpensFence text) :
    ∃ block ∈ blocks, block.start = offset ∧
      ∀ other ∈ blocks, block.start ≤ other.start := by
  obtain ⟨rfl, opens⟩ := opens
  obtain ⟨block, member, start⟩ :=
    FencedBlocks.exists_start_of_opensFence ahead opens
  refine ⟨block, member, start, ?_⟩
  intro other otherMember
  rw [start]
  exact ahead.le_start other otherMember

/-- A reader that passes some characters without a look at the starts of lines
may pass the opening line of the next block; otherwise nothing ahead of it has
changed. -/
theorem append {lineStart : Bool} {offset : Nat} {passed rest : List Char}
    {last : Char} {blocks : List FencedBlock}
    (ahead : BlocksAhead lineStart offset (passed ++ last :: rest) blocks) :
    (∃ block ∈ blocks, offset ≤ block.start ∧
        block.start < offset + (passed.length + 1) ∧
        ∀ other ∈ blocks, block.start ≤ other.start) ∨
      BlocksAhead (last == '\n') (offset + (passed.length + 1)) rest blocks := by
  induction passed generalizing lineStart offset with
  | nil =>
      by_cases opens : lineStart = true ∧ OpensFence (last :: rest)
      · obtain ⟨block, member, rfl, least⟩ := ahead.exists_next opens
        exact .inl ⟨block, member, Nat.le_refl _, by simp, least⟩
      · exact .inr (ahead.char fun fresh opening => opens ⟨fresh, opening⟩)
  | cons char passed induction =>
      by_cases opens :
          lineStart = true ∧ OpensFence (char :: (passed ++ last :: rest))
      · obtain ⟨block, member, rfl, least⟩ := ahead.exists_next opens
        exact .inl ⟨block, member, Nat.le_refl _, by simp, least⟩
      · have later := ahead.char fun fresh opening => opens ⟨fresh, opening⟩
        have length : offset + ((char :: passed).length + 1) =
            offset + 1 + (passed.length + 1) := by
          rw [List.length_cons]
          omega
        rw [length]
        rcases induction later with ⟨block, member, low, high, least⟩ | behind
        · exact .inl ⟨block, member, by omega, high, least⟩
        · exact .inr behind

/-- A piece of prose opens no block. -/
theorem prose {lineStart next : Bool} {offset count : Nat} {text : List Char}
    {blocks : List FencedBlock}
    (ahead : BlocksAhead lineStart offset text blocks)
    (piece : Piece lineStart text count .prose next) :
    BlocksAhead next (offset + count) (text.drop count) blocks := by
  cases piece with
  | run plain unclosed =>
      obtain ⟨_, ⟨rest, rfl, _⟩, _⟩ := unclosed
      have single : '\n' ∉ List.replicate count '`' := by
        simp [List.mem_replicate]
      have behind := (ahead.within plain).inLine single
      rw [List.length_replicate] at behind
      rwa [List.drop_left' List.length_replicate]
  | char plain => exact ahead.char plain

end BlocksAhead

/-- Up to the first block that begins inside a code span, the fenced regions of
the segmentation are the blocks. -/
theorem region_of_block {lineStart : Bool} {text : List Char}
    {regions : List Region}
    (segmentation : Segmentation lineStart text regions)
    {passed : List Region} {blocks : List FencedBlock}
    (ahead : BlocksAhead lineStart passed.length text blocks) :
    ∀ block ∈ blocks,
      (∃ earlier ∈ blocks, earlier.start ≤ block.start ∧
        (passed ++ regions)[earlier.start]? = some .code) ∨
      ∀ place, block.start ≤ place → place < block.stop →
        (passed ++ regions)[place]? = some .fenced := by
  induction segmentation generalizing passed blocks with
  | done =>
      rw [ahead.nil]
      simp
  | @piece lineStart next text count region regions piece rest induction =>
      have length : (passed ++ List.replicate count region).length =
          passed.length + count := by
        rw [List.length_append, List.length_replicate]
      rw [← List.append_assoc]
      cases region with
      | prose =>
          have behind := ahead.prose piece
          rw [← length] at behind
          exact induction behind
      | code =>
          cases piece with
          | code plain span =>
              obtain ⟨inner, tail, rfl, rfl⟩ := span.exists_append
              have dropped : (inner ++ '`' :: tail).drop (inner.length + 1) =
                  tail := by
                rw [← List.drop_drop, List.drop_left, List.drop_succ_cons,
                  List.drop_zero]
              -- The span ends within a line, so only a line that it passes can
              -- open a block that the segmentation does not see.
              rcases ahead.append with ⟨hidden, member, low, high, least⟩ | behind
              · intro block blockMember
                refine .inl ⟨hidden, member, least block blockMember, ?_⟩
                rw [List.getElem?_append_left (by omega),
                  List.getElem?_append_right low]
                exact List.getElem?_replicate_of_lt (by omega)
              · rw [← length, ← dropped] at behind
                exact induction behind
      | fenced =>
          cases piece with
          | fenced fencedRegion =>
              obtain ⟨others, rfl, later⟩ :=
                FencedBlocks.exists_cons_of_fencedRegion ahead fencedRegion
              rw [← length] at later
              intro block member
              rcases List.mem_cons.mp member with rfl | behind
              · right
                intro place low high
                dsimp only at low high
                rw [List.getElem?_append_left (by omega),
                  List.getElem?_append_right low]
                exact List.getElem?_replicate_of_lt (by omega)
              · rcases induction later block behind with
                  ⟨earlier, earlierMember, before, inCode⟩ | inFence
                · exact .inl ⟨earlier, List.mem_cons_of_mem _ earlierMember,
                    before, inCode⟩
                · exact .inr inFence

/-- A delimiter that is found on a line of a fenced block stands behind the
opening line of a block, this one or an earlier one, that begins inside a code
span. -/
theorem block_starts_in_code_of_delimiter_in_block (text : List Char) :
    ∃ regions blocks, (∀ other, Segmentation true text other ↔ other = regions) ∧
      (∀ other, FencedBlocks 0 text other ↔ other = blocks) ∧
      ∀ delimiter ∈ (Cursor.ofText text).delimiters.1, ∀ block ∈ blocks,
        block.start ≤ delimiter.start → delimiter.start < block.stop →
          ∃ earlier ∈ blocks, earlier.start ≤ block.start ∧
            regions[earlier.start]? = some .code := by
  obtain ⟨regions, segmentation⟩ := Segmentation.exists_regions true text
  obtain ⟨blocks, found⟩ := FencedBlocks.exists_blocks 0 text
  refine ⟨regions, blocks, ?_, ?_, ?_⟩
  · intro other
    constructor
    · exact fun otherSegmentation => otherSegmentation.unique segmentation
    · rintro rfl
      exact segmentation
  · intro other
    constructor
    · exact fun otherFound => otherFound.unique found
    · rintro rfl
      exact found
  · intro delimiter delimiterMember block member low high
    have inProse : regions[delimiter.start]? = some .prose := by
      have openers : (Cursor.ofText text).delimiters.1 =
          proseOpeners [] text regions :=
        delimiters_eq_proseOpeners segmentation rfl rfl rfl rfl
      rw [openers] at delimiterMember
      obtain ⟨offset, place, prose, _⟩ :=
        mem_proseOpeners_iff.mp delimiterMember
      have start : delimiter.start = offset := by simpa using place
      rwa [start]
    have ahead : BlocksAhead true ([] : List Region).length text blocks := found
    rcases region_of_block segmentation ahead block member with
      hidden | inFence
    · exact hidden
    · have fenced := inFence delimiter.start low high
      rw [List.nil_append, inProse] at fenced
      cases fenced

/-- A backtick in prose whose partner stands inside the fenced block behind it.
-/
def spanIntoBlock : List Char :=
  "a `\n```\n`\x7b\x7b< b() >\x7d\x7d\n```\n".toList

/-- The line of the span, which opens no fence, and then the block. -/
theorem fencedBlocks_spanIntoBlock :
    FencedBlocks 0 spanIntoBlock [⟨4, 25⟩] := by
  have prose : StartsWithLine spanIntoBlock ['a', ' ', '`'] 4 :=
    ⟨by decide, .inr ⟨_, rfl, rfl⟩⟩
  have closed : ¬ OpensFence spanIntoBlock := by
    rintro ⟨fence, line, length, starts, opens⟩
    have found := (opening?_eq_some_of_startsWithLine starts).mpr opens
    have missing : Fence.opening? (dropIndent spanIntoBlock) = none := by
      decide +kernel
    rw [missing] at found
    cases found
  have opening : StartsWithLine (spanIntoBlock.drop 4) ['`', '`', '`'] 4 :=
    ⟨by decide, .inr ⟨_, rfl, rfl⟩⟩
  have opens : Fence.Opens ⟨'`', 3⟩ ['`', '`', '`'] := by
    apply (opening?_eq_some_of_startsWithLine opening).mp
    decide +kernel
  have inner : StartsWithLine (spanIntoBlock.drop 8)
      "`\x7b\x7b< b() >\x7d\x7d".toList 13 :=
    ⟨by decide, .inr ⟨_, rfl, rfl⟩⟩
  have inside : ¬ Fence.Closes ⟨'`', 3⟩ "`\x7b\x7b< b() >\x7d\x7d".toList := by
    rw [inner.eq_firstLine,
      ← Fence.closedBy_dropIndent_iff (.inl rfl) (Nat.le_refl 3)]
    decide +kernel
  have closing : StartsWithLine (spanIntoBlock.drop 21) ['`', '`', '`'] 4 :=
    ⟨by decide, .inr ⟨_, rfl, rfl⟩⟩
  have closes : Fence.Closes ⟨'`', 3⟩ ['`', '`', '`'] :=
    ⟨0, by decide, 3, Nat.le_refl 3, [], rfl, by simp⟩
  have tail : FencedTail ⟨'`', 3⟩ (spanIntoBlock.drop 8) (13 + 4) :=
    .inside inner inside (.closing closing closes)
  exact .outside prose closed
    (.block ⟨_, _, 4, 17, opening, opens, tail, rfl⟩ .done)

/-- A delimiter can be found on a line of a fenced block. -/
theorem not_delimiters_outside_blocks :
    ¬ ∀ text blocks, FencedBlocks 0 text blocks →
      ∀ delimiter ∈ (Cursor.ofText text).delimiters.1, ∀ block ∈ blocks,
        ¬ (block.start ≤ delimiter.start ∧ delimiter.start < block.stop) := by
  intro outside
  have found : (Cursor.ofText spanIntoBlock).delimiters.1 = [⟨.inline, 9, 3⟩] := by
    decide +kernel
  refine outside spanIntoBlock _ fencedBlocks_spanIntoBlock ⟨.inline, 9, 3⟩ ?_
    ⟨4, 25⟩ List.mem_cons_self ⟨by decide, by decide⟩
  rw [found]
  exact List.mem_cons_self

end Shortcode
