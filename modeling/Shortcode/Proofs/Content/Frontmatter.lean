import Shortcode.Proofs.Content
import Shortcode.Proofs.Yaml.BlankLoad

/-!
# The lines between the fences

The frontmatter of a text is what stands between its first line and the next
fence, and the body starts at the first line behind that fence that is not
blank.  It takes a line between the fences to tell them apart: the blanks
behind the first fence may hold the line end that the second one needs.
-/

namespace Shortcode.Frontmatter

/-! ## Lines -/

/-- Lines, each with its line end. -/
def written (lines : List (List Char)) : List Char :=
  lines.flatMap (· ++ ['\n'])

/-- Lines, with line ends between them. -/
def block (lines : List (List Char)) : List Char :=
  ['\n'].intercalate lines

@[simp] theorem written_nil : written [] = [] := rfl

@[simp] theorem written_cons (line : List Char) (lines : List (List Char)) :
    written (line :: lines) = line ++ '\n' :: written lines := by
  simp [written]

@[simp] theorem written_append (lines more : List (List Char)) :
    written (lines ++ more) = written lines ++ written more :=
  List.flatMap_append

theorem block_cons (line : List Char) (lines : List (List Char)) :
    block (line :: lines) = line ++ lines.flatMap ('\n' :: ·) := by
  induction lines generalizing line with
  | nil => simp [block]
  | cons next lines induction =>
      unfold block at induction ⊢
      simp [induction]

theorem block_append (lead lines : List (List Char)) (line : List Char) :
    block (lead ++ line :: lines) = written lead ++ block (line :: lines) := by
  induction lead with
  | nil => rfl
  | cons first lead induction =>
      cases lead with
      | nil => simp [block]
      | cons second lead => simpa [block] using induction

theorem line_eq_of_append {line other rest more : List Char}
    (inner : '\n' ∉ line) (innerOther : '\n' ∉ other)
    (same : line ++ '\n' :: rest = other ++ '\n' :: more) :
    line = other := by
  induction line generalizing other with
  | nil =>
      cases other with
      | nil => rfl
      | cons char other =>
          cases same
          simp at innerOther
  | cons char line induction =>
      cases other with
      | nil =>
          cases same
          simp at inner
      | cons first other =>
          obtain ⟨rfl, behind⟩ := List.cons.inj same
          rw [List.mem_cons, not_or] at inner innerOther
          rw [induction inner.2 innerOther.2 behind]

/-- A line of blanks. -/
structure IsBlankLine (line : List Char) : Prop where
  blank : Text.AllBlank line
  inner : '\n' ∉ line

/-- The first line of a text, one that a line end ends, is blank. -/
def StartsBlank (text : List Char) : Prop :=
  ∃ line rest, IsBlankLine line ∧ text = line ++ '\n' :: rest

/-- A line that is a fence; blanks may stand behind it. -/
def IsFence (line : List Char) : Prop :=
  ∃ blank, IsBlankLine blank ∧ line = fence ++ blank

theorem isBlankLine_spaces (count : Nat) :
    IsBlankLine (List.replicate count ' ') := by
  constructor
  · intro char member
    rw [List.eq_of_mem_replicate member]
    rfl
  · intro member
    cases List.eq_of_mem_replicate member

theorem isFence_of_spaces (count : Nat) :
    IsFence (fence ++ List.replicate count ' ') :=
  ⟨_, isBlankLine_spaces count, rfl⟩

/-- A line of a text, one that a line end ends, is a fence. -/
def HasFence (text : List Char) : Prop :=
  ∃ before closing rest, IsFence closing ∧
    '\n' :: text = before ++ '\n' :: (closing ++ '\n' :: rest)

theorem IsFence.inner {line : List Char} (closes : IsFence line) :
    '\n' ∉ line := by
  obtain ⟨blank, blankLine, rfl⟩ := closes
  have inner := blankLine.inner
  simp [fence, inner]

theorem IsFence.not_allBlank {line : List Char} (closes : IsFence line) :
    ¬ Text.AllBlank line := by
  obtain ⟨blank, blankLine, rfl⟩ := closes
  intro allBlank
  have hyphen := allBlank '-' (by simp [fence])
  revert hyphen
  decide

/-! ## Blank lines -/

theorem afterLineEnds_eq_nil_iff {text : List Char} :
    afterLineEnds text = [] ↔ ¬ StartsBlank text := by
  unfold StartsBlank
  fun_induction afterLineEnds text with
  | case1 => simp
  | case2 char text visible =>
      simp only [true_iff]
      rintro ⟨line, rest, blankLine, same⟩
      cases line with
      | nil =>
          cases same
          revert visible
          decide
      | cons first line =>
          cases same
          have blank := blankLine.blank char List.mem_cons_self
          simp [blank] at visible
  | case3 char text blank lineEnd induction =>
      obtain rfl := beq_iff_eq.mp lineEnd
      refine iff_of_false (by simp) (not_not_intro ⟨[], text, ?_, rfl⟩)
      exact ⟨Text.allBlank_nil, List.not_mem_nil⟩
  | case4 char text blank inLine induction =>
      have notEnd : char ≠ '\n' := by simpa using inLine
      rw [induction, not_iff_not]
      constructor
      · rintro ⟨line, rest, ⟨allBlank, inner⟩, rfl⟩
        refine ⟨char :: line, rest, ⟨?_, ?_⟩, rfl⟩
        · rintro other (_ | ⟨_, member⟩)
          · simpa using blank
          · exact allBlank other member
        · simp [notEnd.symm, inner]
      · rintro ⟨line, rest, ⟨allBlank, inner⟩, same⟩
        cases line with
        | nil => exact absurd (List.cons.inj same).1 notEnd
        | cons first line =>
            cases same
            exact ⟨line, rest, ⟨fun other member =>
              allBlank other (List.mem_cons_of_mem _ member),
              fun member => inner (List.mem_cons_of_mem _ member)⟩, rfl⟩

theorem afterLineEnds_of_not_allBlank {line : List Char} (inner : '\n' ∉ line)
    (visible : ¬ Text.AllBlank line) (rest : List Char) :
    afterLineEnds (line ++ '\n' :: rest) = [] := by
  rw [afterLineEnds_eq_nil_iff]
  rintro ⟨blank, more, blankLine, same⟩
  obtain rfl := line_eq_of_append inner blankLine.inner same
  exact visible blankLine.blank

theorem afterLineEnds_of_isBlankLine {line : List Char}
    (blankLine : IsBlankLine line) (rest : List Char) :
    afterLineEnds (line ++ '\n' :: rest) = afterLineEnds rest ++ [rest] := by
  obtain ⟨allBlank, inner⟩ := blankLine
  induction line with
  | nil => rfl
  | cons char line induction =>
      rw [List.mem_cons, not_or] at inner
      have blank := allBlank char List.mem_cons_self
      have inLine : (char == '\n') = false := by simpa using Ne.symm inner.1
      rw [List.cons_append, afterLineEnds, blank, inLine]
      exact induction (fun other member =>
        allBlank other (List.mem_cons_of_mem _ member)) inner.2

/-- What stands behind all blank lines comes first, what stands behind `lines`
later. -/
theorem exists_afterLineEnds_written {line : List Char}
    {lines : List (List Char)}
    (blank : ∀ other ∈ line :: lines, IsBlankLine other) (rest : List Char) :
    ∃ more, afterLineEnds (written (line :: lines) ++ rest) =
      afterLineEnds rest ++ rest :: more := by
  induction lines generalizing line with
  | nil =>
      refine ⟨[], ?_⟩
      have here := afterLineEnds_of_isBlankLine
        (blank line List.mem_cons_self) rest
      simpa using here
  | cons next lines induction =>
      obtain ⟨more, further⟩ := induction fun other member =>
        blank other (List.mem_cons_of_mem _ member)
      have here := afterLineEnds_of_isBlankLine
        (blank line List.mem_cons_self) (written (next :: lines) ++ rest)
      refine ⟨more ++ [written (next :: lines) ++ rest], ?_⟩
      rw [written_cons, List.append_assoc, List.cons_append, here, further]
      simp

/-! ## Fences -/

theorem afterFence_of_isFence {line : List Char} (isFence : IsFence line)
    (rest : List Char) :
    afterFence (line ++ '\n' :: rest) = afterLineEnds rest ++ [rest] := by
  obtain ⟨blank, blankLine, rfl⟩ := isFence
  rw [afterFence, List.append_assoc, Text.dropLead?_append]
  exact afterLineEnds_of_isBlankLine blankLine rest

theorem exists_afterFence_written {opening : List Char}
    {lines : List (List Char)} (opens : IsFence opening)
    (blank : ∀ line ∈ lines, IsBlankLine line) (rest : List Char) :
    ∃ more, afterFence (written (opening :: lines) ++ rest) =
      afterLineEnds rest ++ rest :: more := by
  obtain ⟨behind, blankLine, rfl⟩ := opens
  have shape : written ((fence ++ behind) :: lines) ++ rest =
      fence ++ (written (behind :: lines) ++ rest) := by simp
  rw [shape, afterFence, Text.dropLead?_append]
  apply exists_afterLineEnds_written
  rintro line (_ | ⟨_, member⟩)
  · exact blankLine
  · exact blank line member

theorem afterFence_eq_nil_iff {text : List Char} :
    afterFence text = [] ↔
      ¬ ∃ line rest, IsFence line ∧ text = line ++ '\n' :: rest := by
  unfold afterFence
  split
  · rename_i after lead
    rw [Text.dropLead?_eq_some_iff.mp lead, afterLineEnds_eq_nil_iff,
      not_iff_not, StartsBlank]
    constructor
    · rintro ⟨blank, rest, blankLine, rfl⟩
      exact ⟨fence ++ blank, rest, ⟨blank, blankLine, rfl⟩, by simp⟩
    · rintro ⟨line, rest, ⟨blank, blankLine, rfl⟩, same⟩
      rw [List.append_assoc, List.append_cancel_left_eq] at same
      exact ⟨blank, rest, blankLine, same⟩
  · rename_i noLead
    refine iff_of_true rfl ?_
    rintro ⟨line, rest, ⟨blank, blankLine, rfl⟩, rfl⟩
    apply Text.dropLead?_eq_none_iff.mp noLead
    exact ⟨blank ++ '\n' :: rest, by simp⟩

theorem afterFence_of_not_isFence {line : List Char} (inner : '\n' ∉ line)
    (notFence : ¬ IsFence line) (rest : List Char) :
    afterFence (line ++ '\n' :: rest) = [] := by
  rw [afterFence_eq_nil_iff]
  rintro ⟨closing, more, closes, same⟩
  obtain rfl := line_eq_of_append inner closes.inner same
  exact notFence closes

/-- The search goes on behind a line. -/
theorem splitAtFence?_append {line : List Char} (inner : '\n' ∉ line)
    (rest : List Char) :
    splitAtFence? (line ++ rest) =
      (splitAtFence? rest).map fun (before, body) => (line ++ before, body) := by
  induction line with
  | nil => simp
  | cons char line induction =>
      rw [List.mem_cons, not_or] at inner
      have inLine : (char == '\n') = false := by simpa using Ne.symm inner.1
      rw [List.cons_append, splitAtFence?, inLine]
      simp only [Bool.false_eq_true, if_false, induction inner.2,
        Option.map_map]
      rfl

/-- The search passes over lines that are no fences. -/
theorem splitAtFence?_written {lines : List (List Char)}
    (open_ : ∀ line ∈ lines, '\n' ∉ line ∧ ¬ IsFence line) (rest : List Char) :
    splitAtFence? ('\n' :: (written lines ++ rest)) =
      (splitAtFence? ('\n' :: rest)).map fun (before, body) =>
        (lines.flatMap ('\n' :: ·) ++ before, body) := by
  induction lines with
  | nil => simp
  | cons line lines induction =>
      obtain ⟨inner, notFence⟩ := open_ line List.mem_cons_self
      have further := induction fun other member =>
        open_ other (List.mem_cons_of_mem _ member)
      rw [written_cons, List.append_assoc, List.cons_append, splitAtFence?,
        afterFence_of_not_isFence inner notFence, splitAtFence?_append inner,
        further]
      simp only [List.head?_nil, ite_self, Option.map_map]
      congr 1
      funext ⟨before, body⟩
      simp

theorem splitAtFence?_eq_none_iff {text : List Char} :
    splitAtFence? text = none ↔
      ¬ ∃ before closing rest, IsFence closing ∧
        text = before ++ '\n' :: (closing ++ '\n' :: rest) := by
  fun_induction splitAtFence? text with
  | case1 => simp
  | case2 char text body found =>
      refine iff_of_false (by simp) (not_not_intro ?_)
      split at found
      · rename_i lineEnd
        obtain rfl := beq_iff_eq.mp lineEnd
        have fenced : afterFence text ≠ [] := by
          rintro empty
          simp [empty] at found
        rw [Ne, afterFence_eq_nil_iff, not_not] at fenced
        obtain ⟨closing, rest, closes, rfl⟩ := fenced
        exact ⟨[], closing, rest, closes, rfl⟩
      · cases found
  | case3 char text notHere induction =>
      rw [Option.map_eq_none_iff, induction, not_iff_not]
      constructor
      · rintro ⟨before, closing, rest, closes, rfl⟩
        exact ⟨char :: before, closing, rest, closes, rfl⟩
      · rintro ⟨before, closing, rest, closes, same⟩
        cases before with
        | nil =>
            cases same
            have fenced : afterFence (closing ++ '\n' :: rest) ≠ [] := by
              rw [Ne, afterFence_eq_nil_iff, not_not]
              exact ⟨closing, rest, closes, rfl⟩
            simp [fenced] at notHere
        | cons first before =>
            cases same
            exact ⟨before, closing, rest, closes, rfl⟩

theorem splitAtFence?_lineEnd_eq_none_iff {text : List Char} :
    splitAtFence? ('\n' :: text) = none ↔ ¬ HasFence text :=
  splitAtFence?_eq_none_iff

/-! ## The block and the body -/

/-- A text with frontmatter: a fence, the lines up to the next fence, that
fence, blank lines and the body. -/
structure Fenced (lines blank : List (List Char)) (body text : List Char) :
    Prop where
  fences : ∃ opening closing, IsFence opening ∧ IsFence closing ∧
    text = written (opening :: lines) ++
      (closing ++ '\n' :: (written blank ++ body))
  lines : ∀ line ∈ lines, '\n' ∉ line ∧ ¬ IsFence line
  blank : ∀ line ∈ blank, IsBlankLine line
  body : ¬ StartsBlank body

theorem splitAtFence?_of_body {closing body : List Char}
    {blank : List (List Char)} (closes : IsFence closing)
    (blankLines : ∀ line ∈ blank, IsBlankLine line)
    (start : ¬ StartsBlank body) :
    splitAtFence? ('\n' :: (closing ++ '\n' :: (written blank ++ body))) =
      some ([], body) := by
  obtain ⟨more, found⟩ := exists_afterFence_written closes blankLines body
  rw [afterLineEnds_eq_nil_iff.mpr start, written_cons, List.append_assoc,
    List.cons_append] at found
  simp [splitAtFence?, found]

/-- A search that starts at the second fence goes on behind it. -/
theorem splitAtFence?_of_isFence {closing : List Char}
    {blank : List (List Char)} (closes : IsFence closing)
    (blankLines : ∀ line ∈ blank, IsBlankLine line) (body : List Char) :
    splitAtFence? (closing ++ '\n' :: (written blank ++ body)) =
      (splitAtFence? ('\n' :: body)).map fun (before, after) =>
        (closing ++ (blank.flatMap ('\n' :: ·) ++ before), after) := by
  have open_ (line : List Char) (member : line ∈ blank) :
      '\n' ∉ line ∧ ¬ IsFence line :=
    ⟨(blankLines line member).inner,
      fun isFence => isFence.not_allBlank (blankLines line member).blank⟩
  rw [splitAtFence?_append closes.inner, splitAtFence?_written open_,
    Option.map_map]
  rfl

theorem exists_blank_lines (text : List Char) :
    ∃ blank body, text = written blank ++ body ∧
      (∀ line ∈ blank, IsBlankLine line) ∧ ¬ StartsBlank body := by
  induction size : text.length using Nat.strong_induction_on
    generalizing text with
  | h count induction =>
      by_cases start : StartsBlank text
      · obtain ⟨line, rest, blankLine, rfl⟩ := start
        have shorter : rest.length < count := by
          simp only [List.length_append, List.length_cons] at size
          omega
        obtain ⟨blank, body, rfl, blankLines, bare⟩ :=
          induction rest.length shorter rest rfl
        refine ⟨line :: blank, body, by simp, ?_, bare⟩
        exact List.forall_mem_cons.mpr ⟨blankLine, blankLines⟩
      · exact ⟨[], text, rfl, by simp, start⟩

namespace HasFence

/-- The first line of a text with a fence is one, or a fence stands behind
it. -/
theorem exists_line {text : List Char} (has : HasFence text) :
    ∃ line rest, text = line ++ '\n' :: rest ∧ '\n' ∉ line ∧
      (IsFence line ∨ HasFence rest) := by
  obtain ⟨before, closing, rest, closes, same⟩ := has
  cases before with
  | nil =>
      exact ⟨closing, rest, (List.cons.inj same).2, closes.inner, .inl closes⟩
  | cons char before =>
      obtain ⟨-, rfl⟩ := List.cons.inj same
      by_cases single : '\n' ∈ before
      · obtain ⟨line, behind, rfl, inner⟩ := List.eq_append_cons_of_mem single
        exact ⟨line, behind ++ '\n' :: (closing ++ '\n' :: rest), by simp, inner,
          .inr ⟨'\n' :: behind, closing, rest, closes, rfl⟩⟩
      · exact ⟨before, closing ++ '\n' :: rest, rfl, single,
          .inr ⟨[], closing, rest, closes, rfl⟩⟩

/-- Of the lines that are fences, one comes first. -/
theorem exists_first {text : List Char} (has : HasFence text) :
    ∃ lines closing rest, text = written lines ++ (closing ++ '\n' :: rest) ∧
      IsFence closing ∧ ∀ line ∈ lines, '\n' ∉ line ∧ ¬ IsFence line := by
  induction size : text.length using Nat.strong_induction_on
    generalizing text with
  | h count induction =>
      obtain ⟨line, behind, rfl, inner, later⟩ := has.exists_line
      by_cases closes : IsFence line
      · exact ⟨[], line, behind, rfl, closes, by simp⟩
      · have shorter : behind.length < count := by
          simp only [List.length_append, List.length_cons] at size
          omega
        obtain ⟨lines, closing, rest, rfl, isFence, open_⟩ :=
          induction behind.length shorter (later.resolve_left closes) rfl
        refine ⟨line :: lines, closing, rest, by simp, isFence, ?_⟩
        exact List.forall_mem_cons.mpr ⟨⟨inner, closes⟩, open_⟩

end HasFence

/-- Every text that starts with a fence and has another one is of this form. -/
theorem exists_fenced {opening rest : List Char} (opens : IsFence opening)
    (has : HasFence rest) :
    ∃ lines blank body, Fenced lines blank body (opening ++ '\n' :: rest) := by
  obtain ⟨lines, closing, behind, rfl, closes, open_⟩ := has.exists_first
  obtain ⟨blank, body, rfl, blankLines, start⟩ := exists_blank_lines behind
  exact ⟨lines, blank, body, ⟨opening, closing, opens, closes, by simp⟩, open_,
    blankLines, start⟩

namespace Fenced

variable {lines blank : List (List Char)} {body text : List Char}

theorem split?_of_visible {lead : List (List Char)} {line : List Char}
    (fenced : Fenced (lead ++ line :: lines) blank body text)
    (blankLead : ∀ other ∈ lead, Text.AllBlank other)
    (visible : ¬ Text.AllBlank line) :
    split? text = some (block (line :: lines), body) := by
  obtain ⟨⟨opening, closing, opens, closes, rfl⟩, open_, blankLines, start⟩ :=
    fenced
  have openLine (other : List Char) (member : other ∈ line :: lines) :=
    open_ other (List.mem_append_right lead member)
  have inner := (openLine line List.mem_cons_self).1
  have here := splitAtFence?_of_body closes blankLines start
  let rest := closing ++ '\n' :: (written blank ++ body)
  obtain ⟨more, candidates⟩ := exists_afterFence_written opens
    (fun other member => ⟨blankLead other member,
      (open_ other (List.mem_append_left _ member)).1⟩)
    (written (line :: lines) ++ rest)
  have first : afterLineEnds (written (line :: lines) ++ rest) = [] := by
    rw [written_cons, List.append_assoc]
    exact afterLineEnds_of_not_allBlank inner visible _
  have split : splitAtFence? (written (line :: lines) ++ rest) =
      some (block (line :: lines), body) := by
    rw [written_cons, List.append_assoc, List.cons_append,
      splitAtFence?_append inner,
      splitAtFence?_written fun other member =>
        openLine other (List.mem_cons_of_mem _ member), here, block_cons]
    simp
  have shape : written (opening :: (lead ++ line :: lines)) ++ rest =
      written (opening :: lead) ++ (written (line :: lines) ++ rest) := by
    simp
  rw [first, List.nil_append] at candidates
  rw [shape, split?, candidates, List.findSome?_cons, split]

/-- Of blank lines, the block holds the last one, unless the search finds a
fence in the body. -/
theorem split?_of_blank {line : List Char}
    (fenced : Fenced (lines ++ [line]) blank body text)
    (allBlank : ∀ other ∈ lines ++ [line], Text.AllBlank other)
    (single : ¬ HasFence body) :
    split? text = some (line, body) := by
  obtain ⟨⟨opening, closing, opens, closes, rfl⟩, open_, blankLines, start⟩ :=
    fenced
  have blankLine (other : List Char) (member : other ∈ lines ++ [line]) :
      IsBlankLine other := ⟨allBlank other member, (open_ other member).1⟩
  have lastLine := blankLine line (by simp)
  have here := splitAtFence?_of_body closes blankLines start
  let rest := closing ++ '\n' :: (written blank ++ body)
  obtain ⟨more, candidates⟩ := exists_afterFence_written opens
    (fun other member => blankLine other (List.mem_append_left _ member))
    (line ++ '\n' :: rest)
  have first : afterLineEnds (line ++ '\n' :: rest) = [rest] := by
    rw [afterLineEnds_of_isBlankLine lastLine,
      afterLineEnds_of_not_allBlank closes.inner closes.not_allBlank]
    rfl
  have missed : splitAtFence? rest = none := by
    rw [splitAtFence?_of_isFence closes blankLines, Option.map_eq_none_iff,
      splitAtFence?_lineEnd_eq_none_iff]
    exact single
  have split : splitAtFence? (line ++ '\n' :: rest) = some (line, body) := by
    rw [splitAtFence?_append lastLine.inner, here]
    simp
  have shape : written (opening :: (lines ++ [line])) ++ rest =
      written (opening :: lines) ++ (line ++ '\n' :: rest) := by
    simp
  rw [shape, split?, candidates, first]
  simp [missed, split]

theorem length_body_lt (fenced : Fenced lines blank body text) :
    body.length < text.length := by
  obtain ⟨opening, closing, -, -, rfl⟩ := fenced.fences
  simp only [List.length_append, List.length_cons, written_cons]
  omega

end Fenced

/-! ## Where the split fails -/

theorem length_lt_of_mem_afterLineEnds {text rest : List Char}
    (member : rest ∈ afterLineEnds text) : rest.length < text.length := by
  fun_induction afterLineEnds text with
  | case1 => cases member
  | case2 => cases member
  | case3 char text blank lineEnd induction =>
      rcases List.mem_append.mp member with later | here
      · exact (induction later).trans (Nat.lt_succ_self _)
      · rw [List.mem_singleton.mp here]
        exact Nat.lt_succ_self _
  | case4 char text blank inLine induction =>
      exact (induction member).trans (Nat.lt_succ_self _)

theorem length_lt_of_splitAtFence? {text inner body : List Char}
    (split : splitAtFence? text = some (inner, body)) :
    body.length + 1 < text.length := by
  fun_induction splitAtFence? text generalizing inner with
  | case1 => cases split
  | case2 char text found fenced =>
      cases split
      split at fenced
      · have member := List.mem_of_head? fenced
        unfold afterFence at member
        split at member
        · rename_i after lead
          have shorter := length_lt_of_mem_afterLineEnds member
          rw [Text.dropLead?_eq_some_iff.mp lead]
          simp only [List.length_cons, List.length_append]
          omega
        · cases member
      · cases fenced
  | case3 char text open_ induction =>
      obtain ⟨⟨before, found⟩, later, same⟩ := Option.map_eq_some_iff.mp split
      cases same
      exact (induction later).trans (Nat.lt_succ_self _)

theorem exists_split?_of_read {loader : Yaml.Loader} {text body : List Char}
    {entries : List (Value × Value)}
    (read : read loader text = .ok (entries, body))
    (shorter : body.length < text.length) :
    ∃ inner, split? text = some (inner, body) := by
  unfold Frontmatter.read at read
  split at read
  · cases read
    exact absurd shorter (Nat.lt_irrefl _)
  · rename_i inner after split
    refine ⟨inner, ?_⟩
    split at read
    · cases read
    · cases read
      exact absurd shorter (Nat.lt_irrefl _)
    · cases read
      exact split
    · obtain ⟨-, same⟩ := Prod.mk.inj (Except.ok.inj read)
      split at same
      · rw [same] at shorter
        exact absurd shorter (Nat.lt_irrefl _)
      · rw [split, same]

theorem read_of_split? {loader : Yaml.Loader} {text inner body : List Char}
    {value : Value} {entries : List (Value × Value)}
    (split : split? text = some (inner, body))
    (loads : loader inner = .ok value)
    (mapping : value = .map entries ∨ value = .null ∧ entries = []) :
    read loader text = .ok (entries, body) := by
  unfold read
  rw [split]
  dsimp only
  rw [loads]
  rcases mapping with rfl | ⟨rfl, rfl⟩
  · rfl
  · rfl

namespace Fenced

variable {lines blank : List (List Char)} {body text : List Char}

/-- Blank lines do not keep the fences apart if there are none, or if the body
has a fence of its own. -/
theorem split?_ne_of_blank {inner : List Char}
    (fenced : Fenced lines blank body text)
    (allBlank : ∀ line ∈ lines, Text.AllBlank line)
    (close : lines = [] ∨ HasFence body) :
    split? text ≠ some (inner, body) := by
  obtain ⟨⟨opening, closing, opens, closes, rfl⟩, open_, blankLines, -⟩ :=
    fenced
  let rest := closing ++ '\n' :: (written blank ++ body)
  have start : afterLineEnds rest = [] :=
    afterLineEnds_of_not_allBlank closes.inner closes.not_allBlank _
  have behind : splitAtFence? rest = _ :=
    splitAtFence?_of_isFence closes blankLines body
  -- what is found behind the second fence ends in less than the body
  have elsewhere : splitAtFence? rest ≠ some (inner, body) := by
    intro found
    rw [behind, Option.map_eq_some_iff] at found
    obtain ⟨⟨before, after⟩, further, same⟩ := found
    cases same
    have shorter := length_lt_of_splitAtFence? further
    rw [List.length_cons] at shorter
    omega
  rcases close with rfl | single
  · have only : afterFence (written [opening] ++ rest) = [rest] := by
      rw [written_cons, written_nil, List.append_assoc, List.singleton_append,
        afterFence_of_isFence opens, start]
      rfl
    rw [split?, only, List.findSome?_singleton]
    exact elsewhere
  · obtain ⟨more, candidates⟩ := exists_afterFence_written opens
      (fun line member => ⟨allBlank line member, (open_ line member).1⟩) rest
    rw [start, List.nil_append] at candidates
    have found : splitAtFence? rest ≠ none := by
      rw [behind, Ne, Option.map_eq_none_iff,
        splitAtFence?_lineEnd_eq_none_iff]
      exact not_not_intro single
    obtain ⟨parts, found⟩ := Option.ne_none_iff_exists'.mp found
    rw [split?, candidates, List.findSome?_cons, found]
    rwa [found] at elsewhere

end Fenced

/-! ## Reading the frontmatter -/

theorem exists_first_visible {lines : List (List Char)}
    (visible : ∃ line ∈ lines, ¬ Text.AllBlank line) :
    ∃ lead line more, lines = lead ++ line :: more ∧
      (∀ other ∈ lead, Text.AllBlank other) ∧ ¬ Text.AllBlank line := by
  induction lines with
  | nil => simp at visible
  | cons first lines induction =>
      by_cases blank : Text.AllBlank first
      · obtain ⟨line, _ | ⟨_, member⟩, notBlank⟩ := visible
        · exact absurd blank notBlank
        · obtain ⟨lead, line, more, rfl, blankLead, here⟩ :=
            induction ⟨line, member, notBlank⟩
          refine ⟨first :: lead, line, more, rfl, ?_, here⟩
          rintro other (_ | ⟨_, member⟩)
          · exact blank
          · exact blankLead other member
      · exact ⟨[], first, lines, rfl, by simp, blank⟩

theorem allBlank_written {lines : List (List Char)}
    (blank : ∀ line ∈ lines, Text.AllBlank line) :
    Text.AllBlank (written lines) := by
  induction lines with
  | nil => exact Text.allBlank_nil
  | cons line lines induction =>
      rw [List.forall_mem_cons] at blank
      intro char member
      rw [written_cons, List.mem_append, List.mem_cons] at member
      rcases member with here | rfl | later
      · exact blank.1 char here
      · rfl
      · exact induction blank.2 char later

/-- Blank lines in front of a block do not change the mapping that it holds,
unless a byte order mark follows. -/
theorem load_block {loader : Yaml.Loader} (ignores : loader.IgnoresBlankLines)
    {lead lines : List (List Char)} {line : List Char} {value : Value}
    (blank : ∀ other ∈ lead, Text.AllBlank other)
    (unmarked : lead ≠ [] → line.head? ≠ some '\ufeff')
    (loads : loader (block (lead ++ line :: lines)) = .ok value)
    (mapping : value = .null ∨ ∃ entries, value = .map entries) :
    loader (block (line :: lines)) = .ok value := by
  rw [block_append] at loads
  rcases List.eq_nil_or_concat' lead with rfl | ⟨init, last, rfl⟩
  · exact loads
  · apply ignores _ _ _ (allBlank_written blank) _ _ loads mapping
    · simp
    · rw [block_cons]
      cases line with
      | nil =>
          cases lines with
          | nil => simp
          | cons next lines => simp
      | cons char line => exact unmarked (by simp)

/-- A byte order mark stands first in a line behind blank lines. -/
def HasLateMark (lines : List (List Char)) : Prop :=
  ∃ lead line more, lines = lead ++ line :: more ∧ lead ≠ [] ∧
    (∀ other ∈ lead, Text.AllBlank other) ∧ line.head? = some '\ufeff'

theorem Fenced.read_eq_iff {loader : Yaml.Loader}
    (ignores : loader.IgnoresBlankLines) {lines blank : List (List Char)}
    {body text : List Char} {value : Value} {entries : List (Value × Value)}
    (fenced : Fenced lines blank body text) (unmarked : ¬ HasLateMark lines)
    (loads : loader (block lines) = .ok value)
    (mapping : value = .map entries ∨ value = .null ∧ entries = []) :
    read loader text = .ok (entries, body) ↔
      (∃ line ∈ lines, ¬ Text.AllBlank line) ∨ lines ≠ [] ∧ ¬ HasFence body := by
  have isMapping : value = .null ∨ ∃ entries, value = .map entries := by
    rcases mapping with rfl | ⟨rfl, -⟩
    · exact .inr ⟨entries, rfl⟩
    · exact .inl rfl
  by_cases visible : ∃ line ∈ lines, ¬ Text.AllBlank line
  · refine iff_of_true ?_ (.inl visible)
    obtain ⟨lead, line, more, rfl, blankLead, here⟩ :=
      exists_first_visible visible
    have start (nonempty : lead ≠ []) (mark : line.head? = some '\ufeff') :=
      unmarked ⟨lead, line, more, rfl, nonempty, blankLead, mark⟩
    exact read_of_split? (fenced.split?_of_visible blankLead here)
      (load_block ignores blankLead start loads isMapping) mapping
  · rw [or_iff_right visible]
    simp only [not_exists, not_and, not_not] at visible
    constructor
    · intro read
      obtain ⟨inner, split⟩ := exists_split?_of_read read fenced.length_body_lt
      refine not_or.mp fun close => ?_
      exact fenced.split?_ne_of_blank visible close split
    · rintro ⟨nonempty, single⟩
      obtain ⟨lead, line, rfl⟩ :=
        (List.eq_nil_or_concat' lines).resolve_left nonempty
      have blankLead (other : List Char) (member : other ∈ lead) :=
        visible other (List.mem_append_left _ member)
      have start (nonempty : lead ≠ []) (mark : line.head? = some '\ufeff') :=
        unmarked ⟨lead, line, [], rfl, nonempty, blankLead, mark⟩
      have last : loader line = .ok value := by
        have same : block [line] = line := List.intercalate_singleton
        rw [← same]
        exact load_block ignores blankLead start loads isMapping
      exact read_of_split? (fenced.split?_of_blank visible single) last mapping

/-- Every text with two fences has a block of lines between the first two of
them.  If it holds a mapping, or nothing, that is the frontmatter, and the body
starts behind the second fence, exactly if one of these lines is visible, or if
they are blank and the body has no fence.  (A byte order mark behind blank lines
is not taken for a part of the mapping.) -/
theorem read_of_fences {loader : Yaml.Loader}
    (ignores : loader.IgnoresBlankLines) {opening rest : List Char}
    (opens : IsFence opening) (has : HasFence rest) :
    (∃ lines blank body, Fenced lines blank body (opening ++ '\n' :: rest)) ∧
      ∀ (lines blank : List (List Char)) (body : List Char) (value : Value)
        (entries : List (Value × Value)),
        Fenced lines blank body (opening ++ '\n' :: rest) →
        ¬ HasLateMark lines → loader (block lines) = .ok value →
        (value = .map entries ∨ value = .null ∧ entries = []) →
          (read loader (opening ++ '\n' :: rest) = .ok (entries, body) ↔
            (∃ line ∈ lines, ¬ Text.AllBlank line) ∨
              lines ≠ [] ∧ ¬ HasFence body) := by
  constructor
  · exact exists_fenced opens has
  · intro lines blank body value entries fenced unmarked loads mapping
    exact fenced.read_eq_iff ignores unmarked loads mapping

/-- What the block of a page shows, if it is a mapping. -/
def shownBlock (lines : List (List Char)) : Option String :=
  match Yaml.loader (block lines) with
  | .ok (.map entries) => some (Value.map entries).display
  | _ => none

theorem exists_entries_of_shownBlock {lines : List (List Char)} {shown : String}
    (loads : shownBlock lines = some shown) :
    ∃ entries, Yaml.loader (block lines) = .ok (.map entries) ∧
      (Value.map entries).display = shown := by
  unfold shownBlock at loads
  split at loads
  · rename_i entries found
    exact ⟨entries, found, Option.some.inj loads⟩
  · cases loads

/-- A blank line and a title between two fences, and a body with a fence. -/
theorem fenced_titledPage :
    Fenced [[], "title: Hi".toList] [[]] "body\n---\n".toList
      ("--- ".toList ++ '\n' :: "\ntitle: Hi\n---\n\nbody\n---\n".toList) := by
  constructor
  · exact ⟨"--- ".toList, fence, isFence_of_spaces 1, isFence_of_spaces 0, rfl⟩
  · have notFence (line : List Char) (first : line.head? ≠ some '-') :
        ¬ IsFence line := by
      rintro ⟨blank, -, rfl⟩
      exact first rfl
    intro line member
    simp only [List.mem_cons, List.not_mem_nil, or_false] at member
    rcases member with rfl | rfl
    · exact ⟨List.not_mem_nil, notFence _ (by decide)⟩
    · exact ⟨by decide, notFence _ (by decide)⟩
  · simpa using isBlankLine_spaces 0
  · exact afterLineEnds_eq_nil_iff.mp rfl

theorem read_of_titledPage :
    ∃ entries, Yaml.loader.IgnoresBlankLines ∧
      Yaml.loader (block [[], "title: Hi".toList]) = .ok (.map entries) ∧
      (Value.map entries).display = "\x7b'title': 'Hi'\x7d" ∧
      read Yaml.loader ("--- ".toList ++
        '\n' :: "\ntitle: Hi\n---\n\nbody\n---\n".toList) =
        .ok (entries, "body\n---\n".toList) := by
  have shown : shownBlock [[], "title: Hi".toList] =
      some "\x7b'title': 'Hi'\x7d" := by
    decide +kernel
  obtain ⟨entries, loads, display⟩ := exists_entries_of_shownBlock shown
  have has : HasFence "\ntitle: Hi\n---\n\nbody\n---\n".toList :=
    ⟨"\n\ntitle: Hi".toList, fence, "\nbody\n---\n".toList,
      isFence_of_spaces 0, rfl⟩
  have visible : ¬ Text.AllBlank "title: Hi".toList := by
    intro blank
    cases blank 't' (by decide)
  have unmarked : ¬ HasLateMark [[], "title: Hi".toList] := by
    rintro ⟨lead, line, more, same, -, -, mark⟩
    have member : line ∈ [[], "title: Hi".toList] := by
      rw [same]
      exact List.mem_append_right lead List.mem_cons_self
    simp only [List.mem_cons, List.not_mem_nil, or_false] at member
    rcases member with rfl | rfl
    · cases mark
    · revert mark
      decide
  obtain ⟨-, reads⟩ :=
    read_of_fences Yaml.ignoresBlankLines_loader (isFence_of_spaces 1) has
  refine ⟨entries, Yaml.ignoresBlankLines_loader, loads, display, ?_⟩
  apply (reads _ _ _ _ _ fenced_titledPage unmarked loads (.inl rfl)).mpr
  exact .inl ⟨"title: Hi".toList, by simp, visible⟩

/-- A page whose fences have nothing between them is all body. -/
theorem not_read_of_fenced :
    ¬ ∀ (lines blank : List (List Char)) (body text : List Char) (value : Value)
      (entries : List (Value × Value)), Fenced lines blank body text →
        Yaml.loader (block lines) = .ok value →
        (value = .map entries ∨ value = .null ∧ entries = []) →
          read Yaml.loader text = .ok (entries, body) := by
  intro reads
  have isFence : IsFence fence := isFence_of_spaces 0
  have fenced : Fenced [] [] "body\n".toList "---\n---\nbody\n".toList :=
    ⟨⟨fence, fence, isFence, isFence, rfl⟩, by simp, by simp,
      afterLineEnds_eq_nil_iff.mp rfl⟩
  have claimed := reads _ _ _ _ .null [] fenced rfl (.inr ⟨rfl, rfl⟩)
  have whole : read Yaml.loader "---\n---\nbody\n".toList =
      .ok ([], "---\n---\nbody\n".toList) := rfl
  rw [whole] at claimed
  cases claimed

end Shortcode.Frontmatter
