import Shortcode.Proofs.Document.Reading

/-!
# The leftmost end tag

`EndTagAt` says that an end tag stands between two offsets of a text, whatever
stands around it.  The search for the end of a body answers with the leftmost
one, and what the reader of calls passes over as an end tag without a body is
just what that search finds at once.
-/

namespace Shortcode

/-- An end tag stands between two offsets. -/
def EndTagAt (text : List Char) (start stop : Nat) : Prop :=
  ∃ tag, EndTag tag ∧ tag <+: text.drop start ∧ stop = start + tag.length

section

variable {text : List Char} {start stop near far length : Nat}

theorem endTagAt_iff :
    EndTagAt text start stop ↔
      ∃ length, endTag? (text.drop start) = some length ∧
        stop = start + length := by
  constructor
  · rintro ⟨tag, endTag, begins, counted⟩
    exact ⟨tag.length, endTag?_eq_some_iff.mpr ⟨tag, endTag, begins, rfl⟩,
      counted⟩
  · rintro ⟨length, found, rfl⟩
    obtain ⟨tag, endTag, begins, rfl⟩ := endTag?_eq_some_iff.mp found
    exact ⟨tag, endTag, begins, rfl⟩

/-- Where an end tag stops is decided by where it starts. -/
theorem EndTagAt.stop_unique {other : Nat} (first : EndTagAt text start stop)
    (second : EndTagAt text start other) : stop = other := by
  obtain ⟨length, found, rfl⟩ := endTagAt_iff.mp first
  obtain ⟨same, again, rfl⟩ := endTagAt_iff.mp second
  rw [found] at again
  rw [Option.some.inj again]

theorem endTagAt_drop_iff :
    EndTagAt (text.drop start) near far ↔
      EndTagAt text (start + near) (start + far) := by
  rw [endTagAt_iff, endTagAt_iff, List.drop_drop]
  constructor
  · rintro ⟨length, found, rfl⟩
    exact ⟨length, found, (Nat.add_assoc start near length).symm⟩
  · rintro ⟨length, found, counted⟩
    refine ⟨length, found, ?_⟩
    omega

theorem noEndTag_iff :
    NoEndTag text ↔ ∀ start stop, ¬ EndTagAt text start stop := by
  constructor
  · rintro absent start stop ⟨tag, endTag, begins, -⟩
    apply absent tag endTag
    exact begins.isInfix.trans (List.drop_suffix start text).isInfix
  · rintro absent tag endTag ⟨before, after, rfl⟩
    apply absent before.length
    refine ⟨tag, endTag, ?_, rfl⟩
    rw [List.append_assoc, List.drop_left]
    exact List.prefix_append tag after

/-- In front of the end tag that is found no other one starts, not even one that
would reach into it. -/
theorem endTagAt_of_findEndTag? (found : findEndTag? text = some (near, far)) :
    EndTagAt text near far ∧
      ∀ start stop, EndTagAt text start stop → near ≤ start := by
  obtain ⟨body, tag, rest, rfl, endTag, absent, rfl, rfl⟩ :=
    eq_append_of_findEndTag? found
  constructor
  · refine ⟨tag, endTag, ?_, rfl⟩
    rw [List.drop_left]
    exact List.prefix_append tag rest
  · rintro start stop ⟨other, otherTag, begins, -⟩
    by_contra before
    have inside : start < body.length := Nat.lt_of_not_le before
    rw [List.drop_append_of_le_length (Nat.le_of_lt inside)] at begins
    have nonempty : body.drop start ≠ [] := by
      rw [ne_eq, List.drop_eq_nil_iff, Nat.not_le]
      exact inside
    apply absent other otherTag
    apply List.IsInfix.trans _ (List.drop_suffix start body).isInfix
    exact (endTag.prefix_of_append otherTag nonempty begins).isInfix

theorem findEndTag?_eq_some_iff :
    findEndTag? text = some (near, far) ↔
      EndTagAt text near far ∧
        ∀ start stop, EndTagAt text start stop → near ≤ start := by
  constructor
  · exact endTagAt_of_findEndTag?
  · rintro ⟨here, least⟩
    cases found : findEndTag? text with
    | none =>
        have absent := findEndTag?_eq_none_iff.mp found
        exact absurd here (noEndTag_iff.mp absent near far)
    | some place =>
        obtain ⟨first, last⟩ := place
        obtain ⟨there, leftmost⟩ := endTagAt_of_findEndTag? found
        obtain rfl : near = first :=
          Nat.le_antisymm (least _ _ there) (leftmost _ _ here)
        rw [here.stop_unique there]

theorem findEndTag?_eq_some_zero_iff :
    findEndTag? text = some (0, length) ↔ endTag? text = some length := by
  unfold findEndTag?
  cases endTag? text with
  | some found => simp
  | none =>
      cases text with
      | nil => simp
      | cons char rest => simp

/-- The reader of calls and the search for the end of a body know an end tag by
the same rule. -/
theorem readTag_eq_strayEnd_iff {line : Int} :
    readTag .body line text = .ok (.strayEnd length) ↔
      endTag? (Shape.body.opener ++ text) = some length := by
  constructor
  · intro read
    cases readTag_eq_iff.mp read with
    | strayEnd split ends =>
        simp only [endTag?, Text.dropLead?_append, split, ends,
          beq_self_eq_true, if_true]
    | body _ _ _ found =>
        obtain ⟨_, _, _, _, _, _, same⟩ := readBody_eq_ok_iff.mp found
        cases same
  · intro found
    simp only [endTag?, Text.dropLead?_append] at found
    split at found
    · cases found
    · rename_i split
      split at found
      · rename_i ends
        cases found
        exact ReadsTag.eq (.strayEnd split (beq_iff_eq.mp ends))
      · cases found

end

/-- From any offset on, the search for the end of a body finds the leftmost end
tag of the text, and nothing only if there is none; tags with other words in
them, openers without a closer on their line and braces that overlap make no
difference.  At every delimiter of a body the reader of calls passes over an end
tag without a body exactly if the search finds it at once, and over the same
characters. -/
theorem findEndTag?_leftmost_and_readTag_agrees (text : List Char)
    (start : Nat) :
    (findEndTag? (text.drop start) = none ↔
      ∀ first last, start ≤ first → ¬ EndTagAt text first last) ∧
    (∀ near far, findEndTag? (text.drop start) = some (near, far) ↔
      EndTagAt text (start + near) (start + far) ∧
        ∀ first last, start ≤ first → EndTagAt text first last →
          start + near ≤ first) ∧
    (Shape.body.opener <+: text.drop start → ∀ line length,
      readTag .body line (text.drop (start + 3)) = .ok (.strayEnd length) ↔
        findEndTag? (text.drop start) = some (0, length)) := by
  refine ⟨?_, ?_, ?_⟩
  · rw [findEndTag?_eq_none_iff, noEndTag_iff]
    constructor
    · intro absent first last behind here
      obtain ⟨near, rfl⟩ := Nat.exists_eq_add_of_le behind
      obtain ⟨length, found, rfl⟩ := endTagAt_iff.mp here
      apply absent near (near + length)
      rw [endTagAt_drop_iff, ← Nat.add_assoc]
      exact here
    · intro absent near far here
      apply absent (start + near) (start + far) (Nat.le_add_right start near)
      exact endTagAt_drop_iff.mp here
  · intro near far
    rw [findEndTag?_eq_some_iff, endTagAt_drop_iff]
    apply and_congr_right
    intro here
    constructor
    · intro least first last behind there
      obtain ⟨other, rfl⟩ := Nat.exists_eq_add_of_le behind
      obtain ⟨length, found, rfl⟩ := endTagAt_iff.mp there
      apply Nat.add_le_add_left
      apply least other (other + length)
      rw [endTagAt_drop_iff, ← Nat.add_assoc]
      exact there
    · intro least other stop there
      apply Nat.le_of_add_le_add_left
      apply least _ _ (Nat.le_add_right start other)
      exact endTagAt_drop_iff.mp there
  · rintro ⟨rest, cut⟩ line length
    have behind : text.drop (start + 3) = rest := by
      rw [← List.drop_drop, ← cut]
      rfl
    rw [readTag_eq_strayEnd_iff, findEndTag?_eq_some_zero_iff, behind, cut]

/-- An opener without a closer on its line, and one that runs into the opener of
an end tag. -/
def overlappingTags : List Char :=
  "\x7b\x7b% a\n\x7b\x7b%\x7b\x7b% end\t%\x7d\x7d".toList

theorem findEndTag?_leftmost_overlappingTags :
    findEndTag? (overlappingTags.drop 1) = some (8, 19) ∧
    (∀ first last, 1 ≤ first → EndTagAt overlappingTags first last →
      9 ≤ first) ∧
    Shape.body.opener <+: overlappingTags.drop 6 ∧
    Shape.body.opener <+: overlappingTags.drop 9 ∧
    (∀ line length,
      readTag .body line (overlappingTags.drop 9) ≠ .ok (.strayEnd length)) ∧
    ∀ line, readTag .body line (overlappingTags.drop 12) =
      .ok (.strayEnd 11) := by
  have found : findEndTag? (overlappingTags.drop 1) = some (8, 19) := by decide
  have early : findEndTag? (overlappingTags.drop 6) = some (3, 14) := by decide
  have here : findEndTag? (overlappingTags.drop 9) = some (0, 11) := by decide
  have opens : Shape.body.opener <+: overlappingTags.drop 6 := by decide
  have again : Shape.body.opener <+: overlappingTags.drop 9 := by decide
  obtain ⟨-, leftmost, -⟩ :=
    findEndTag?_leftmost_and_readTag_agrees overlappingTags 1
  obtain ⟨-, -, other⟩ :=
    findEndTag?_leftmost_and_readTag_agrees overlappingTags 6
  obtain ⟨-, -, stray⟩ :=
    findEndTag?_leftmost_and_readTag_agrees overlappingTags 9
  refine ⟨found, ((leftmost 8 19).mp found).2, opens, again, ?_, ?_⟩
  · intro line length passed
    have none := (other opens line length).mp passed
    rw [early] at none
    cases none
  · intro line
    exact (stray again line 11).mpr here

end Shortcode
