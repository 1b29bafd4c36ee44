import Shortcode.Document.Calls
import Shortcode.Proofs.Document.Tag

/-!
# What stands at a delimiter

`ReadsTag` lists what a reader at an opening delimiter can find, and `readTag`
answers with the one case that holds.  What is known of a reading, or of a
failure, is known by these cases.
-/

namespace Shortcode

variable {shape : Shape} {line : Int} {text : List Char}

/-! ## Bodies -/

theorem readBody_eq_ok_iff {head : Head} {length : Nat} {reading : Reading} :
    readBody line head length text = .ok reading ↔
      ∃ block tag rest, text = block ++ (tag ++ rest) ∧ EndTag tag ∧
        NoEndTag block ∧
        reading = .call .body head (some (String.ofList (Text.trim block)))
          (length + (block.length + tag.length)) := by
  constructor
  · intro read
    unfold readBody at read
    split at read
    · cases read
    · rename_i start stop found
      cases read
      obtain ⟨block, tag, rest, rfl, endTag, absent, rfl, rfl⟩ :=
        eq_append_of_findEndTag? found
      exact ⟨block, tag, rest, rfl, endTag, absent, by rw [List.take_left]⟩
  · rintro ⟨block, tag, rest, rfl, endTag, absent, rfl⟩
    have found := findEndTag?_append endTag absent rest
    simp [readBody, found]

theorem eq_of_readBody_error {head : Head} {length : Nat} {failure : Failure}
    (failed : readBody line head length text = .error failure) :
    failure = .fault ⟨line, .unclosedBody head.name⟩ := by
  unfold readBody at failed
  split at failed
  · cases failed
    rfl
  · cases failed

/-! ## Tags -/

/-- What stands at a delimiter in front of the text. -/
inductive ReadsTag (line : Int) (text : List Char) :
    Shape → Except Failure Reading → Prop where
  | delimiter {shape : Shape} :
      splitAtCloser? shape.closer text = none →
      ReadsTag line text shape (.ok .delimiter)
  | strayEnd {content rest : List Char} :
      splitAtCloser? Shape.body.closer text = some (content, rest) →
      Text.trim content = endWord →
      ReadsTag line text .body (.ok (.strayEnd (content.length + 6)))
  /-- A tag that is neither an end tag nor the head of a call. -/
  | failed {shape : Shape} {content rest : List Char} {failure : Failure} :
      splitAtCloser? shape.closer text = some (content, rest) →
      (shape = .body → Text.trim content ≠ endWord) →
      Head.read line (Text.trim content) = .error failure →
      ReadsTag line text shape (.error failure)
  | inline {content rest : List Char} {head : Head} :
      splitAtCloser? Shape.inline.closer text = some (content, rest) →
      Head.read line (Text.trim content) = .ok head →
      ReadsTag line text .inline
        (.ok (.call .inline head none (content.length + 6)))
  /-- The head of a call with a body, and what the search for its end gives. -/
  | body {content rest : List Char} {head : Head}
      {outcome : Except Failure Reading} :
      splitAtCloser? Shape.body.closer text = some (content, rest) →
      Text.trim content ≠ endWord →
      Head.read line (Text.trim content) = .ok head →
      readBody line head (content.length + 6) rest = outcome →
      ReadsTag line text .body outcome

theorem readsTag_readTag (shape : Shape) (line : Int) (text : List Char) :
    ReadsTag line text shape (readTag shape line text) := by
  unfold readTag
  split
  · rename_i missing
    exact .delimiter missing
  · rename_i content rest split
    cases shape with
    | inline =>
        dsimp only
        cases read : Head.read line (Text.trim content) with
        | error failure => exact .failed split nofun read
        | ok head => exact .inline split read
    | body =>
        dsimp only
        by_cases ends : Text.trim content = endWord
        · rw [if_pos (beq_iff_eq.mpr ends)]
          exact .strayEnd split ends
        · rw [if_neg (mt beq_iff_eq.mp ends)]
          cases read : Head.read line (Text.trim content) with
          | error failure => exact .failed split (fun _ => ends) read
          | ok head => exact .body split ends read rfl

theorem ReadsTag.eq {outcome : Except Failure Reading}
    (reads : ReadsTag line text shape outcome) :
    readTag shape line text = outcome := by
  cases reads with
  | delimiter missing => simp only [readTag, missing]
  | strayEnd split ends =>
      simp only [readTag, split, ends, beq_self_eq_true, if_true]
  | failed split notEnd read =>
      cases shape with
      | inline => simp only [readTag, split, read, Except.map]
      | body => simp only [readTag, split, read, beq_iff_eq, notEnd rfl, if_false]
  | inline split read => simp only [readTag, split, read, Except.map]
  | body split notEnd read found =>
      simp only [readTag, split, read, beq_iff_eq, notEnd, if_false, found]

theorem readTag_eq_iff {outcome : Except Failure Reading} :
    readTag shape line text = outcome ↔ ReadsTag line text shape outcome := by
  constructor
  · rintro rfl
    exact readsTag_readTag shape line text
  · exact ReadsTag.eq

/-- An end tag without a body is passed over with its delimiters. -/
theorem exists_of_readTag_strayEnd {length : Nat}
    (read : readTag shape line text = .ok (.strayEnd length)) :
    ∃ content rest, text = content ++ (shape.closer ++ rest) ∧
      Text.trim content = endWord ∧ length = content.length + 6 := by
  cases readTag_eq_iff.mp read with
  | strayEnd split ends =>
      obtain ⟨cut, _⟩ := splitAtCloser?_eq_some_iff.mp split
      exact ⟨_, _, cut, ends, rfl⟩
  | body _ _ _ found =>
      obtain ⟨_, _, _, _, _, _, same⟩ := readBody_eq_ok_iff.mp found
      cases same

/-- The tag that is read belongs to what is passed over. -/
theorem length_tag_le_of_readTag {content rest : List Char} {reading : Reading}
    (read : readTag shape line text = .ok reading)
    (split : splitAtCloser? shape.closer text = some (content, rest)) :
    content.length + 6 ≤ reading.length := by
  cases readTag_eq_iff.mp read with
  | delimiter missing =>
      rw [split] at missing
      cases missing
  | strayEnd own | inline own =>
      cases split.symm.trans own
      exact le_rfl
  | body own _ _ found =>
      cases split.symm.trans own
      obtain ⟨_, _, _, _, _, _, rfl⟩ := readBody_eq_ok_iff.mp found
      exact Nat.le_add_right _ _

theorem three_le_length_of_readTag {reading : Reading}
    (read : readTag shape line text = .ok reading) : 3 ≤ reading.length := by
  cases split : splitAtCloser? shape.closer text with
  | none =>
      have alone : readTag shape line text = .ok .delimiter :=
        ReadsTag.eq (.delimiter split)
      cases alone.symm.trans read
      exact le_rfl
  | some parts =>
      have tag := length_tag_le_of_readTag read split
      omega

end Shortcode
