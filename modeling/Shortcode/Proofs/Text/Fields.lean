import Shortcode.Text.Search

/-!
# The parts of a text

A text is cut at every mark: no part holds one, and the parts of two texts with a
mark between are those of the one and of the other.
-/

namespace Shortcode.Text

variable {mark : Char} {text : List Char}

theorem fields_ne_nil (text : List Char) : fields mark text ≠ [] := by
  cases text with
  | nil => exact List.cons_ne_nil _ _
  | cons char rest =>
      unfold fields
      split
      · exact List.cons_ne_nil _ _
      · split
        · exact List.cons_ne_nil _ _
        · exact List.cons_ne_nil _ _

/-- A character that is no mark belongs to the first part. -/
theorem exists_fields_cons {char : Char} (different : char ≠ mark)
    (text : List Char) :
    ∃ first others, fields mark text = first :: others ∧
      fields mark (char :: text) = (char :: first) :: others := by
  have kept : (char == mark) = false := by simpa using different
  cases parts : fields mark text with
  | nil => exact absurd parts (fields_ne_nil text)
  | cons first others =>
      exact ⟨first, others, rfl, by simp [fields, kept, parts]⟩

theorem fields_cons_mark : fields mark (mark :: text) = [] :: fields mark text := by
  simp [fields]

theorem fields_append (before after : List Char) :
    fields mark (before ++ mark :: after) =
      fields mark before ++ fields mark after := by
  induction before with
  | nil => exact fields_cons_mark
  | cons char rest induction =>
      by_cases same : char = mark
      · subst same
        rw [List.cons_append, fields_cons_mark, fields_cons_mark, induction,
          List.cons_append]
      · obtain ⟨first, others, parts, isFields⟩ := exists_fields_cons same rest
        obtain ⟨other, further, longer, isLonger⟩ :=
          exists_fields_cons same (rest ++ mark :: after)
        rw [induction, parts, List.cons_append] at longer
        obtain ⟨rfl, rfl⟩ := List.cons.inj longer
        rw [List.cons_append, isLonger, isFields, List.cons_append]

theorem fields_of_notMem (absent : mark ∉ text) : fields mark text = [text] := by
  induction text with
  | nil => rfl
  | cons char rest induction =>
      obtain ⟨different, others⟩ := not_or.mp (mt List.mem_cons.mpr absent)
      obtain ⟨first, further, parts, isFields⟩ :=
        exists_fields_cons (Ne.symm different) rest
      rw [induction others] at parts
      obtain ⟨rfl, rfl⟩ := List.cons.inj parts
      exact isFields

end Shortcode.Text
