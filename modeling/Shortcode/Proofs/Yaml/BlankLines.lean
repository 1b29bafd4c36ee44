import Shortcode.Proofs.Yaml.Layout
import Shortcode.Text.Blank
import Shortcode.Yaml.Load

/-!
# Blank lines before a YAML text

Spaces and line ends are passed over before the first token, so a text has the
same tokens behind blank lines that are made of them.
-/

namespace Shortcode.Yaml

/-! ## Spaces and line ends -/

namespace Place

variable {place : Place} {char : Char} {rest : List Char}

theorem step_of_isBreak (ends : isBreak char = true)
    (stands : place.rest = char :: rest)
    (alone : ¬ (char = '\r' ∧ rest.head? = some '\n')) :
    place.step = ⟨rest, place.offset + 1, place.line + 1, 0⟩ := by
  unfold step
  rw [stands]
  have single : (isBreak char && !(char == '\r' && rest.head? == some '\n')) =
      true := by
    simpa [ends, ← not_and_or] using alone
  simp only [single, if_true]

theorem line_step_le (place : Place) : place.line ≤ place.step.line := by
  unfold step
  split
  · exact Nat.le_refl _
  · split
    · exact Nat.le_succ _
    · exact Nat.le_refl _

/-- A line end is passed as a whole. -/
theorem exists_lineBreak? (stands : place.rest = char :: rest)
    (ends : isBreak char = true) :
    ∃ read next, place.lineBreak? = some (read, next) ∧ next.column = 0 ∧
      place.line < next.line ∧
        (next.rest = rest ∨ char = '\r' ∧ rest = '\n' :: next.rest) := by
  have behind : place.step.rest = rest := by
    rw [rest_step, stands, List.tail_cons]
  by_cases double : char = '\r' ∧ rest.head? = some '\n'
  · obtain ⟨rfl, newline⟩ := double
    obtain ⟨more, rfl⟩ := List.head?_eq_some_iff.mp newline
    have first := place.line_step_le
    have second := step_of_isBreak (by decide) behind (by simp)
    refine ⟨'\n', place.step.step, ?_, ?_, ?_, .inr ⟨rfl, ?_⟩⟩
    · unfold lineBreak?
      rw [stands]
      rfl
    · rw [second]
    · rw [second]
      exact Nat.lt_succ_of_le first
    · rw [second]
  · have single : ∃ read, place.lineBreak? = some (read, place.step) := by
      unfold lineBreak?
      rw [stands]
      split
      · rename_i same
        cases same
        simp at double
      · exact ⟨_, rfl⟩
      · exact ⟨_, rfl⟩
      · rename_i same
        cases same
        rw [ends]
        exact ⟨_, rfl⟩
      · contradiction
    obtain ⟨read, found⟩ := single
    refine ⟨read, place.step, found, ?_, ?_, .inl behind⟩
    · rw [step_of_isBreak ends stands double]
    · rw [step_of_isBreak ends stands double]
      exact Nat.lt_succ_self _

end Place

namespace Layout

/-- More steps than there are characters make no difference. -/
theorem skipBlank_of_left_lt {fuel : Nat} (layout : Layout)
    (enough : layout.place.left < fuel) (more : Nat) :
    skipBlank (fuel + more) layout = skipBlank fuel layout := by
  induction fuel generalizing layout with
  | zero => omega
  | succ fuel induction =>
      have blank := layout.place.left_skipWhile_le (· == ' ')
      have comment := (layout.place.skipWhile (· == ' ')).left_skipComment_le
      rw [Nat.add_right_comm, skipBlank, skipBlank]
      cases ends : ((layout.place.skipWhile (· == ' ')).skipComment).lineBreak? with
      | none => rfl
      | some found =>
          obtain ⟨char, start⟩ := found
          have before := Place.left_lineBreak?_lt ends
          apply induction
          change start.left < fuel
          omega

/-- Spaces and line ends before a text; the last of them is a line end of its
own. -/
structure IsSpacing (blank text : List Char) : Prop where
  chars : ∀ char ∈ blank, char = ' ' ∨ isBreak char = true
  ends : ∀ last ∈ blank.getLast?, isBreak last = true ∧
    ¬ (last = '\r' ∧ text.head? = some '\n')

theorem IsSpacing.suffix {blank rest text : List Char}
    (spacing : IsSpacing blank text) (suffix : rest <:+ blank) :
    IsSpacing rest text := by
  obtain ⟨lead, rfl⟩ := suffix
  obtain ⟨chars, ends⟩ := spacing
  refine ⟨fun char member => chars char (List.mem_append_right lead member), ?_⟩
  intro last isLast
  have nonempty : rest ≠ [] := by
    rintro rfl
    cases isLast
  apply ends
  rw [List.getLast?_append_of_ne_nil lead nonempty]
  exact isLast

/-- The step over one line end, behind the spaces of the line. -/
theorem exists_skipBlank_lineEnd {char : Char} {rest : List Char}
    (layout : Layout) (allowKey : layout.allowKey = true)
    (stands : layout.place.rest.dropWhile (· == ' ') = char :: rest)
    (ends : isBreak char = true) :
    ∃ next : Place, next.column = 0 ∧
      (next.rest = rest ∨ char = '\r' ∧ rest = '\n' :: next.rest) ∧
      skipBlank (layout.place.left + 1) layout =
        skipBlank (next.left + 1) { layout with place := next } := by
  let behind := layout.place.skipWhile (· == ' ')
  rw [← Place.rest_skipWhile] at stands
  have noComment : behind.skipComment = behind := by
    unfold Place.skipComment
    rw [stands]
    apply if_neg
    rintro comment
    obtain rfl : char = '#' := by simpa using comment
    cases ends
  obtain ⟨read, next, found, column, -, after⟩ :=
    Place.exists_lineBreak? stands ends
  have before := Place.left_lineBreak?_lt found
  have shorter := layout.place.left_skipWhile_le (· == ' ')
  have room : layout.place.left =
    next.left + 1 + (layout.place.left - (next.left + 1)) := by omega
  refine ⟨next, column, after, ?_⟩
  rw [skipBlank, noComment, found]
  dsimp only
  rw [allowKey, Bool.true_or, room]
  let passed : Layout := { layout with place := next, allowKey := true }
  exact skipBlank_of_left_lt passed (Nat.lt_succ_self next.left) _

/-- The step over the first line of the spacing, which leaves spacing again. -/
theorem exists_skipBlank_spacing {blank text : List Char}
    (spacing : IsSpacing blank text) (nonempty : blank ≠ []) (layout : Layout)
    (stands : layout.place.rest = blank ++ text)
    (allowKey : layout.allowKey = true) :
    ∃ (next : Place) (behind : List Char), next.rest = behind ++ text ∧
      next.column = 0 ∧ IsSpacing behind text ∧
      behind.length < blank.length ∧
      skipBlank (layout.place.left + 1) layout =
        skipBlank (next.left + 1) { layout with place := next } := by
  obtain ⟨spaces, line, rfl, isSpaces, stops⟩ :=
    Text.exists_stretch (· == ' ') blank
  cases line with
  | nil =>
      rw [List.append_nil] at nonempty spacing
      have space := isSpaces _ (List.getLast_mem nonempty)
      have ends :=
        (spacing.ends _ (List.getLast?_eq_some_getLast nonempty)).1
      rw [beq_iff_eq.mp space] at ends
      cases ends
  | cons char rest =>
      have suffix := List.suffix_append spaces (char :: rest)
      have notSpace : char ≠ ' ' := by simpa using stops char rfl
      have ends : isBreak char = true :=
        (spacing.chars char (suffix.subset List.mem_cons_self)).resolve_left
          notSpace
      have dropped : layout.place.rest.dropWhile (· == ' ') =
          char :: (rest ++ text) := by
        rw [stands, List.append_assoc]
        exact Text.dropWhile_append_of_stops isSpaces stops
      obtain ⟨next, column, after, step⟩ :=
        exists_skipBlank_lineEnd layout allowKey dropped ends
      -- A line end of two characters is passed over whole.
      have rested : ∃ behind, next.rest = behind ++ text ∧ behind <:+ rest := by
        rcases after with same | ⟨rfl, same⟩
        · exact ⟨rest, same, List.suffix_rfl⟩
        · cases rest with
          | nil =>
              have alone := (spacing.suffix suffix).ends '\r' rfl
              rw [List.nil_append] at same
              simp [same] at alone
          | cons newline more =>
              rw [List.cons_append] at same
              exact ⟨more, (List.cons.inj same).2.symm,
                List.suffix_cons newline more⟩
      obtain ⟨behind, written, shortened⟩ := rested
      have kept := spacing.suffix
        (shortened.trans ((List.suffix_cons char rest).trans suffix))
      refine ⟨next, behind, written, column, kept, ?_, step⟩
      have shorter := shortened.length_le
      rw [List.length_append, List.length_cons]
      omega

/-- Spaces and line ends are passed over. -/
theorem exists_skipBlank_of_isSpacing {blank text : List Char}
    (spacing : IsSpacing blank text) (layout : Layout)
    (stands : layout.place.rest = blank ++ text)
    (start : layout.place.column = 0) (allowKey : layout.allowKey = true) :
    ∃ place : Place, place.rest = text ∧ place.column = 0 ∧
      skipBlank (layout.place.left + 1) layout =
        skipBlank (place.left + 1) { layout with place := place } := by
  induction size : blank.length using Nat.strong_induction_on
    generalizing blank layout with
  | h count induction =>
      by_cases empty : blank = []
      · rw [empty] at stands
        exact ⟨layout.place, stands, start, rfl⟩
      · obtain ⟨next, behind, written, column, kept, shorter, step⟩ :=
          exists_skipBlank_spacing spacing empty layout stands allowKey
        obtain ⟨place, isText, atStart, same⟩ :=
          induction behind.length (size ▸ shorter) kept
            { layout with place := next } written column allowKey rfl
        exact ⟨place, isText, atStart, step.trans same⟩

end Layout

/-- The layout of a text before anything of it is read. -/
def Layout.start (place : Place) : Layout := ⟨place, #[], 0, [], true, []⟩

theorem tokens?_eq {text : List Char} (noMark : text.head? ≠ some '\ufeff') :
    tokens? text = if text.all isAllowed then
      ((Layout.start (.ofText text)).run (text.length + 1)).map (·.toList)
      else none := by
  unfold tokens?
  have unmarked : (text.head? == some '\ufeff') = false := by
    simpa using noMark
  rw [unmarked]
  rfl

theorem run_start_of_isSpacing {blank text : List Char}
    (spacing : Layout.IsSpacing blank text) :
    (Layout.start (.ofText (blank ++ text))).run
        ((blank ++ text).length + 1) =
      (Layout.start (.ofText text)).run (text.length + 1) := by
  obtain ⟨place, stands, atStart, skipped⟩ :=
    Layout.exists_skipBlank_of_isSpacing spacing
      (Layout.start (.ofText (blank ++ text))) rfl rfl rfl
  have first (fuel : Nat) :
      (Layout.start (.ofText (blank ++ text))).run (fuel + 1) =
        (Layout.start place).run (fuel + 1) := by
    rw [Layout.run, Layout.run]
    exact congrArg (fun layout : Layout => layout.dropStale?.bind _) skipped
  have further : Layout.start place = (Layout.start (.ofText text)).later
      place.offset place.line := by
    obtain ⟨rest, offset, line, column⟩ := place
    cases stands
    cases atStart
    simp [Layout.start, Layout.later, Place.ofText, Place.later]
  have room : (blank ++ text).length + 1 = text.length + 1 + blank.length := by
    rw [List.length_append]
    omega
  have enough : (Layout.start (.ofText text)).place.left < text.length + 1 :=
    Nat.lt_succ_self _
  rw [first, room, further, Layout.run_later, Layout.run_of_left_lt enough]

end Shortcode.Yaml
