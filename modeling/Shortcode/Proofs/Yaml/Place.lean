import Mathlib.Data.List.TakeWhile
import Shortcode.Yaml.Place

/-!
# Places further down

What is read at a place depends on the rest of the text and on the column, not
on the offset and the line.  So a place further down in another text with the
same rest is read in the same way, and the reader moves on by as much.  Moving on
never makes the rest longer.
-/

namespace Shortcode.Yaml

namespace Place

variable {place next : Place} (chars lines : Nat)

/-- The place behind some more characters and lines. -/
def later (place : Place) (chars lines : Nat) : Place :=
  { place with offset := place.offset + chars, line := place.line + lines }

/-- What has been read and the place behind it, further down. -/
def andLater {α : Type} (chars lines : Nat) (found : α × Place) : α × Place :=
  (found.1, found.2.later chars lines)

@[simp] theorem rest_later : (place.later chars lines).rest = place.rest := rfl

@[simp] theorem column_later :
    (place.later chars lines).column = place.column := rfl

@[simp] theorem endsLine_later :
    (place.later chars lines).endsLine = place.endsLine := rfl

@[simp] theorem endsWord_later (distance : Nat) :
    (place.later chars lines).endsWord distance = place.endsWord distance := rfl

@[simp] theorem atMarker_later :
    (place.later chars lines).atMarker = place.atMarker := rfl

@[simp] theorem step_later :
    (place.later chars lines).step = place.step.later chars lines := by
  unfold step
  cases rest : place.rest with
  | nil => simp [rest]
  | cons char behind =>
      simp only [rest_later, rest]
      split
      · simp [later, Nat.add_right_comm]
      · simp [later, Nat.add_right_comm]

@[simp] theorem forward_later (count : Nat) :
    (place.later chars lines).forward count =
      (place.forward count).later chars lines := by
  induction count generalizing place with
  | zero => rfl
  | succ count induction => rw [forward, forward, step_later, induction]

@[simp] theorem lineBreak?_later :
    (place.later chars lines).lineBreak? =
      place.lineBreak?.map (andLater chars lines) := by
  unfold lineBreak?
  rw [rest_later, forward_later, step_later]
  split
  · rfl
  · rfl
  · rfl
  · split
    · rfl
    · rfl
  · rfl

@[simp] theorem skipWhile_later (member : Char → Bool) :
    (place.later chars lines).skipWhile member =
      (place.skipWhile member).later chars lines :=
  forward_later ..

@[simp] theorem skipComment_later :
    (place.later chars lines).skipComment =
      place.skipComment.later chars lines := by
  unfold skipComment
  rw [rest_later, skipWhile_later]
  split
  · rfl
  · rfl

/-! ## What is left -/

/-- The number of characters that are left. -/
def left (place : Place) : Nat := place.rest.length

theorem rest_step : place.step.rest = place.rest.tail := by
  unfold step
  cases rest : place.rest with
  | nil => simp [rest]
  | cons char behind =>
      dsimp only
      split
      · rfl
      · rfl

theorem rest_forward (count : Nat) :
    (place.forward count).rest = place.rest.drop count := by
  induction count generalizing place with
  | zero => rfl
  | succ count induction =>
      rw [forward, induction, rest_step, List.drop_tail]

theorem rest_skipWhile (member : Char → Bool) :
    (place.skipWhile member).rest = place.rest.dropWhile member := by
  rw [skipWhile, rest_forward, List.dropWhile_eq_drop_findIdx_not,
    List.takeWhile_eq_take_findIdx_not, List.length_take,
    Nat.min_eq_left List.findIdx_le_length]

@[simp] theorem left_step : place.step.left = place.left - 1 := by
  rw [left, left, rest_step, List.length_tail]

@[simp] theorem left_forward (place : Place) (count : Nat) :
    (place.forward count).left = place.left - count := by
  rw [left, left, rest_forward, List.length_drop]

theorem left_skipWhile_le (member : Char → Bool) :
    (place.skipWhile member).left ≤ place.left := by
  rw [skipWhile, left_forward]
  exact Nat.sub_le _ _

theorem left_skipComment_le : place.skipComment.left ≤ place.left := by
  unfold skipComment
  split
  · exact left_skipWhile_le _
  · exact Nat.le_refl _

theorem left_lineBreak?_lt {char : Char}
    (ends : place.lineBreak? = some (char, next)) : next.left < place.left := by
  have step_lt {first : Char} {behind : List Char}
      (rest : place.rest = first :: behind) : place.step.left < place.left := by
    rw [left_step, left, rest, List.length_cons]
    omega
  unfold lineBreak? at ends
  split at ends
  · rename_i behind rest
    cases ends
    rw [left_forward, left, rest, List.length_cons]
    omega
  · rename_i behind rest
    cases ends
    exact step_lt rest
  · rename_i behind rest
    cases ends
    exact step_lt rest
  · rename_i first behind _ _ _ rest
    split at ends
    · cases ends
      exact step_lt rest
    · cases ends
  · cases ends

end Place

end Shortcode.Yaml
