/-!
# Similar words

How alike two words are: the longest part that both have counts, and so do the longest parts before
and behind it.  `similarWords` picks the words that a misspelled one may stand for.
-/

namespace Shortcode.Text

/-- The length of the longest start that two texts have in common. -/
def commonStart : (left right : List Char) → Nat
  | first :: left, second :: right => if first == second then commonStart left right + 1 else 0
  | _, _ => 0

/-- A part that two texts have in common: where it starts in each, and its length. -/
structure CommonPart where
  left : Nat
  right : Nat
  length : Nat

/-- The longest common part, the first one in the left text and then in the right one. -/
def longestCommonPart (left right : List Char) : CommonPart :=
  let starts := (List.range left.length).flatMap fun first =>
    (List.range right.length).map fun second => (first, second)
  starts.foldl (fun best (first, second) =>
    let length := commonStart (left.drop first) (right.drop second)
    if length > best.length then ⟨first, second, length⟩ else best) ⟨0, 0, 0⟩

/-- The number of characters in common parts, in order; `fuel` bounds the parts. -/
def commonLength : (fuel : Nat) → (left right : List Char) → Nat
  | 0, _, _ => 0
  | fuel + 1, left, right =>
    let part := longestCommonPart left right
    if part.length == 0 then 0
    else
      commonLength fuel (left.take part.left) (right.take part.right) + part.length +
        commonLength fuel (left.drop (part.left + part.length))
          (right.drop (part.right + part.length))

/-- The words of a list that are similar to a word: at least three in ten of the characters of both
are common.  At most three of them are given, in the order of the alphabet. -/
def similarWords (word : String) (known : List String) : List String :=
  let rated := known.map fun other =>
    let common := commonLength other.length other.toList word.toList
    (other, common, other.length + word.length)
  let similar := rated.filter fun (_, common, total) => 10 * common ≥ 3 * total
  let better (left right : String × Nat × Nat) : Bool :=
    let (leftSize, rightSize) := (left.2.1 * right.2.2, right.2.1 * left.2.2)
    leftSize > rightSize || (leftSize == rightSize && right.1 < left.1)
  let best := ((similar.mergeSort better).take 3).map (·.1)
  best.mergeSort fun left right => left < right || left == right

end Shortcode.Text
