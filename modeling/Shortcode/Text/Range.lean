/-!
# Ranges of code points

A character class outside ASCII is a list of closed ranges.
-/

namespace Shortcode.Text

/-- The character's code point lies in one of the closed ranges. -/
def inRanges (ranges : List (Nat × Nat)) (char : Char) : Bool :=
  ranges.any fun (first, last) => first ≤ char.toNat && char.toNat ≤ last

end Shortcode.Text
