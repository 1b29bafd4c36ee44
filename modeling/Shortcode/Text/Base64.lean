import Shortcode.Text.Search

/-!
# Bytes in base 64

Four characters stand for three bytes.  Reading passes over every character that is no digit, and
stops where equals signs fill up the last four.
-/

namespace Shortcode.Text.Base64

/-- The value of a digit. -/
def digit? (char : Char) : Option Nat :=
  if 'A' ≤ char && char ≤ 'Z' then some (char.toNat - 'A'.toNat)
  else if 'a' ≤ char && char ≤ 'z' then some (char.toNat - 'a'.toNat + 26)
  else if '0' ≤ char && char ≤ '9' then some (char.toNat - '0'.toNat + 52)
  else if char == '+' then some 62
  else if char == '/' then some 63
  else none

/-- The bytes of a text behind `place` digits of four, whose last bits are held back, and as many
equals signs as `fill`; none if a digit is missing at the end. -/
def decodeFrom : (place held fill : Nat) → (text : List Char) → Option (List Nat)
  | place, _, _, [] => if place == 0 then some [] else none
  | place, held, fill, char :: rest =>
    if char == '=' then
      if place < 2 then decodeFrom place held fill rest
      else if place + fill + 1 ≥ 4 then some []
      else decodeFrom place held (fill + 1) rest
    else match digit? char with
      | none => decodeFrom place held fill rest
      | some digit =>
        let bits := held * 64 + digit
        match place with
        | 0 => decodeFrom 1 bits 0 rest
        | 1 => (decodeFrom 2 (bits % 16) 0 rest).map (bits / 16 :: ·)
        | 2 => (decodeFrom 3 (bits % 4) 0 rest).map (bits / 4 :: ·)
        | _ => (decodeFrom 0 0 0 rest).map (bits :: ·)

/-- The bytes that a text stands for. -/
def decode? (text : List Char) : Option (List Nat) := decodeFrom 0 0 0 text

end Shortcode.Text.Base64
