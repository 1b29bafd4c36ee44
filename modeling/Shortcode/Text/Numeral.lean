import Shortcode.Decimal.Nearest
import Shortcode.Text.Blank

/-!
# Numerals

`readInt` and `readFloat?` read a whole text as a number, the blanks around it aside.  The decimal
digits of every script count as digits.
-/

namespace Shortcode.Text

/-- The decimal zeros of the scripts; the other digits follow each of them. -/
def decimalZeros : List Nat := [
  0x30, 0x660, 0x6f0, 0x7c0, 0x966, 0x9e6, 0xa66, 0xae6, 0xb66, 0xbe6, 0xc66, 0xce6, 0xd66, 0xde6,
  0xe50, 0xed0, 0xf20, 0x1040, 0x1090, 0x17e0, 0x1810, 0x1946, 0x19d0, 0x1a80, 0x1a90, 0x1b50,
  0x1bb0, 0x1c40, 0x1c50, 0xa620, 0xa8d0, 0xa900, 0xa9d0, 0xa9f0, 0xaa50, 0xabf0, 0xff10, 0x104a0,
  0x10d30, 0x11066, 0x110f0, 0x11136, 0x111d0, 0x112f0, 0x11450, 0x114d0, 0x11650, 0x116c0,
  0x11730, 0x118e0, 0x11950, 0x11c50, 0x11d50, 0x11da0, 0x16a60, 0x16ac0, 0x16b50, 0x1d7ce,
  0x1d7d8, 0x1d7e2, 0x1d7ec, 0x1d7f6, 0x1e140, 0x1e2f0, 0x1e950, 0x1fbf0]

/-- The decimal digit that a character stands for, in any script. -/
def decimalDigit? (char : Char) : Option Nat :=
  (decimalZeros.find? fun first => first ≤ char.toNat && char.toNat < first + 10).map
    (char.toNat - ·)

/-- The value of a hexadecimal digit. -/
def hexDigit? (char : Char) : Option Nat :=
  if char.isDigit then some (char.toNat - '0'.toNat)
  else if 'a' ≤ char && char ≤ 'f' then some (char.toNat - 'a'.toNat + 10)
  else if 'A' ≤ char && char ≤ 'F' then some (char.toNat - 'A'.toNat + 10)
  else none

/-- The number that exactly `count` hexadecimal digits at the start of a text stand for. -/
def hexNumber? (count : Nat) (text : List Char) : Option Nat :=
  let digits := (text.take count).filterMap hexDigit?
  if digits.length == count then some (digits.foldl (16 * · + ·) 0) else none

/-- The value of a digit in a base of at most sixteen. -/
def digitIn? (base : Nat) (char : Char) : Option Nat := (hexDigit? char).filter (· < base)

/-- The number that digits of a base stand for. -/
def valueIn (base : Nat) (digits : List Char) : Nat :=
  (digits.filterMap (digitIn? base)).foldl (base * · + ·) 0

/-- The text with the digits of every script as ASCII digits, and with every blank outside ASCII as
a space. -/
def plainNumeral (text : List Char) : List Char :=
  text.map fun char =>
    if char.toNat < 128 then char
    else match decimalDigit? char with
      | some digit => Char.ofNat ('0'.toNat + digit)
      | none => if isBlank char then ' ' else char

/-- A blank that may stand beside a numeral. -/
def isNumeralBlank (char : Char) : Bool :=
  char == ' ' || ('\t' ≤ char && char ≤ '\r')

/-- A sign, which is negative if it is a hyphen, and what follows it. -/
def splitSign (text : List Char) : Bool × List Char :=
  match text with
  | '-' :: rest => (true, rest)
  | '+' :: rest => (false, rest)
  | _ => (false, text)

/-- The letter that may follow a zero in front of the digits of a base. -/
def baseLetter? (base : Nat) : Option Char :=
  if base == 2 then some 'b' else if base == 8 then some 'o'
  else if base == 16 then some 'x' else none

/-- The numeral without the zero and the letter that name its base. -/
def dropBase (base : Nat) (text : List Char) : List Char :=
  match text with
  | '0' :: letter :: rest => if baseLetter? base == some letter.toLower then rest else text
  | _ => text

/-- Why a text is no whole number. -/
inductive NumeralError where
  | malformed
  /-- It has more than `digitLimit` decimal digits. -/
  | tooManyDigits (count : Nat)
deriving DecidableEq, Repr

/-- Reads a whole number in a base, with at most `limit` digits if the base is ten. -/
def readInt (limit base : Nat) (text : List Char) : Except NumeralError Int :=
  let (negative, unsigned) := splitSign ((plainNumeral text).dropWhile isNumeralBlank)
  let body := dropBase base unsigned
  let digits := body.takeWhile fun char => (digitIn? base char).isSome
  if base == 10 && digits.length > limit then .error (.tooManyDigits digits.length)
  else if digits.isEmpty || !(body.drop digits.length).all isNumeralBlank then .error .malformed
  else
    let size : Int := valueIn base digits
    .ok (if negative then -size else size)

/-- The exponent that a text is, a letter in front of it; a number without one has exponent zero. -/
def readExponent? (text : List Char) : Option Int :=
  match text with
  | [] => some 0
  | mark :: rest =>
    let (negative, digits) := splitSign rest
    if mark.toLower != 'e' || digits.isEmpty || !digits.all Char.isDigit then none
    else
      let size : Int := valueIn 10 digits
      some (if negative then -size else size)

/-- The number that digits with a point and an exponent stand for. -/
def readDecimal? (text : List Char) : Option Float :=
  let whole := text.takeWhile Char.isDigit
  let (fraction, rest) := match text.drop whole.length with
    | '.' :: rest => (rest.takeWhile Char.isDigit, rest.dropWhile Char.isDigit)
    | rest => ([], rest)
  if whole.isEmpty && fraction.isEmpty then none
  else (readExponent? rest).map fun exponent =>
    Decimal.ofScientific (valueIn 10 (whole ++ fraction)) (exponent - fraction.length)

/-- Reads a floating-point number, or one of the words for what is not finite. -/
def readFloat? (text : List Char) : Option Float :=
  let trimmed := dropEndWhile isNumeralBlank ((plainNumeral text).dropWhile isNumeralBlank)
  let (negative, body) := splitSign trimmed
  let word := String.ofList (body.map Char.toLower)
  let size :=
    if word == "inf" || word == "infinity" then some (1.0 / 0.0)
    else if word == "nan" then some (0.0 / 0.0)
    else readDecimal? body
  size.map fun size => if negative then -size else size

end Shortcode.Text
