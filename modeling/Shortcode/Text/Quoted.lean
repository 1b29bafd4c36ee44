import Shortcode.Text.Printable

/-!
# Quoted text

A text inside a list or a mapping is shown in quotes: single ones, unless it holds a single quote
and no double one.  The quote, the backslash and every character that is not printable are escaped.
-/

namespace Shortcode.Text

/-- The last `width` hexadecimal digits of a number, with zeros in front. -/
def hexadecimal (width number : Nat) : List Char :=
  let digits := Nat.toDigits 16 number
  List.replicate (width - digits.length) '0' ++ digits

/-- A character as it stands between quotes of the given kind. -/
def quotedChar (mark char : Char) : List Char :=
  if char == mark || char == '\\' then ['\\', char]
  else if char == '\n' then ['\\', 'n']
  else if char == '\r' then ['\\', 'r']
  else if char == '\t' then ['\\', 't']
  else if isPrintable char then [char]
  else if char.toNat < 0x100 then '\\' :: 'x' :: hexadecimal 2 char.toNat
  else if char.toNat < 0x10000 then '\\' :: 'u' :: hexadecimal 4 char.toNat
  else '\\' :: 'U' :: hexadecimal 8 char.toNat

/-- The quote that a text is shown in. -/
def quoteMark (text : List Char) : Char :=
  if text.contains '\'' && !text.contains '"' then '"' else '\''

/-- The text in quotes. -/
def quoted (text : List Char) : List Char :=
  let mark := quoteMark text
  mark :: text.flatMap (quotedChar mark) ++ [mark]

/-- Bytes in quotes, behind a mark of their own.  Only those of printable ASCII characters stand for
themselves. -/
def quotedBytes (bytes : List Nat) : List Char :=
  let mark := quoteMark (bytes.map Char.ofNat)
  let shown (byte : Nat) : List Char :=
    if byte < 0x7f then quotedChar mark (Char.ofNat byte) else '\\' :: 'x' :: hexadecimal 2 byte
  'b' :: mark :: bytes.flatMap shown ++ [mark]

end Shortcode.Text
