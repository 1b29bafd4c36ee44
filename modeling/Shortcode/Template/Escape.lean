import Shortcode.Text.Utf8

/-!
# Escaping

`escape` makes a text safe inside markup and its quoted attributes, `percentEncode` inside the query
of an address.
-/

namespace Shortcode.Template

/-- What a character is written as inside markup. -/
def escapeChar : Char → List Char
  | '&' => ['&', 'a', 'm', 'p', ';']
  | '<' => ['&', 'l', 't', ';']
  | '>' => ['&', 'g', 't', ';']
  | '\'' => ['&', '#', '3', '9', ';']
  | '"' => ['&', '#', '3', '4', ';']
  | char => [char]

/-- The text as it is written inside markup. -/
def escape (text : String) : String := String.ofList (text.toList.flatMap escapeChar)

/-- A byte that an address may hold as it is. -/
def isUnreserved (byte : UInt8) : Bool :=
  let char := Char.ofNat byte.toNat
  char.isAlphanum || ['_', '.', '-', '~'].contains char

/-- What a byte is written as inside an address, where some characters are kept. -/
def percentByte (kept : List Char) (byte : UInt8) : List Char :=
  if isUnreserved byte || kept.contains (Char.ofNat byte.toNat) then [Char.ofNat byte.toNat]
  else
    let digits := (Nat.toDigits 16 byte.toNat).map Char.toUpper
    '%' :: List.replicate (2 - digits.length) '0' ++ digits

/-- The text as it is written inside an address. -/
def percentEncode (kept : List Char) (text : String) : String :=
  String.ofList ((Text.Utf8.encode text.toList).flatMap (percentByte kept))

/-- The text as a key or a value of a query: a blank is a plus sign. -/
def queryEncode (text : String) : String :=
  String.ofList ((Text.Utf8.encode text.toList).flatMap fun byte =>
    if byte == 0x20 then ['+'] else percentByte [] byte)

end Shortcode.Template
