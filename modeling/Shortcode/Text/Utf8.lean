/-!
# UTF-8

`encode` writes a text as bytes; `decode` reads bytes back and stops at the first sequence that is
not the encoding of a character, saying what is wrong with it.
-/

namespace Shortcode.Text.Utf8

/-- The bytes of a character. -/
def encodeChar (char : Char) : List UInt8 := String.utf8EncodeChar char

/-- The bytes of a text. -/
def encode (text : List Char) : List UInt8 := text.flatMap encodeChar

/-- What is wrong with a sequence of bytes. -/
inductive Flaw where
  /-- No character starts with this byte. -/
  | invalidStart
  /-- A byte that does not go on with the character. -/
  | invalidContinuation
  /-- The bytes end inside the character. -/
  | unexpectedEnd
deriving DecidableEq, Repr

/-- The first bytes that cannot be decoded: their value, their place, their number. -/
structure Error where
  first : UInt8
  start : Nat
  count : Nat
  flaw : Flaw
deriving DecidableEq, Repr

/-- The wording of a flaw. -/
def Flaw.message : Flaw → String
  | .invalidStart => "invalid start byte"
  | .invalidContinuation => "invalid continuation byte"
  | .unexpectedEnd => "unexpected end of data"

/-- A byte in two hexadecimal digits. -/
def hexByte (byte : UInt8) : String :=
  let digits := Nat.toDigits 16 byte.toNat
  String.ofList (List.replicate (2 - digits.length) '0' ++ digits)

/-- The wording of an error. -/
def Error.message (error : Error) : String :=
  let place :=
    if error.count == 1 then
      "byte 0x" ++ hexByte error.first ++ " in position " ++ Nat.repr error.start
    else
      "bytes in position " ++ Nat.repr error.start ++ "-" ++
        Nat.repr (error.start + error.count - 1)
  "'utf-8' codec can't decode " ++ place ++ ": " ++ error.flaw.message

/-- The error where the bytes are read piece by piece: a character that they end in is left over
after every other piece, and its place is counted in the rest alone. -/
def Error.ofPieces (error : Error) : Error :=
  if error.flaw = .unexpectedEnd then { error with start := 0 } else error

/-- How many bytes follow a first byte, the bits that it gives, and the range of the next byte. -/
def leadOf? (byte : Nat) : Option (Nat × Nat × Nat × Nat) :=
  if byte < 0x80 then some (0, byte, 0, 0)
  else if byte < 0xc2 then none
  else if byte < 0xe0 then some (1, byte - 0xc0, 0x80, 0xbf)
  else if byte == 0xe0 then some (2, 0, 0xa0, 0xbf)
  else if byte == 0xed then some (2, 0xd, 0x80, 0x9f)
  else if byte < 0xf0 then some (2, byte - 0xe0, 0x80, 0xbf)
  else if byte == 0xf0 then some (3, 0, 0x90, 0xbf)
  else if byte < 0xf4 then some (3, byte - 0xf0, 0x80, 0xbf)
  else if byte == 0xf4 then some (3, 4, 0x80, 0x8f)
  else none

/-- Reads the bytes that go on with a character: the number that they make with the bits before,
or how many fitted and what was wrong with the next. -/
def continuation (low high : Nat) : (missing : Nat) → (fitted code : Nat) → (bytes : List UInt8) →
    Except (Nat × Flaw) (Nat × List UInt8)
  | 0, _, code, bytes => .ok (code, bytes)
  | _ + 1, fitted, _, [] => .error (fitted, .unexpectedEnd)
  | missing + 1, fitted, code, byte :: rest =>
    if low ≤ byte.toNat && byte.toNat ≤ high then
      continuation 0x80 0xbf missing (fitted + 1) (64 * code + (byte.toNat - 0x80)) rest
    else .error (fitted, .invalidContinuation)

/-- Decodes bytes from an offset on; `fuel` bounds their number. -/
def decodeFrom : (fuel : Nat) → (offset : Nat) → (bytes : List UInt8) → Except Error (List Char)
  | 0, _, _ => .ok []
  | _ + 1, _, [] => .ok []
  | fuel + 1, offset, byte :: rest =>
    match leadOf? byte.toNat with
    | none => .error ⟨byte, offset, 1, .invalidStart⟩
    | some (missing, bits, low, high) =>
      match continuation low high missing 1 bits rest with
      | .error (count, flaw) => .error ⟨byte, offset, count, flaw⟩
      | .ok (code, others) =>
        (decodeFrom fuel (offset + missing + 1) others).map (Char.ofNat code :: ·)

/-- Decodes bytes. -/
def decode (bytes : List UInt8) : Except Error (List Char) := decodeFrom bytes.length 0 bytes

end Shortcode.Text.Utf8
