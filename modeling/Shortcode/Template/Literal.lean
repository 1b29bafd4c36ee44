import Shortcode.Template.Error
import Shortcode.Text.CharacterName
import Shortcode.Text.Numeral
import Shortcode.Text.Search
import Shortcode.Value.Display

/-!
# Literals of templates

A number is written with the digits of any script and with single underscores between them; a whole
number may be written in base two, eight or sixteen.  A quoted text stands for itself but for the
escapes in it, and a character outside ASCII for its own escape.
-/

namespace Shortcode.Template

/-! ## Numbers -/

/-- A number at the start of a text: its value or why it has none, and what follows it. -/
abbrev NumberRead := Except RenderError Value × List Char

/-- A decimal digit of any script. -/
def isDecimal (char : Char) : Bool := (Text.decimalDigit? char).isSome

/-- The digits at the start of the text, single underscores between them left out. -/
def takeDigits (member : Char → Bool) (afterDigit : Bool) :
    (text : List Char) → List Char × List Char
  | [] => ([], [])
  | char :: rest =>
    if member char then
      let (digits, rest) := takeDigits member true rest
      (char :: digits, rest)
    else if char == '_' && afterDigit && rest.head?.any member then takeDigits member false rest
    else ([], char :: rest)

/-- The base that a letter behind a zero names, and the digits of that base. -/
def namedBase? (letter : Char) : Option (Nat × (Char → Bool)) :=
  match letter.toLower with
  | 'b' => some (2, fun char => (Text.digitIn? 2 char).isSome)
  | 'o' => some (8, fun char => (Text.digitIn? 8 char).isSome)
  | 'x' => some (16, fun char => isDecimal char || (Text.hexDigit? char).isSome)
  | _ => none

/-- A whole number in a base that is named. -/
def basedNumber? (text : List Char) : Option NumberRead :=
  match text with
  | '0' :: letter :: rest =>
    (namedBase? letter).bind fun (base, member) =>
      let (digits, rest) := takeDigits member true rest
      if digits.isEmpty then none
      else some (.ok (.int (Text.valueIn base (Text.plainNumeral digits))), rest)
  | _ => none

/-- A whole number in base ten: only zero starts with a zero. -/
def wholeNumber? (text : List Char) : Option NumberRead :=
  match text with
  | [] => none
  | first :: _ =>
    if first.isDigit then
      let (digits, rest) := takeDigits (if first == '0' then (· == '0') else isDecimal) false text
      if digits.length > digitLimit then
        some (.error ⟨.value, digitLimitMessage digits.length⟩, rest)
      else some (.ok (.int (Text.valueIn 10 (Text.plainNumeral digits))), rest)
    else none

/-- A fraction behind its point: the digits, and what follows them. -/
def takeFraction (text : List Char) : List Char × List Char :=
  match text with
  | '.' :: others =>
    let (digits, rest) := takeDigits isDecimal false others
    if digits.isEmpty then ([], text) else (digits, rest)
  | _ => ([], text)

/-- An exponent: its letter and its sign, its digits, and what follows. -/
def takeExponent? (text : List Char) : Option (List Char × List Char × List Char) :=
  match text with
  | mark :: rest =>
    if mark.toLower == 'e' then
      let (sign, unsigned) := match rest with
        | '-' :: rest => (['-'], rest)
        | '+' :: rest => (['+'], rest)
        | _ => ([], rest)
      let (digits, rest) := takeDigits isDecimal false unsigned
      if digits.isEmpty then none else some (mark :: sign, digits, rest)
    else none
  | [] => none

/-- Why a point number cannot be worked out: its first digit outside ASCII, or that it stands
where an exponent has to start. -/
def strangeDigit? (numeral : List Char) : Option RenderError :=
  let plain := numeral.takeWhile (·.toNat < 128)
  (numeral[plain.length]?).map fun char =>
    if plain.getLast?.any (['e', 'E', '+', '-'].contains ·) then
      ⟨.literal, "invalid decimal literal (<unknown>, line 1)"⟩
    else
      let digits := (Nat.toDigits 16 char.toNat).map Char.toUpper
      let code := String.ofList (List.replicate (4 - digits.length) '0' ++ digits)
      ⟨.literal, "invalid character '" ++ String.singleton char ++ "' (U+" ++ code ++
        ") (<unknown>, line 1)"⟩

/-- A number with a fraction, an exponent or both; only ASCII digits have a value in it. -/
def pointNumber? (text : List Char) : Option NumberRead :=
  let (whole, afterWhole) := takeDigits isDecimal false text
  let (fraction, afterFraction) := takeFraction afterWhole
  if whole.isEmpty then none
  else
    let mantissa := whole ++ (if fraction.isEmpty then [] else '.' :: fraction)
    let read (numeral rest : List Char) : NumberRead :=
      match strangeDigit? numeral with
      | some error => (.error error, rest)
      | none => (.ok (.float ((Text.readDecimal? numeral).getD 0)), rest)
    match takeExponent? afterFraction with
    | some (mark, digits, rest) => some (read (mantissa ++ mark ++ digits) rest)
    | none => if fraction.isEmpty then none else some (read mantissa afterFraction)

/-- The number at the start of a text; no point number stands directly behind a point. -/
def number? (afterPoint : Bool) (text : List Char) : Option NumberRead :=
  (if afterPoint then none else pointNumber? text).or
    ((basedNumber? text).or (wholeNumber? text))

/-! ## Quoted texts -/

/-- The raw content of a quoted text, behind its opening quote, and what follows. -/
def splitQuoted? (mark : Char) : (text : List Char) → Option (List Char × List Char)
  | [] => none
  | '\\' :: char :: rest =>
    (splitQuoted? mark rest).map fun (content, rest) => ('\\' :: char :: content, rest)
  | char :: rest =>
    if char == mark then some ([], rest)
    else if char == '\\' then none
    else (splitQuoted? mark rest).map fun (content, rest) => (char :: content, rest)

/-- The escape of a character outside ASCII, in as few digits as the escapes have. -/
def escapeOf (char : Char) : List Char :=
  let digits := Nat.toDigits 16 char.toNat
  let padded (count : Nat) := List.replicate (count - digits.length) '0' ++ digits
  if char.toNat < 128 then [char]
  else if char.toNat < 0x100 then '\\' :: 'x' :: padded 2
  else if char.toNat < 0x10000 then '\\' :: 'u' :: padded 4
  else '\\' :: 'U' :: padded 8

/-- The character that a one-letter escape stands for. -/
def simpleEscape? : Char → Option Char
  | 'n' => some '\n'
  | 't' => some '\t'
  | 'r' => some '\r'
  | 'a' => some '\x07'
  | 'b' => some '\x08'
  | 'f' => some '\x0c'
  | 'v' => some '\x0b'
  | '\\' => some '\\'
  | '\'' => some '\''
  | '"' => some '"'
  | _ => none

/-- The number of digits of a hexadecimal escape, and how one that is cut short is called. -/
def hexEscape? : Char → Option (Nat × String)
  | 'x' => some (2, "truncated \\xXX escape")
  | 'u' => some (4, "truncated \\uXXXX escape")
  | 'U' => some (8, "truncated \\UXXXXXXXX escape")
  | _ => none

/-- The digits of an octal escape: three at most. -/
def octalDigits (text : List Char) : List Char :=
  (text.take 3).takeWhile fun char => (Text.digitIn? 8 char).isSome

/-- The character that a name in braces stands for, and what follows the braces. -/
def namedCharacter? (text : List Char) : Except Cause (Char × List Char) :=
  match text with
  | '{' :: rest =>
    let name := rest.takeWhile (· != '\x7d')
    if name.isEmpty || name.length == rest.length then
      .error (.badEscape "malformed \\N character escape")
    else match Text.characterNamed? name with
      | some char => .ok (char, rest.drop (name.length + 1))
      | none => .error (.badEscape "unknown Unicode character name")
  | _ => .error (.badEscape "malformed \\N character escape")

/-- The text that the raw content of a quoted text stands for; `fuel` bounds its length. -/
def unescape : (fuel : Nat) → (text : List Char) → Except Cause (List Char)
  | 0, _ => .ok []
  | _ + 1, [] => .ok []
  | fuel + 1, '\\' :: '\n' :: rest => unescape fuel rest
  | fuel + 1, '\\' :: 'N' :: rest => do
    let (char, rest) ← namedCharacter? rest
    return char :: (← unescape fuel rest)
  | fuel + 1, '\\' :: char :: rest =>
    let octal := octalDigits (char :: rest)
    match simpleEscape? char, hexEscape? char with
    | some plain, _ => (unescape fuel rest).map (plain :: ·)
    | none, some (count, truncated) =>
      match Text.hexNumber? count rest with
      | none => .error (.badEscape truncated)
      | some code =>
        if code > 0x10ffff then .error (.badEscape "illegal Unicode character")
        else (unescape fuel (rest.drop count)).map (Char.ofNat code :: ·)
    | none, none =>
      if octal.isEmpty then (unescape fuel rest).map fun content => '\\' :: char :: content
      else (unescape fuel (rest.drop (octal.length - 1))).map
        (Char.ofNat (Text.valueIn 8 octal) :: ·)
  | fuel + 1, char :: rest => (unescape fuel rest).map (char :: ·)

/-- The text that the content of a quoted text stands for. -/
def quotedContent (content : List Char) : Except Cause String :=
  let plain := content.flatMap escapeOf
  (unescape (plain.length + 1) plain).map String.ofList

end Shortcode.Template
