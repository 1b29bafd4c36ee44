import Shortcode.Fault
import Shortcode.Text.Base64
import Shortcode.Text.Case
import Shortcode.Text.Numeral
import Shortcode.Text.Quoted
import Shortcode.Yaml.Written

/-!
# What a YAML scalar stands for

A plain scalar is a flag, a number, a date or nothing if it has the form of one, and a text
otherwise.  Whole numbers may be written in base 2, 8, 10 and 16, and to the base 60 with colons.
A scalar whose kind is given by a tag need not have the form of its kind: its value is read as far
as its text is any number, flag or date.
-/

namespace Shortcode.Yaml

/-- The kinds of a node. -/
inductive Tag where
  | null
  | bool
  | int
  | float
  | timestamp
  | text
  /-- Bytes in base 64. -/
  | binary
  /-- The key that merges another mapping. -/
  | merge
  /-- The key of a default value. -/
  | default
  | sequence
  | mapping
  /-- A sequence of mappings with one entry each. -/
  | pairs
  /-- A mapping that only its keys count of. -/
  | set
  | unknown (name : String)
deriving DecidableEq, Repr

/-- Why a scalar has no value of its kind. -/
inductive ScalarError where
  | calendar (error : CalendarError)
  /-- A text that is no whole number in a base. -/
  | badInteger (base : Nat) (text : String)
  | tooManyDigits (count : Nat)
  | badFloat (text : String)
  /-- A number without any character. -/
  | emptyNumber
  /-- A word that is neither true nor false. -/
  | unknownFlag (word : String)
  /-- A text that is neither a date nor a moment. -/
  | noTimestamp
  /-- A date or a moment that is a mapping. -/
  | mappedTimestamp
  /-- An escape with a number above those of all characters. -/
  | noCharacter
  /-- An escape with a number above every one that is looked at. -/
  | hugeCharacter
  /-- A number to the base 60 with more parts than a floating-point number can hold. -/
  | hugeBase
deriving DecidableEq, Repr

/-- Why a text could not be loaded. -/
inductive LoadError where
  /-- The text is not YAML, or holds what values cannot be made of. -/
  | malformed
  | scalar (error : ScalarError)
deriving DecidableEq, Repr

/-- The most characters of a malformed whole number that a message shows, its quotes included. -/
def shownNumeralLength : Nat := 200

/-- The wording of an error. -/
def ScalarError.message : ScalarError → String
  | .calendar error => error.message
  | .badInteger base text =>
    s!"invalid literal for int() with base {base}: " ++
      String.ofList ((Text.quoted text.toList).take shownNumeralLength)
  | .tooManyDigits count => digitLimitMessage count
  | .badFloat text => "could not convert string to float: " ++
      String.ofList (Text.quoted text.toList)
  | .emptyNumber => "string index out of range"
  | .unknownFlag word => String.ofList (Text.quoted word.toList)
  | .noTimestamp => "'NoneType' object has no attribute 'groupdict'"
  | .mappedTimestamp => "expected string or bytes-like object, got 'list'"
  | .noCharacter => "chr() arg not in range(0x110000)"
  | .hugeCharacter => "Python int too large to convert to C int"
  | .hugeBase => "int too large to convert to float"

/-- The name of the kind of an error. -/
def ScalarError.kind : ScalarError → String
  | .emptyNumber => "IndexError"
  | .unknownFlag _ => "KeyError"
  | .noTimestamp => "AttributeError"
  | .mappedTimestamp => "TypeError"
  | .hugeCharacter | .hugeBase => "OverflowError"
  | _ => "ValueError"

/-- The error of an escape with the number of no character. -/
def ScalarError.ofCode (code : Nat) : ScalarError :=
  if code < 0x80000000 then .noCharacter else .hugeCharacter

/-- The kind that a full tag names. -/
def Tag.ofName (name : String) : Tag :=
  let known := [
    ("null", Tag.null), ("bool", .bool), ("int", .int), ("float", .float),
    ("timestamp", .timestamp), ("str", .text), ("binary", .binary), ("seq", .sequence),
    ("map", .mapping), ("omap", .pairs), ("pairs", .pairs), ("set", .set), ("merge", .merge),
    ("value", .default)]
  match Text.dropLead? "tag:yaml.org,2002:".toList name.toList with
  | some suffix => (known.lookup (String.ofList suffix)).getD (.unknown name)
  | none => .unknown name

/-- The words for true. -/
def trueWords : List String := ["yes", "Yes", "YES", "true", "True", "TRUE", "on", "On", "ON"]

/-- The words for false. -/
def falseWords : List String :=
  ["no", "No", "NO", "false", "False", "FALSE", "off", "Off", "OFF"]

/-- The words for nothing. -/
def nullWords : List String := ["", "~", "null", "Null", "NULL"]

/-- A digit or an underscore. -/
def isDigitOrLine (char : Char) : Bool := char.isDigit || char == '_'

/-- A row of digits and underscores that starts with a digit. -/
def isDigitRow (text : List Char) : Bool :=
  text.all isDigitOrLine && text.head?.any Char.isDigit

/-- A number below sixty in one or two digits. -/
def isSixtieth (text : List Char) : Bool :=
  match text with
  | [unit] => unit.isDigit
  | [ten, unit] => '0' ≤ ten && ten ≤ '5' && unit.isDigit
  | _ => false

/-- The text has the form of a whole number. -/
def isInt (text : List Char) : Bool :=
  let (_, body) := Text.splitSign text
  match body with
  | '0' :: 'b' :: digits =>
    !digits.isEmpty && digits.all fun char => char == '0' || char == '1' || char == '_'
  | '0' :: 'x' :: digits =>
    !digits.isEmpty && digits.all fun char => (Text.hexDigit? char).isSome || char == '_'
  | '0' :: digits => digits.all fun char => ('0' ≤ char && char ≤ '7') || char == '_'
  | _ =>
    match Text.fields ':' body with
    | first :: others => isDigitRow first && others.all isSixtieth
    | [] => false

/-- The text is empty or an exponent with its sign. -/
def isExponent (text : List Char) : Bool :=
  match text with
  | [] => true
  | mark :: sign :: digits =>
    (mark == 'e' || mark == 'E') && (sign == '-' || sign == '+') &&
      !digits.isEmpty && digits.all Char.isDigit
  | _ => false

/-- The text has the form of a number with a point. -/
def isFloat (text : List Char) : Bool :=
  let (_, body) := Text.splitSign text
  let signed := body.length < text.length
  if [".inf", ".Inf", ".INF"].contains (String.ofList body) then true
  else if [".nan", ".NaN", ".NAN"].contains (String.ofList text) then true
  else
    let whole := body.takeWhile (· != '.')
    match body.drop whole.length with
    | [] => false
    | _ :: rest =>
      let exponent := rest.dropWhile isDigitOrLine
      if whole.isEmpty then !signed && rest.head?.any Char.isDigit && isExponent exponent
      else match Text.fields ':' whole with
        | [digits] => isDigitRow digits && isExponent exponent
        | first :: others => isDigitRow first && others.all isSixtieth && exponent.isEmpty
        | [] => false

/-- The number that one or two digits stand for, and what follows. -/
def shortNumber? : (text : List Char) → Option (Nat × List Char)
  | first :: second :: rest =>
    if first.isDigit && second.isDigit then
      some (Arguments.digitsValue [first, second], rest)
    else if first.isDigit then some (Arguments.digitsValue [first], second :: rest)
    else none
  | [first] => if first.isDigit then some (Arguments.digitsValue [first], []) else none
  | [] => none

/-- The number that two digits stand for, and what follows. -/
def twoDigits? : (text : List Char) → Option (Nat × List Char)
  | first :: second :: rest =>
    if first.isDigit && second.isDigit then
      some (Arguments.digitsValue [first, second], rest)
    else none
  | _ => none

/-- What follows a character, if the text starts with it. -/
def after? (char : Char) : (text : List Char) → Option (List Char)
  | [] => none
  | first :: rest => if first == char then some rest else none

/-- The offset of a clock in minutes, or nothing for a time without one. -/
def clock? (text : List Char) : Option (Option Int) :=
  match text with
  | [] => some none
  | _ =>
    match text.dropWhile fun char => char == ' ' || char == '\t' with
    | ['Z'] => some (some 0)
    | sign :: rest =>
      if sign == '-' || sign == '+' then do
        let (hours, rest) ← shortNumber? rest
        let minutes ← match rest with
          | [] => some 0
          | ':' :: digits => match twoDigits? digits with
            | some (minutes, []) => some minutes
            | _ => none
          | _ => none
        let size : Int := 60 * hours + minutes
        return some (if sign == '-' then -size else size)
      else none
    | [] => none

/-- Reads a date, with a time of day if one follows. -/
def timestamp? (text : List Char) : Option (Date ⊕ Moment) := do
  let year := text.take 4
  if year.length != 4 || !year.all Char.isDigit then none
  let rest ← after? '-' (text.drop 4)
  let (month, rest) ← shortNumber? rest
  let monthRest ← after? '-' rest
  let (day, rest) ← shortNumber? monthRest
  let date : Date := ⟨Arguments.digitsValue year, month, day⟩
  match rest with
  | [] => some (.inl date)
  | mark :: others =>
    let isBlank (char : Char) : Bool := char == ' ' || char == '\t'
    let timeText := if mark == 'T' || mark == 't' then others else others.dropWhile isBlank
    if !(mark == 'T' || mark == 't' || isBlank mark) then none
    let (hour, rest) ← shortNumber? timeText
    let (minute, rest) ← twoDigits? (← after? ':' rest)
    let (second, rest) ← twoDigits? (← after? ':' rest)
    let (fraction, rest) := match rest with
      | '.' :: digits => (digits.takeWhile Char.isDigit, digits.dropWhile Char.isDigit)
      | _ => ([], rest)
    let micro := fraction.take 6
    let microsecond :=
      Arguments.digitsValue (micro ++ List.replicate (6 - micro.length) '0')
    let offset ← clock? rest
    some (.inr ⟨date, hour, minute, second, microsecond, offset⟩)

/-- The text has the form of a date, with two digits for month and day, or of a moment. -/
def isTimestamp (text : List Char) : Bool :=
  match timestamp? text with
  | some (.inl _) => text.length == 10
  | some (.inr _) => true
  | none => false

/-- The text without a line end at its end. -/
def dropLineEnd (text : List Char) : List Char :=
  if text.getLast? == some '\n' then text.dropLast else text

/-- What a plain scalar is.  A line end behind it does not matter. -/
def Tag.ofPlain (content : String) : Tag :=
  let text := dropLineEnd content.toList
  let word := String.ofList text
  if trueWords.contains word || falseWords.contains word then .bool
  else if content.isEmpty || (!word.isEmpty && nullWords.contains word) then .null
  else if isFloat text then .float
  else if isInt text then .int
  else if word == "<<" then .merge
  else if word == "=" then .default
  else if isTimestamp text then .timestamp
  else .text

/-- The whole number that a text is in a base. -/
def inBase (base : Nat) (text : List Char) : Except ScalarError Int :=
  (Text.readInt digitLimit base text).mapError fun
    | .malformed => .badInteger base (String.ofList text)
    | .tooManyDigits count => .tooManyDigits count

/-- The whole number that a text stands for. -/
def intValue (text : List Char) : Except ScalarError Int := do
  let (negative, body) := Text.splitSign (text.filter (· != '_'))
  let size ← match body with
    | [] => .error .emptyNumber
    | ['0'] => pure 0
    | '0' :: 'b' :: digits => inBase 2 digits
    | '0' :: 'x' :: digits => inBase 16 digits
    | '0' :: _ => inBase 8 body
    | _ => do
      let parts ← (Text.fields ':' body).mapM (inBase 10)
      pure (parts.foldl (60 * · + ·) 0)
  return if negative then -size else size

/-- The floating-point number that a text is. -/
def decimalValue (text : List Char) : Except ScalarError Float :=
  match Text.readFloat? text with
  | some number => .ok number
  | none => .error (.badFloat (String.ofList text))

/-- The sum of parts to the base 60, the smallest part first, from a power of the base on. -/
def sixtiethsFrom (base : Nat) (total : Float) : (parts : List Float) → Except ScalarError Float
  | [] => .ok total
  | part :: rest =>
    match Decimal.nearest? base 1 with
    | some factor => sixtiethsFrom (60 * base) (total + part * factor) rest
    | none => .error .hugeBase

/-- The floating-point number that a text stands for. -/
def floatValue (text : List Char) : Except ScalarError Float := do
  let written := Text.lower (text.filter (· != '_'))
  let (negative, body) := Text.splitSign written
  let size ←
    if written.isEmpty then .error .emptyNumber
    else if body == ".inf".toList then pure (1.0 / 0.0)
    else if body == ".nan".toList then pure (0.0 / 0.0)
    else
      match ← (Text.fields ':' body).mapM decimalValue with
      | [only] => pure only
      | parts => sixtiethsFrom 1 0.0 parts.reverse
  return if negative then -size else size

/-- The flag that a word stands for. -/
def flagValue (content : String) : Except ScalarError Bool :=
  let word := String.ofList (Text.lower content.toList)
  if trueWords.contains word then .ok true
  else if falseWords.contains word then .ok false
  else .error (.unknownFlag word)

/-- The date or the moment that a text stands for. -/
def timestampValue (text : List Char) : Except ScalarError Value :=
  match timestamp? (dropLineEnd text) with
  | some (.inl date) => (date.valid.map Value.date).mapError .calendar
  | some (.inr moment) => (moment.valid.map Value.moment).mapError .calendar
  | none => .error .noTimestamp

/-- The bytes that a text in base 64 stands for. -/
def binaryValue (text : List Char) : Except LoadError Value :=
  match if text.all (·.toNat < 0x80) then Text.Base64.decode? text else none with
  | some bytes =>
    .ok (.object "bytes" (String.ofList (Text.quotedBytes bytes)) []
      (some (bytes.map fun byte => .int (Int.ofNat byte))))
  | none => .error .malformed

/-- The value of a scalar of a kind. -/
def scalarValue (tag : Tag) (content : String) : Except LoadError Value :=
  match tag with
  | .null => .ok .null
  | .text => .ok (.text content)
  | .bool => ((flagValue content).map .bool).mapError .scalar
  | .int => ((intValue content.toList).map .int).mapError .scalar
  | .float => ((floatValue content.toList).map .float).mapError .scalar
  | .timestamp => (timestampValue content.toList).mapError .scalar
  | .binary => binaryValue content.toList
  | _ => .error .malformed

end Shortcode.Yaml
