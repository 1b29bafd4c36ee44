import Shortcode.Decimal.Nearest
import Shortcode.Text.Alphanumeric
import Shortcode.Text.Blank
import Shortcode.Text.Search
import Shortcode.Value

/-!
# Arguments of a call

The text between the parentheses of a call is a list of `key=value` pairs.  Blanks and commas
separate pairs, and may be left out where a value ends of itself.  A value is a text in double
quotes, `true`, `false` or a number.  A repeated key keeps its place and takes the last value.
-/

namespace Shortcode

/-- The value of an argument. -/
inductive Scalar where
  | text (content : String)
  | int (number : Int)
  | float (number : Float)
  | bool (flag : Bool)

/-- The argument as a value of a template. -/
def Scalar.toValue : Scalar → Value
  | .text content => .text content
  | .int number => .int number
  | .float number => .float number
  | .bool flag => .bool flag

/-- The arguments of a call, in the order in which their keys first appear. -/
abbrev Arguments := List (String × Scalar)

/-- What is wrong with a pair. -/
inductive ArgumentProblem where
  | missingName
  | missingEquals
  | missingValue
  | unclosedText
  | invalidValue
deriving DecidableEq, Repr

/-- Why a list of arguments could not be read. -/
inductive ArgumentError where
  /-- The pair with this key is malformed. -/
  | malformed (key : String) (problem : ArgumentProblem)
  /-- A whole number has more digits than are ever converted. -/
  | tooManyDigits (count : Nat)
deriving DecidableEq, Repr

/-- The least and the greatest whole number that an argument may have. -/
def integerRange : Int × Int := (-9223372036854775808, 9223372036854775807)

namespace Arguments

/-- Sets an argument: a new key goes to the end, a known one keeps its place. -/
def insert (key : String) (content : Scalar) : Arguments → Arguments
  | [] => [(key, content)]
  | entry :: rest =>
    if entry.1 == key then (key, content) :: rest else entry :: insert key content rest

/-- A character between two pairs. -/
def isSeparator (char : Char) : Bool := Text.isBlank char || char == ','

/-- A character of a key. -/
def isKeyChar (char : Char) : Bool := !(char == '=' || char == ',' || Text.isBlank char)

/-- A character that would continue a word. -/
def isWordChar (char : Char) : Bool := Text.isAlphanumeric char || char == '_'

/-- Reads a text behind its opening quote, and what follows the closing one.  A backslash before a
quote or a backslash stands for that character; before any other it is part of the text. -/
def readText? : (text : List Char) → Option (List Char × List Char)
  | [] => none
  | '"' :: rest => some ([], rest)
  | '\\' :: char :: rest =>
    let decoded := if char == '"' || char == '\\' then [char] else ['\\', char]
    (readText? rest).map fun (content, rest) => (decoded ++ content, rest)
  | char :: rest => (readText? rest).map fun (content, rest) => (char :: content, rest)

/-- What follows a word, if the text starts with it and it does not go on. -/
def dropWord? (word : String) (text : List Char) : Option (List Char) :=
  match Text.dropLead? word.toList text with
  | some (char :: rest) => if isWordChar char then none else some (char :: rest)
  | other => other

/-- The longest start of the text made of digits with at most one point among them. -/
def numeralLength : (pointSeen : Bool) → (text : List Char) → Nat
  | _, [] => 0
  | pointSeen, char :: rest =>
    if char == '.' then if pointSeen then 0 else numeralLength true rest + 1
    else if char.isDigit then numeralLength pointSeen rest + 1
    else 0

/-- The number that a row of digits stands for. -/
def digitsValue (digits : List Char) : Nat :=
  digits.foldl (fun number digit => 10 * number + (digit.toNat - '0'.toNat)) 0

/-- The number nearest to a numeral with a point, which needs at least one digit. -/
def pointValue? (negative : Bool) (numeral : List Char) : Option Float :=
  let (whole, fraction) := (numeral.takeWhile (· != '.'), (numeral.dropWhile (· != '.')).drop 1)
  if whole.isEmpty && fraction.isEmpty then none
  else
    let size := Decimal.ofScientific (digitsValue (whole ++ fraction)) (-fraction.length)
    some (if negative then -size else size)

/-- The whole number that a row of digits stands for, unless it is out of range. -/
def wholeValue? (negative : Bool) (numeral : List Char) : Option Int :=
  let size := digitsValue numeral
  let number : Int := if negative then -(size : Int) else size
  if integerRange.1 ≤ number && number ≤ integerRange.2 then some number else none

/-- The number that a numeral stands for, if it stands for one. -/
def numeralValue? (negative : Bool) (numeral : List Char) :
    Except ArgumentError (Option Scalar) :=
  if numeral.isEmpty then .ok none
  else if numeral.contains '.' then .ok ((pointValue? negative numeral).map .float)
  else if numeral.length > digitLimit then .error (.tooManyDigits numeral.length)
  else .ok ((wholeValue? negative numeral).map .int)

/-- The sign of a number, which is negative if the text starts with a hyphen, and what follows. -/
def splitSign : (text : List Char) → Bool × List Char
  | '-' :: rest => (true, rest)
  | text => (false, text)

/-- Reads a number and what follows it. -/
def readNumber? (text : List Char) : Except ArgumentError (Option (Scalar × List Char)) :=
  let (negative, unsigned) := splitSign text
  let length := numeralLength false unsigned
  (numeralValue? negative (unsigned.take length)).map fun number =>
    number.map fun number => (number, unsigned.drop length)

/-- Reads the value of an argument and what follows it. -/
def readValue (key : String) (text : List Char) : Except ArgumentError (Scalar × List Char) :=
  match text with
  | '"' :: rest => match readText? rest with
    | some (content, rest) => .ok (.text (String.ofList content), rest)
    | none => .error (.malformed key .unclosedText)
  | _ => match dropWord? "true" text with
    | some rest => .ok (.bool true, rest)
    | none => match dropWord? "false" text with
      | some rest => .ok (.bool false, rest)
      | none => match readNumber? text with
        | .ok (some found) => .ok found
        | .ok none => .error (.malformed key .invalidValue)
        | .error error => .error error

/-- Reads one pair, the separators before it aside, and what follows it. -/
def readPair (text : List Char) : Except ArgumentError ((String × Scalar) × List Char) :=
  let key := String.ofList (text.takeWhile isKeyChar)
  if key.isEmpty then .error (.malformed key .missingName)
  else match Text.trimStart (text.dropWhile isKeyChar) with
    | '=' :: rest => match Text.trimStart rest with
      | [] => .error (.malformed key .missingValue)
      | valueText => (readValue key valueText).map fun (content, rest) => ((key, content), rest)
    | _ => .error (.malformed key .missingEquals)

theorem length_trimStart_le (text : List Char) : (Text.trimStart text).length ≤ text.length :=
  (List.dropWhile_sublist _).length_le

theorem length_dropLead {lead text rest : List Char}
    (found : Text.dropLead? lead text = some rest) :
    text.length = lead.length + rest.length := by
  induction lead generalizing text with
  | nil => simp_all [Text.dropLead?]
  | cons expected lead ih =>
    cases text with
    | nil => simp [Text.dropLead?] at found
    | cons char text =>
      simp only [Text.dropLead?] at found
      split at found
      · have shorter := ih found
        simp only [List.length_cons]
        omega
      · simp at found

theorem length_dropWord {word : String} {text rest : List Char}
    (found : dropWord? word text = some rest) : rest.length ≤ text.length := by
  unfold dropWord? at found
  split at found
  · rename_i char tail lead
    have shorter := length_dropLead lead
    split at found
    · simp at found
    · cases found
      simp only [List.length_cons] at shorter ⊢
      omega
  · have shorter := length_dropLead found
    omega

theorem length_readText {text content rest : List Char}
    (found : readText? text = some (content, rest)) : rest.length < text.length := by
  fun_induction readText? text generalizing content with
  | case1 => simp at found
  | case2 => simp_all
  | case3 =>
    rename_i ih
    obtain ⟨⟨inner, last⟩, found, equal⟩ := Option.map_eq_some_iff.1 found
    cases equal
    have shorter := ih found
    simp only [List.length_cons]
    omega
  | case4 =>
    rename_i ih
    obtain ⟨⟨inner, last⟩, found, equal⟩ := Option.map_eq_some_iff.1 found
    cases equal
    have shorter := ih found
    simp only [List.length_cons]
    omega

theorem length_splitSign_le (text : List Char) : (splitSign text).2.length ≤ text.length := by
  unfold splitSign
  split <;> simp

theorem length_readNumber {text rest : List Char} {content : Scalar}
    (found : readNumber? text = .ok (some (content, rest))) : rest.length ≤ text.length := by
  have signed := length_splitSign_le text
  unfold readNumber? at found
  dsimp only at found
  cases value : numeralValue? (splitSign text).1
      ((splitSign text).2.take (numeralLength false (splitSign text).2)) with
  | error error => simp [value, Except.map] at found
  | ok number =>
    simp only [value, Except.map, Except.ok.injEq] at found
    obtain ⟨number, _, equal⟩ := Option.map_eq_some_iff.1 found
    cases equal
    simp only [List.length_drop]
    omega

theorem length_readValue {key : String} {text rest : List Char} {content : Scalar}
    (found : readValue key text = .ok (content, rest)) : rest.length ≤ text.length := by
  unfold readValue at found
  split at found
  · split at found
    · rename_i read
      cases found
      have shorter := length_readText read
      simp only [List.length_cons]
      omega
    · simp at found
  · split at found
    · rename_i read
      cases found
      exact length_dropWord read
    · split at found
      · rename_i read
        cases found
        exact length_dropWord read
      · split at found
        · rename_i read
          cases found
          exact length_readNumber read
        · simp at found
        · simp at found

theorem length_readPair {text rest : List Char} {pair : String × Scalar}
    (found : readPair text = .ok (pair, rest)) : rest.length < text.length := by
  unfold readPair at found
  dsimp only at found
  split at found
  · simp at found
  · split at found
    · rename_i tail trimmed
      have outer := length_trimStart_le (text.dropWhile isKeyChar)
      have dropped := (List.dropWhile_sublist isKeyChar (l := text)).length_le
      rw [trimmed] at outer
      simp only [List.length_cons] at outer
      split at found
      · simp at found
      · have inner := length_trimStart_le tail
        cases read : readValue (String.ofList (text.takeWhile isKeyChar)) (Text.trimStart tail) with
        | error error => simp [read, Except.map] at found
        | ok value =>
          have shorter := length_readValue read
          simp only [read, Except.map, Except.ok.injEq, Prod.mk.injEq] at found
          rw [← found.2]
          omega
    · simp at found

/-- Reads the pairs of a text and sets them one after the other in `found`. -/
def readFrom (found : Arguments) (text : List Char) : Except ArgumentError Arguments :=
  let start := text.dropWhile isSeparator
  if start.isEmpty then .ok found
  else match _read : readPair start with
    | .ok (pair, rest) => readFrom (found.insert pair.1 pair.2) rest
    | .error error => .error error
termination_by text.length
decreasing_by
  have shorter := length_readPair _read
  exact Nat.lt_of_lt_of_le shorter (List.dropWhile_sublist isSeparator).length_le

/-- Reads a list of arguments, up to the first malformed pair. -/
def read (text : List Char) : Except ArgumentError Arguments := readFrom [] text

end Arguments

end Shortcode
