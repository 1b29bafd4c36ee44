import Shortcode.Decimal.Shortest
import Shortcode.Text.Quoted
import Shortcode.Value

/-!
# The text of a value

`Value.display` is the text that a template prints.  A text stands for itself; inside a list or a
mapping every value is shown as `Value.shown` writes it, a text in quotes.  Whole numbers with more
than `digitLimit` digits are never written out: `Value.written` has no text for them.
-/

namespace Shortcode

/-- The limit on whole numbers in words. -/
def digitLimitWords : String :=
  s!"Exceeds the limit ({digitLimit} digits) for integer string conversion"

/-- What may be done about the limit on whole numbers. -/
def digitLimitAdvice : String := "use sys.set_int_max_str_digits() to increase the limit"

/-- The wording of a numeral with too many digits. -/
def digitLimitMessage (count : Nat) : String :=
  digitLimitWords ++ s!": value has {count} digits; " ++ digitLimitAdvice

/-- Why a value cannot be written. -/
inductive TooLong where
  /-- A whole number in it has too many digits. -/
  | number
deriving DecidableEq, Repr

/-- The wording of a value that is too long to be written. -/
def TooLong.message : TooLong → String
  | .number => digitLimitWords ++ "; " ++ digitLimitAdvice

namespace Value

/-- Numbers have no exponent from `0.0001` up to but not including `10 ^ 16`. -/
def floatFormat : Decimal.Format := ⟨-4, 16, 2⟩

/-- The fewest digits that read back, with at least one place after the point. -/
def floatText (number : Float) : String :=
  match Decimal.decode number with
  | .invalid => "nan"
  | .infinite negative => if negative then "-inf" else "inf"
  | .finite binary =>
    (if binary.negative then "-" else "") ++ floatFormat.render binary.shortest

/-- A date as it is shown inside a collection. -/
def shownDate (date : Date) : String :=
  s!"datetime.date({date.year}, {date.month}, {date.day})"

/-- The clock of a moment as it is shown inside a collection. -/
def shownOffset (minutes : Int) : String :=
  if minutes == 0 then "datetime.timezone.utc"
  else
    let days := minutes / 1440
    let seconds := minutes % 1440 * 60
    let parts := (if days == 0 then [] else [s!"days={days}"]) ++
      (if seconds == 0 then [] else [s!"seconds={seconds}"])
    "datetime.timezone(datetime.timedelta(" ++ ", ".intercalate parts ++ "))"

/-- A moment as it is shown inside a collection: trailing zero seconds are left out. -/
def shownMoment (moment : Moment) : String :=
  let date := moment.date
  let seconds :=
    if moment.microsecond != 0 then [moment.second, moment.microsecond]
    else if moment.second != 0 then [moment.second] else []
  let numbers := [date.year, date.month, date.day, moment.hour, moment.minute] ++ seconds
  let parts := numbers.map Nat.repr ++
    (moment.offset.map fun minutes => "tzinfo=" ++ shownOffset minutes).toList
  "datetime.datetime(" ++ ", ".intercalate parts ++ ")"

/-- A text in quotes. -/
def quotedText (content : String) : String := String.ofList (Text.quoted content.toList)

/-- The row of one item ends with a comma. -/
def tupleEnd (count : Nat) : String := if count == 1 then ",)" else ")"

/-- A part of the text of a collection: a text, or the number of a collection in it. -/
abbrev Piece := String ⊕ Nat

/-- The text of the collection of a number, from the parts of the texts of all.  Inside of itself a
collection is only hinted at.  `within` are the collections around, and `fuel` bounds their
number. -/
def assembled (looks : List (Nat × Value × List Piece)) : (fuel : Nat) → (within : List Nat) →
    (place : Nat) → String
  | 0, _, _ => ""
  | fuel + 1, within, place =>
    match looks.lookup place with
    | none => ""
    | some (body, pieces) =>
      if within.contains place then
        match body with
        | .map _ => "\x7b...\x7d"
        | _ => "[...]"
      else
        let part : Piece → String
          | .inl part => part
          | .inr other => assembled looks fuel (place :: within) other
        String.join (pieces.map part)

/-- A value that is no collection, as it is shown inside a collection. -/
def shownAlone : Value → String
  | .null => "None"
  | .bool flag => if flag then "True" else "False"
  | .int number => Int.repr number
  | .float number => floatText number
  | .text content => quotedText content
  | .date day => shownDate day
  | .moment time => shownMoment time
  | .markup content => "Markup(" ++ quotedText content ++ ")"
  | .missing _ => "Undefined"
  | .operation subject name =>
    "<built-in method " ++ name ++ " of " ++ subject.kindWord ++ " object>"
  | .object _ look _ _ => look
  | _ => ""

mutual

/-- A value as it is shown inside a collection. -/
def shown : Value → String
  | .list items => "[" ++ shownItems items ++ "]"
  | .map entries => "\x7b" ++ shownEntries entries ++ "\x7d"
  | .tuple items => "(" ++ shownItems items ++ tupleEnd items.length
  | .cycle bodies place => assembled (looks bodies) (bodies.length + 1) [] place
  | other => shownAlone other

/-- The items of a list, with commas between. -/
def shownItems : List Value → String
  | [] => ""
  | [item] => shown item
  | item :: next :: rest => shown item ++ ", " ++ shownItems (next :: rest)

/-- The entries of a mapping, with commas between. -/
def shownEntries : List (Value × Value) → String
  | [] => ""
  | [(key, content)] => shown key ++ ": " ++ shown content
  | (key, content) :: next :: rest =>
    shown key ++ ": " ++ shown content ++ ", " ++ shownEntries (next :: rest)

/-- The parts of the texts of collections, by their numbers. -/
def looks : List (Nat × Value) → List (Nat × Value × List Piece)
  | [] => []
  | (place, body) :: rest => (place, body, pieces body) :: looks rest

/-- The parts of the text of a value in which collections stand as numbers. -/
def pieces : Value → List Piece
  | .list items => .inl "[" :: itemPieces items ++ [.inl "]"]
  | .map entries => .inl "\x7b" :: entryPieces entries ++ [.inl "\x7d"]
  | .tuple items => .inl "(" :: itemPieces items ++ [.inl (tupleEnd items.length)]
  | .cycle _ place => [.inr place]
  | other => [.inl (shownAlone other)]

/-- The parts of the texts of items, with commas between. -/
def itemPieces : List Value → List Piece
  | [] => []
  | [item] => pieces item
  | item :: next :: rest => pieces item ++ .inl ", " :: itemPieces (next :: rest)

/-- The parts of the texts of entries, with commas between. -/
def entryPieces : List (Value × Value) → List Piece
  | [] => []
  | [(key, content)] => pieces key ++ .inl ": " :: pieces content
  | (key, content) :: next :: rest =>
    pieces key ++ .inl ": " :: pieces content ++ .inl ", " :: entryPieces (next :: rest)

end

/-- The text that stands for a value. -/
def display : Value → String
  | .text content => content
  | .markup content => content
  | .date day => day.text
  | .moment time => time.text " "
  | other => other.shown

/-- The text that stands for a value, if no whole number in it is too long. -/
def written (content : Value) : Except TooLong String :=
  if content.exceeds digitLimit then .error .number else .ok content.display

end Value

end Shortcode
