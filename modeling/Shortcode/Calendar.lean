/-!
# Days and moments

A day of the calendar and a moment of a day, with the offset of its clock where one is known.
`Date.valid` and `Moment.valid` name the first part that is out of range.  Two moments with known
offsets are the same when they are the same instant.
-/

namespace Shortcode

/-- A day of the calendar. -/
structure Date where
  year : Nat
  month : Nat
  day : Nat
deriving DecidableEq, Repr

/-- A moment, with its clock's offset in minutes if one is known. -/
structure Moment where
  date : Date
  hour : Nat
  minute : Nat
  second : Nat
  microsecond : Nat
  offset : Option Int
deriving DecidableEq, Repr

/-- The part of a written date or moment that is out of range. -/
inductive CalendarError where
  | year (number : Nat)
  | month
  | day
  | hour
  | minute
  | second
  | offset (minutes : Int)
deriving DecidableEq, Repr

/-- A year with a 29th of February. -/
def isLeapYear (year : Nat) : Bool :=
  year % 4 == 0 && (year % 100 != 0 || year % 400 == 0)

/-- The number of days of a month. -/
def monthLength (year month : Nat) : Nat :=
  if month == 2 then if isLeapYear year then 29 else 28
  else if [4, 6, 9, 11].contains month then 30 else 31

/-- The date itself, if its parts are in range. -/
def Date.valid (date : Date) : Except CalendarError Date :=
  if date.year == 0 || date.year > 9999 then .error (.year date.year)
  else if date.month == 0 || date.month > 12 then .error .month
  else if date.day == 0 || date.day > monthLength date.year date.month then .error .day
  else .ok date

/-- The moment itself, if its parts are in range. -/
def Moment.valid (moment : Moment) : Except CalendarError Moment := do
  if let some minutes := moment.offset then
    if minutes.natAbs ≥ 1440 then throw (.offset minutes)
  let _ ← moment.date.valid
  if moment.hour > 23 then throw .hour
  if moment.minute > 59 then throw .minute
  if moment.second > 59 then throw .second
  return moment

/-- The number of days up to the end of the year before. -/
def daysBefore (year : Nat) : Nat :=
  let years := year - 1
  365 * years + years / 4 - years / 100 + years / 400

/-- The number of a day, counted from the first day of the first year. -/
def Date.number (date : Date) : Nat :=
  let months := (List.range date.month).drop 1
  months.foldl (fun days month => days + monthLength date.year month) (daysBefore date.year) +
    date.day

/-- The microseconds up to a moment, as its own clock shows them. -/
def Moment.shownInstant (moment : Moment) : Int :=
  let minutes := (moment.date.number * 24 + moment.hour) * 60 + moment.minute
  Int.ofNat ((minutes * 60 + moment.second) * 1000000 + moment.microsecond)

/-- Whether two moments are one: with two known offsets the same instant, else the same parts. -/
def Moment.same (left right : Moment) : Bool :=
  match left.offset, right.offset with
  | some first, some second =>
    left.shownInstant - first * 60000000 == right.shownInstant - second * 60000000
  | _, _ => left == right

/-- The number with zeros in front up to `width` digits. -/
def padded (width number : Nat) : String :=
  let digits := Nat.toDigits 10 number
  String.ofList (List.replicate (width - digits.length) '0' ++ digits)

/-- Year, month and day, with hyphens between. -/
def Date.text (date : Date) : String :=
  s!"{padded 4 date.year}-{padded 2 date.month}-{padded 2 date.day}"

/-- The offset of a clock, as a sign, hours and minutes. -/
def offsetText (minutes : Int) : String :=
  let size := minutes.natAbs
  (if minutes < 0 then "-" else "+") ++ padded 2 (size / 60) ++ ":" ++ padded 2 (size % 60)

/-- Date and time of day, with `separator` between. -/
def Moment.text (moment : Moment) (separator : String) : String :=
  let time := s!"{padded 2 moment.hour}:{padded 2 moment.minute}:{padded 2 moment.second}"
  let fraction := if moment.microsecond == 0 then "" else "." ++ padded 6 moment.microsecond
  moment.date.text ++ separator ++ time ++ fraction ++ (moment.offset.map offsetText).getD ""

/-- What is wrong with a date or moment. -/
def CalendarError.message : CalendarError → String
  | .year number => s!"year {number} is out of range"
  | .month => "month must be in 1..12"
  | .day => "day is out of range for month"
  | .hour => "hour must be in 0..23"
  | .minute => "minute must be in 0..59"
  | .second => "second must be in 0..59"
  | .offset minutes =>
    let days := minutes / 1440
    let seconds := minutes % 1440 * 60
    let parts := (if days == 0 then [] else [s!"days={days}"]) ++
      (if seconds == 0 then [] else [s!"seconds={seconds}"])
    "offset must be a timedelta strictly between -timedelta(hours=24) and " ++
      "timedelta(hours=24), not datetime.timedelta(" ++ ", ".intercalate parts ++ ")."

end Shortcode
