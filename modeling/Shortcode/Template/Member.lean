import Shortcode.Template.Use

/-!
# Members and items

A value has operations and parts under fixed names, by its kind, and a collection has items under
indices or keys.  `Value.member` looks for a name among the operations and parts before it looks
among the items, `Value.item` the other way round; what neither finds is missing.
-/

namespace Shortcode.Value

open Template

/-! ## Operations and parts -/

/-- The operations of a text. -/
def textOperations : List String :=
  ["capitalize", "casefold", "center", "count", "encode", "endswith", "expandtabs", "find",
    "format", "format_map", "index", "isalnum", "isalpha", "isascii", "isdecimal", "isdigit",
    "isidentifier", "islower", "isnumeric", "isprintable", "isspace", "istitle", "isupper", "join",
    "ljust", "lower", "lstrip", "maketrans", "partition", "removeprefix", "removesuffix",
    "replace", "rfind", "rindex", "rjust", "rpartition", "rsplit", "rstrip", "split", "splitlines",
    "startswith", "strip", "swapcase", "title", "translate", "upper", "zfill"]

/-- The further operations of markup. -/
def markupOperations : List String :=
  ["escape", "striptags", "unescape", "__html__", "__html_format__"]

/-- The operations of a list. -/
def listOperations : List String :=
  ["append", "clear", "copy", "count", "extend", "index", "insert", "pop", "remove", "reverse",
    "sort"]

/-- The operations of a row and of a range. -/
def rowOperations : List String := ["count", "index"]

/-- The operations of a mapping. -/
def mapOperations : List String :=
  ["clear", "copy", "fromkeys", "get", "items", "keys", "pop", "popitem", "setdefault", "update",
    "values"]

/-- The operations of a whole number. -/
def intOperations : List String :=
  ["as_integer_ratio", "bit_count", "bit_length", "conjugate", "from_bytes", "to_bytes"]

/-- The operations of a floating-point number. -/
def floatOperations : List String :=
  ["as_integer_ratio", "conjugate", "fromhex", "hex", "is_integer"]

/-- The operations of a day. -/
def dateOperations : List String :=
  ["ctime", "fromisocalendar", "fromisoformat", "fromordinal", "fromtimestamp", "isocalendar",
    "isoformat", "isoweekday", "replace", "strftime", "timetuple", "today", "toordinal", "weekday"]

/-- The further operations of a moment. -/
def momentOperations : List String :=
  ["astimezone", "combine", "date", "dst", "now", "strptime", "time", "timestamp", "timetz",
    "tzname", "utcfromtimestamp", "utcnow", "utcoffset", "utctimetuple"]

/-- The operations of an object. -/
def objectOperations (kind : String) : List String :=
  match kind with
  | "LoopContext" => ["changed", "cycle"]
  | "range" => rowOperations
  | "dict_items" | "dict_keys" => ["isdisjoint"]
  | _ => []

/-- The operations of a value, by its kind. -/
def operations : Value → List String
  | .text _ => textOperations
  | .markup _ => textOperations ++ markupOperations
  | .list _ => listOperations
  | .tuple _ => rowOperations
  | .map _ => mapOperations
  | .bool _ | .int _ => intOperations
  | .float _ => floatOperations
  | .date _ => dateOperations
  | .moment _ => dateOperations ++ momentOperations
  | .object kind .. => objectOperations kind
  | _ => []

/-- The parts of a day. -/
def dateParts (date : Date) : List (String × Value) :=
  [("year", .int date.year), ("month", .int date.month), ("day", .int date.day),
    ("min", .date ⟨1, 1, 1⟩), ("max", .date ⟨9999, 12, 31⟩)]

/-- The time zone of a moment. -/
def zone (offset : Option Int) : Value :=
  match offset with
  | none => .null
  | some minutes =>
    .object "datetime.timezone" (if minutes == 0 then "UTC" else "UTC" ++ offsetText minutes) []
      none

/-- The parts of a whole number. -/
def intParts (number : Int) : List (String × Value) :=
  [("real", .int number), ("imag", .int 0), ("numerator", .int number), ("denominator", .int 1)]

/-- The parts of a value that have names, by its kind. -/
def parts : Value → List (String × Value)
  | .bool flag => intParts (if flag then 1 else 0)
  | .int number => intParts number
  | .float number => [("real", .float number), ("imag", .float 0)]
  | .date day => dateParts day
  | .moment time =>
    [("hour", .int time.hour), ("minute", .int time.minute), ("second", .int time.second),
      ("microsecond", .int time.microsecond), ("fold", .int 0), ("tzinfo", zone time.offset),
      ("min", .moment ⟨⟨1, 1, 1⟩, 0, 0, 0, 0, none⟩),
      ("max", .moment ⟨⟨9999, 12, 31⟩, 23, 59, 59, 999999, none⟩)] ++ dateParts time.date
  | .operation _ name => [("__name__", .text name)]
  | .object _ _ members _ => members
  | _ => []

/-- What every value can do under names between double underscores. -/
def commonOperations : List String :=
  ["__delattr__", "__dir__", "__doc__", "__eq__", "__format__", "__ge__", "__getattribute__",
    "__getstate__", "__gt__", "__hash__", "__init__", "__init_subclass__", "__le__", "__lt__",
    "__ne__", "__new__", "__reduce__", "__reduce_ex__", "__repr__", "__setattr__", "__sizeof__",
    "__str__", "__subclasshook__"]

/-- What collections can do under names between double underscores. -/
def collectionOperations : List String := ["__contains__", "__getitem__", "__iter__", "__len__"]

/-- The kind of the value as an object. -/
def kindObject (subject : Value) : Value :=
  .object "type" ("<class '" ++ (match subject with
    | .markup _ => "markupsafe.Markup"
    | .object "LoopContext" .. => "jinja2.runtime.LoopContext"
    | other => other.kindWord) ++ "'>") [] none

/-- What a name between double underscores stands for. -/
def underscored? (subject : Value) (name : String) : Option Value :=
  let wrapped := Value.object "method-wrapper"
    ("<method-wrapper '" ++ name ++ "' of " ++ subject.kindWord ++ " object>") [] none
  if name == "__class__" then some subject.kindObject
  else if commonOperations.contains name then some wrapped
  else if subject.items?.isSome && collectionOperations.contains name then some wrapped
  else none

/-- The operation or part of a value under a name. -/
def attribute? (subject : Value) (name : String) : Option Value :=
  (subject.parts.lookup name).or
    (if subject.operations.contains name then some (.operation subject name)
    else subject.underscored? name)

/-! ## Items -/

/-- The item of a list at an index, counted from the end if the index is negative. -/
def itemAt? {α : Type} (items : List α) (index : Int) : Option α :=
  if 0 ≤ index then items[index.toNat]?
  else if index.natAbs ≤ items.length then items[items.length - index.natAbs]?
  else none

/-- The item of a value under an index or a key. -/
def itemOf? (subject key : Value) : Option Value :=
  match subject with
  | .map entries => find? key entries
  | .list items | .tuple items | .object "range" _ _ (some items) => key.int?.bind (itemAt? items)
  | .text content => key.int?.bind fun place =>
    (itemAt? content.toList place).map fun char => .text (String.singleton char)
  | .markup content => key.int?.bind fun place =>
    (itemAt? content.toList place).map fun char => .markup (String.singleton char)
  | _ => none

/-- What a name stands for behind a value: an operation or a part of it, or else its item. -/
def member (subject : Value) (name : String) : Except RenderError Value := do
  let subject ← subject.present
  match (subject.attribute? name).or (subject.itemOf? (.text name)) with
  | some found => return found
  | none => return .missing (.member subject.ownerWord name)

/-- What a key stands for behind a value: an item of it, or else an operation or a part. -/
def item (subject key : Value) : Except RenderError Value := do
  let subject ← subject.present
  if let (.map _, .missing what) := (subject, key) then
    if key.condition matches .error _ then throw what.error
  match subject.itemOf? key, key.text? with
  | some found, _ => return found
  | none, some name =>
    return (subject.attribute? name).getD (.missing (.member subject.ownerWord name))
  | none, none => return .missing (.item subject.ownerWord key.shown)

/-! ## Parts of a list -/

/-- A bound of a part: a whole number, or nothing. -/
def bound? : Value → Except RenderError (Option Int)
  | .null => .ok none
  | other =>
    match other.int? with
    | some place => .ok (some place)
    | none => .error (.ofType
        "slice indices must be integers or None or have an __index__ method")

/-- The place of a bound: counted from the end if it is negative, and kept between the ends. -/
def placeIn (length lowest highest : Int) (place : Int) : Int :=
  max lowest (min highest (if place < 0 then place + length else place))

/-- The places of a part of a list, of at most `length` items. -/
def partPlaces (length : Nat) (start stop : Option Int) (step : Int) : List Nat :=
  let size : Int := length
  let (first, last) :=
    if step > 0 then
      ((start.map (placeIn size 0 size)).getD 0, (stop.map (placeIn size 0 size)).getD size)
    else
      ((start.map (placeIn size (-1) (size - 1))).getD (size - 1),
        (stop.map (placeIn size (-1) (size - 1))).getD (-1))
  let place (index : Nat) : Int := first + step * index
  ((List.range length).map place).takeWhile (fun place =>
    if step > 0 then place < last else place > last) |>.map Int.toNat

/-- The items of a part of a list. -/
def partOf {α : Type} (items : List α) (start stop step : Value) : Except RenderError (List α) := do
  let step ← bound? step
  if step == some 0 then throw ⟨.value, "slice step cannot be zero"⟩
  let start ← bound? start
  let stop ← bound? stop
  return (partPlaces items.length start stop (step.getD 1)).filterMap (items[·]?)

/-- Two bounds and a step as a value. -/
def bounds (start stop step : Value) : Value :=
  .object "slice" ("slice" ++ (Value.tuple [start, stop, step]).shown) [] none

/-- The part of a value between two bounds, in steps. -/
def part (subject start stop step : Value) : Except RenderError Value := do
  match ← subject.present with
  | .list items => return .list (← partOf items start stop step)
  | .tuple items => return .tuple (← partOf items start stop step)
  | .text content => return .text (String.ofList (← partOf content.toList start stop step))
  | .markup content => return .markup (String.ofList (← partOf content.toList start stop step))
  | .map _ => throw (.ofType "unhashable type: 'slice'")
  | other => throw (.ofType ("'" ++ other.kindWord ++ "' object is not subscriptable"))

end Shortcode.Value
