import Shortcode.Calendar
import Shortcode.Decimal.Binary

/-!
# Values

What a configuration, the head of a page and a template hold: texts, numbers, flags, dates, lists
and mappings.  A mapping keeps its entries in the order in which their keys were first set.  Two
values are the same when they are equal as numbers, texts or collections, so `true` and `1` are one
key.  While a template is rendered, a value may also be markup, something missing, an operation of
another value, or an object that the template language provides.
-/

namespace Shortcode

/-- The most digits that a whole number is read or written with. -/
def digitLimit : Nat := 4300

/-- Something that a template looked for in vain. -/
inductive Missing where
  | name (name : String)
  /-- A value of this kind has no such member. -/
  | member (owner name : String)
  /-- A value of this kind has no such item. -/
  | item (owner index : String)
  /-- Something that a note tells of. -/
  | noted (note : String)
  /-- The second alternative of a choice that has only one, at a place in a template. -/
  | alternative (place : String)
deriving DecidableEq, Repr

/-- A value of a configuration, a page or a template. -/
inductive Value where
  | null
  | bool (flag : Bool)
  | int (number : Int)
  | float (number : Float)
  | text (content : String)
  | date (day : Date)
  | moment (time : Moment)
  | list (items : List Value)
  | map (entries : List (Value × Value))
  /-- A fixed row of values. -/
  | tuple (items : List Value)
  /-- A text that is safe as it is inside markup. -/
  | markup (content : String)
  | missing (what : Missing)
  /-- What a value can do, under its name. -/
  | operation (subject : Value) (name : String)
  /-- An object of another kind: the text that shows it, its members, and its items if it has
  any. -/
  | object (kind look : String) (members : List (String × Value)) (items : Option (List Value))
  /-- A collection that may hold itself: collections by their numbers, and the number of this one.
  Inside of the collections each of them stands as its number alone. -/
  | cycle (bodies : List (Nat × Value)) (place : Nat)
deriving Inhabited

namespace Value

/-! ## Collections that hold themselves -/

/-- The values in a collection, with others in their places; none if one has no other. -/
def mapInside? (other? : Value → Option Value) : Value → Option Value
  | .list items => (items.mapM other?).map .list
  | .tuple items => (items.mapM other?).map .tuple
  | .map entries =>
    (entries.mapM fun entry => (other? entry.2).map fun content => (entry.1, content)).map .map
  | other => some other

/-- A value of a collection, with others in place of numbers; the values of a pair in it count as
its own. -/
def unlinked? (collection? : Nat → Option Value) : Value → Option Value
  | .cycle _ place => collection? place
  | .tuple [key, .cycle _ place] => (collection? place).map fun content => .tuple [key, content]
  | other => some other

/-- The collection of a number, if no number leads back to one before it; `fuel` bounds how deep the
collections are nested. -/
def finite? (bodies : List (Nat × Value)) : (fuel : Nat) → (place : Nat) → Option Value
  | 0, _ => none
  | fuel + 1, place =>
    (bodies.lookup place).bind (mapInside? (unlinked? (finite? bodies fuel)))

/-- The collection of a number: without numbers in it, if it does not hold itself. -/
def ofPlace (bodies : List (Nat × Value)) (place : Nat) : Value :=
  (finite? bodies (bodies.length + 1) place).getD (.cycle bodies place)

/-- The value with its items or entries in sight. -/
def opened : Value → Value
  | .cycle bodies place =>
    ((bodies.lookup place).bind (mapInside? (unlinked? (some ∘ ofPlace bodies)))).getD .null
  | other => other

/-- The value with its number alone where it is a collection with a number. -/
def link : Value → Value
  | .cycle _ place => .cycle [] place
  | .tuple [key, .cycle _ place] => .tuple [key, .cycle [] place]
  | other => other

/-- The collections that a value brings along. -/
def bodies : Value → List (Nat × Value)
  | .cycle bodies _ => bodies
  | .tuple [_, .cycle bodies _] => bodies
  | _ => []

/-- The numbers that stand for a value or in it, if it is a collection with a number or a pair. -/
def places : Value → List Nat
  | .cycle _ place => [place]
  | .tuple [_, .cycle _ place] => [place]
  | _ => []

/-- The numbers of the collections in a collection. -/
def placesIn : Value → List Nat
  | .list items => items.flatMap places
  | .map entries => entries.flatMap fun (_, content) => content.places
  | _ => []

/-- The numbers that some numbers lead to in a number of steps. -/
def reached (bodies : List (Nat × Value)) : (steps : Nat) → (found : List Nat) → List Nat
  | 0, found => found
  | steps + 1, found =>
    let next := bodies.flatMap fun (place, body) =>
      if found.contains place then body.placesIn else []
    reached bodies steps (found ++ next).eraseDups

/-- A collection with a number. -/
def numbered (place : Nat) (collection : Value) : Value :=
  let held := match collection with
    | .list items => items.flatMap bodies
    | .map entries => entries.flatMap fun (_, content) => content.bodies
    | _ => []
  .cycle ((place, (mapInside? (some ∘ link) collection).getD collection) :: held) place

/-! ## What values are made of -/

/-- The value as a whole number, flags counting as zero and one. -/
def int? : Value → Option Int
  | .bool flag => some (if flag then 1 else 0)
  | .int number => some number
  | _ => none

/-- The text of a value that is a text or markup. -/
def text? : Value → Option String
  | .text content => some content
  | .markup content => some content
  | _ => none

/-- The items of a value that has some: those of a collection, the keys of a mapping, the characters
of a text. -/
def items? : Value → Option (List Value)
  | .list items => some items
  | .tuple items => some items
  | .map entries => some (entries.map (·.1))
  | .text content | .markup content =>
    some (content.toList.map fun char => .text (String.singleton char))
  | .object _ _ _ items => items
  | .missing (.alternative _) => some []
  | .cycle bodies place => match opened (.cycle bodies place) with
    | .list items => some items
    | .map entries => some (entries.map (·.1))
    | .object _ _ _ items => items
    | _ => none
  | _ => none

/-- Whether a whole number and a floating-point number are equal. -/
def intEqualsFloat (whole : Int) (number : Float) : Bool :=
  match Decimal.decode number with
  | .finite binary => let (numerator, denominator) := binary.fraction
    numerator == whole * denominator
  | _ => false

/-- Equality of two values that are not collections. -/
def sameScalar (left right : Value) : Bool :=
  match left, right with
  | .null, .null => true
  | .date first, .date second => first == second
  | .moment first, .moment second => first.same second
  | .float first, .float second => first == second
  | .float first, other => other.int?.any (intEqualsFloat · first)
  | other, .float second => other.int?.any (intEqualsFloat · second)
  | first, second =>
    match first.int?, second.int?, first.text?, second.text? with
    | some one, some other, _, _ => one == other
    | _, _, some one, some other => one == other
    | _, _, _, _ => false

mutual

/-- Equality of values: numbers by size, lists in order, mappings in any order. -/
def same : Value → Value → Bool
  | .list first, .list second => sameList first second
  | .tuple first, .tuple second => sameList first second
  | .operation first one, .operation second other => one == other && same first second
  | .map first, .map second => first.length == second.length && sameEntries first second
  | .cycle _ first, .cycle _ second => first == second
  | left, right => sameScalar left right

/-- Equality of lists, item by item. -/
def sameList : List Value → List Value → Bool
  | [], [] => true
  | first :: firsts, second :: seconds => same first second && sameList firsts seconds
  | _, _ => false

/-- Every entry of the first mapping stands in the second. -/
def sameEntries : List (Value × Value) → List (Value × Value) → Bool
  | [], _ => true
  | (key, value) :: rest, entries =>
    (entries.any fun entry => same key entry.1 && same value entry.2) && sameEntries rest entries

end

/-- Whether a condition on the value holds: all but null, false, zero and what is empty. -/
def isTrue : Value → Bool
  | .null => false
  | .bool flag => flag
  | .int number => number != 0
  | .float number => number != 0
  | .text content => !content.isEmpty
  | .date _ => true
  | .moment _ => true
  | .list items => !items.isEmpty
  | .map entries => !entries.isEmpty
  | .tuple items => !items.isEmpty
  | .markup content => !content.isEmpty
  | .missing _ => false
  | .operation .. => true
  | .object _ _ _ items => items.all (!·.isEmpty)
  | .cycle .. => true

/-- The entry of a list of pairs under a key. -/
def find? (key : Value) (entries : List (Value × Value)) : Option Value :=
  (entries.find? fun entry => key.same entry.1).map (·.2)

/-- Whether the value is a floating-point number that is no number. -/
def isNotNumber : Value → Bool
  | .float number => number != number
  | _ => false

/-- Whether two keys are one.  What is no number differs from itself as a value, but not as a
key. -/
def sameKey (left right : Value) : Bool :=
  left.same right || (left.isNotNumber && right.isNotNumber)

/-- Sets a key: a new one goes to the end, a known one keeps its place. -/
def insert (key content : Value) : List (Value × Value) → List (Value × Value)
  | [] => [(key, content)]
  | entry :: rest =>
    if key.sameKey entry.1 then (entry.1, content) :: rest else entry :: insert key content rest

/-- Sets every entry of the second list in the first, in order. -/
def merge (entries additions : List (Value × Value)) : List (Value × Value) :=
  additions.foldl (fun entries entry => insert entry.1 entry.2 entries) entries

/-- The value under a name, in a mapping. -/
def field? (name : String) (content : Value) : Option Value :=
  match content.opened with
  | .map entries => find? (.text name) entries
  | _ => none

/-- A mapping with texts for keys. -/
def record (entries : List (String × Value)) : Value :=
  .map (entries.map fun (name, content) => (.text name, content))

/-- The word for a kind of value. -/
def kindWord : Value → String
  | .null => "NoneType"
  | .bool _ => "bool"
  | .int _ => "int"
  | .float _ => "float"
  | .text _ => "str"
  | .date _ => "datetime.date"
  | .moment _ => "datetime.datetime"
  | .list _ => "list"
  | .map _ => "dict"
  | .tuple _ => "tuple"
  | .markup _ => "Markup"
  | .missing (.alternative _) => "Undefined"
  | .missing _ => "StrictUndefined"
  | .operation (.markup _) _ => "method"
  | .operation .. => "builtin_function_or_method"
  | .object kind .. => kind
  | .cycle bodies place => match bodies.lookup place with
    | some (.map _) => "dict"
    | some (.object kind ..) => kind
    | _ => "list"

mutual

/-- Whether a whole number in the value has more than `limit` digits. -/
def exceeds (limit : Nat) : Value → Bool
  | .int number => Nat.pow 10 limit ≤ number.natAbs
  | .list items => anyExceeds limit items
  | .tuple items => anyExceeds limit items
  | .map entries => anyEntryExceeds limit entries
  | .object _ _ _ (some items) => anyExceeds limit items
  | .cycle bodies place => anyBodyExceeds limit (reached bodies bodies.length [place]) bodies
  | _ => false

/-- Whether a whole number in one of the values has more than `limit` digits. -/
def anyExceeds (limit : Nat) : List Value → Bool
  | [] => false
  | first :: rest => exceeds limit first || anyExceeds limit rest

/-- Whether a whole number in one of the entries has more than `limit` digits. -/
def anyEntryExceeds (limit : Nat) : List (Value × Value) → Bool
  | [] => false
  | (key, content) :: rest =>
    exceeds limit key || exceeds limit content || anyEntryExceeds limit rest

/-- Whether a whole number in one of the collections of these numbers has more than `limit`
digits. -/
def anyBodyExceeds (limit : Nat) (found : List Nat) : List (Nat × Value) → Bool
  | [] => false
  | (place, body) :: rest =>
    (found.contains place && exceeds limit body) || anyBodyExceeds limit found rest

end

end Value

end Shortcode
