import Shortcode.Template.Escape
import Shortcode.Template.Number
import Shortcode.Text.Search

/-!
# Signs between values

Arithmetic, joining and comparison of any two values.  Values that do not go together are an error,
and so is one that is missing; it is noticed before anything else.
-/

namespace Shortcode.Template

/-- The sign of an operation. -/
def Arithmetic.sign : Arithmetic → String
  | .add => "+"
  | .subtract => "-"
  | .multiply => "*"
  | .divide => "/"
  | .floorDivide => "//"
  | .modulo => "%"
  | .power => "** or pow()"

/-- Two values that an operation does not join. -/
def unsupported (operation : Arithmetic) (left right : Value) : RenderError :=
  .ofType ("unsupported operand type(s) for " ++ operation.sign ++ ": '" ++ left.kindWord ++
    "' and '" ++ right.kindWord ++ "'")

/-- A value that cannot be added to a text, a list or a row. -/
def notConcatenable (kind : String) (other : Value) : RenderError :=
  .ofType ("can only concatenate " ++ kind ++ " (not \"" ++ other.kindWord ++ "\") to " ++ kind)

/-- The sum of two values that are not both numbers. -/
def concatenated (left right : Value) : Except RenderError Value :=
  match left, right with
  | .markup first, .markup second => .ok (.markup (first ++ second))
  | .markup first, .text second => .ok (.markup (first ++ escape second))
  | .text first, .markup second => .ok (.markup (escape first ++ second))
  | .text first, .text second => .ok (.text (first ++ second))
  | .list first, .list second => .ok (.list (first ++ second))
  | .tuple first, .tuple second => .ok (.tuple (first ++ second))
  | .text _, other => .error (notConcatenable "str" other)
  | .list _, other => .error (notConcatenable "list" other)
  | .tuple _, other => .error (notConcatenable "tuple" other)
  | _, _ => .error (unsupported .add left right)

/-- A text, a list or a row so many times over. -/
def repeated? (subject : Value) (count : Int) : Option Value :=
  let times {α : Type} (items : List α) : List α := (List.replicate count.toNat items).flatten
  match subject with
  | .text content => some (.text (String.ofList (times content.toList)))
  | .markup content => some (.markup (String.ofList (times content.toList)))
  | .list items => some (.list (times items))
  | .tuple items => some (.tuple (times items))
  | _ => none

/-- A value that can be repeated. -/
def isSequence : Value → Bool
  | .text _ | .markup _ | .list _ | .tuple _ => true
  | _ => false

/-- The product of two values that are not both numbers. -/
def product (left right : Value) : Except RenderError Value :=
  let found := match left.int?, right.int? with
    | _, some count => repeated? left count
    | some count, _ => repeated? right count
    | none, none => none
  match found with
  | some content => .ok content
  | none =>
    if isSequence left then
      .error (.ofType ("can't multiply sequence by non-int of type '" ++ right.kindWord ++ "'"))
    else if isSequence right then
      .error (.ofType ("can't multiply sequence by non-int of type '" ++ left.kindWord ++ "'"))
    else .error (unsupported .multiply left right)

/-- An operation on two values. -/
def arithmetic (operation : Arithmetic) (left right : Value) : Except RenderError Value := do
  let left ← left.present
  let right ← right.present
  match operation, Number.of? left, Number.of? right with
  | _, some one, some other => (one.operation operation other).map Number.value
  | .add, _, _ => concatenated left right
  | .multiply, _, _ => product left right
  | .modulo, _, _ =>
    if left.text?.isSome then
      throw (.ofType "not all arguments converted during string formatting")
    throw (unsupported .modulo left right)
  | _, _, _ => throw (unsupported operation left right)

/-- A number with a sign before it. -/
def withSign (sign : String) (change : Number → Number) (subject : Value) :
    Except RenderError Value := do
  let content ← subject.present
  match Number.of? content with
  | some number => return (change number).value
  | none => throw (.ofType ("bad operand type for unary " ++ sign ++ ": '" ++ content.kindWord ++
      "'"))

/-! ## Comparison -/

/-- The sign of a comparison. -/
def Comparison.sign : Comparison → String
  | .equal => "=="
  | .notEqual => "!="
  | .less => "<"
  | .lessOrEqual => "<="
  | .greater => ">"
  | .greaterOrEqual => ">="
  | .isIn => "in"
  | .isNotIn => "not in"

/-- What a comparison says of the order of two values. -/
def Comparison.holds (comparison : Comparison) (order : Ordering) : Bool :=
  match comparison with
  | .less => order == .lt
  | .lessOrEqual => order != .gt
  | .greater => order == .gt
  | .greaterOrEqual => order != .lt
  | .equal => order == .eq
  | .notEqual => order != .eq
  | .isIn | .isNotIn => false

/-- The value, unless it is missing; what is missing but counts as empty is a value here. -/
def comparable : Value → Except RenderError Value
  | .missing (.alternative place) => .ok (.missing (.alternative place))
  | other => other.present

/-- Equality of two values; what is missing but counts as empty is equal to its like. -/
def isEqual (left right : Value) : Except RenderError Bool := do
  match ← comparable left, ← comparable right with
  | .missing _, .missing _ => return true
  | one, other => return one.same other

/-- Whether one of the items is the value. -/
def isAmong (subject : Value) : (items : List Value) → Except RenderError Bool
  | [] => .ok false
  | first :: rest => do if ← isEqual first subject then return true else isAmong subject rest

/-- Whether the container holds the value. -/
def contains (subject container : Value) : Except RenderError Bool :=
  match container with
  | .map entries => subject.asKey.map fun key => entries.any fun entry => key.same entry.1
  | .text whole | .markup whole =>
    match subject.text? with
    | some part => .ok (Text.splitAt? part.toList whole.toList).isSome
    | none =>
      .error (.ofType ("'in <string>' requires string as left operand, not " ++
        subject.kindWord))
  | other =>
    (other.itemsOr fun kind => "argument of type '" ++ kind ++ "' is not iterable").bind
      (isAmong subject)

/-- Two values that have no order. -/
def unordered (comparison : Comparison) (left right : Value) : RenderError :=
  .ofType ("'" ++ comparison.sign ++ "' not supported between instances of '" ++ left.kindWord ++
    "' and '" ++ right.kindWord ++ "'")

/-- How two texts compare, by their characters. -/
def compareTexts (left right : String) : Ordering :=
  if left < right then .lt else if left == right then .eq else .gt

mutual

/-- Compares two values by size, texts by their characters and lists by their items. -/
def ordered (comparison : Comparison) : (left right : Value) → Except RenderError Bool
  | .list first, .list second => orderedItems comparison first second
  | .tuple first, .tuple second => orderedItems comparison first second
  | .date first, .date second => .ok (comparison.holds (compare first.number second.number))
  | left, right =>
    match left.text?, right.text?, Number.of? left, Number.of? right with
    | some first, some second, _, _ => .ok (comparison.holds (compareTexts first second))
    | _, _, some one, some other =>
      .ok (((one.compare? other).map comparison.holds).getD false)
    | _, _, _, _ => .error (unordered comparison left right)

/-- Compares two lists by the first items that differ, or else by their lengths. -/
def orderedItems (comparison : Comparison) : (left right : List Value) → Except RenderError Bool
  | [], [] => .ok (comparison.holds .eq)
  | [], _ :: _ => .ok (comparison.holds .lt)
  | _ :: _, [] => .ok (comparison.holds .gt)
  | first :: firsts, second :: seconds =>
    if first.same second then orderedItems comparison firsts seconds
    else ordered comparison first second

end

/-- Compares two values. -/
def Comparison.test (comparison : Comparison) (left right : Value) : Except RenderError Bool :=
  match comparison with
  | .equal => isEqual left right
  | .notEqual => (isEqual left right).map (!·)
  | .isIn => contains left right
  | .isNotIn => (contains left right).map (!·)
  | _ => do ordered comparison (← left.present) (← right.present)

end Shortcode.Template
