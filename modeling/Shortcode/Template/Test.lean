import Shortcode.Template.Filter

/-!
# Tests

A test says yes or no of a value, some with a second value beside it.  `defined` and its like accept
what is missing.
-/

namespace Shortcode.Template

/-- The comparison that a test of this name is. -/
def comparisonTest? (name : String) : Option Comparison :=
  match name with
  | "eq" | "equalto" | "==" => some .equal
  | "ne" | "!=" => some .notEqual
  | "lt" | "lessthan" | "<" => some .less
  | "le" | "<=" => some .lessOrEqual
  | "gt" | "greaterthan" | ">" => some .greater
  | "ge" | ">=" => some .greaterOrEqual
  | _ => none

/-- The name under which a comparison is told in messages. -/
def comparisonWord : Comparison → String
  | .equal => "eq"
  | .notEqual => "ne"
  | .less => "lt"
  | .lessOrEqual => "le"
  | .greater => "gt"
  | _ => "ge"

/-- The tests of one value. -/
def simpleTests : List String :=
  ["boolean", "callable", "defined", "escaped", "even", "false", "filter", "float", "integer",
    "iterable", "lower", "mapping", "none", "number", "odd", "sequence", "string", "test", "true",
    "undefined", "upper"]

/-- The tests that a template may use. -/
def testNames : List String :=
  simpleTests ++ ["divisibleby", "in", "sameas", "eq", "equalto", "ne", "lt", "lessthan", "le",
    "gt", "greaterthan", "ge"]

/-- What a test takes, the value before it included. -/
def testSignature (name : String) : Signature :=
  match name with
  | "divisibleby" => .plain "test_divisibleby" ["value", "num"] 2
  | "in" => .plain "test_in" ["value", "seq"] 2
  | "sameas" => .plain "test_sameas" ["value", "other"] 2
  | "filter" | "test" => ⟨"test_" ++ name, ["value"], 1, 1⟩
  | _ => .plain ("test_" ++ name) ["value"] 1

/-- Whether a value can be called. -/
def isCallable : Value → Bool
  | .operation .. => true
  | .object "type" .. | .object "function" .. | .object "method-wrapper" .. => true
  | .missing _ => true
  | _ => false

/-- Whether the cased characters of a text are all of one case, and there are some. -/
def allCased (change other : List Char → List Char) (text : List Char) : Bool :=
  change text == text && other text != text

/-- Whether two values are one and the same. -/
def isSame (left right : Value) : Bool :=
  left.kindWord == right.kindWord && left.same right

/-- Whether a number divided by another one leaves no rest. -/
def leaves (rest : Int) (subject divisor : Value) : Except RenderError Bool := do
  isEqual (← arithmetic .modulo subject divisor) (.int rest)

/-- What a test of one value says. -/
def simpleTest (name : String) (subject : Value) : Except RenderError Bool :=
  let isMissing := match subject with
    | .missing _ => true
    | _ => false
  match name with
  | "defined" => .ok !isMissing
  | "undefined" => .ok isMissing
  | "none" => .ok (subject.kindWord == "NoneType")
  | "boolean" => .ok (subject.kindWord == "bool")
  | "true" => .ok (subject.kindWord == "bool" && subject.isTrue)
  | "false" => .ok (subject.kindWord == "bool" && !subject.isTrue)
  | "integer" => .ok (subject.kindWord == "int")
  | "float" => .ok (subject.kindWord == "float")
  | "number" => .ok (Number.of? subject).isSome
  | "string" => .ok subject.text?.isSome
  | "escaped" => .ok (subject.kindWord == "Markup")
  | "mapping" => .ok (subject.kindWord == "dict")
  | "sequence" => .ok (subject.items?.isSome && subject.kindWord != "set")
  | "callable" => .ok (isCallable subject)
  | "iterable" =>
    match subject with
    | .missing (.alternative _) => .ok true
    | .missing what => .error what.error
    | other => .ok other.items?.isSome
  | "odd" => leaves 1 subject (.int 2)
  | "even" => leaves 0 subject (.int 2)
  | "lower" => subject.print.map fun content => allCased Text.lower Text.upper content.toList
  | "upper" => subject.print.map fun content => allCased Text.upper Text.lower content.toList
  | "filter" => subject.asKey.map fun key => key.text?.any filterNames.contains
  | _ => subject.asKey.map fun key => key.text?.any testNames.contains

/-- What a test of two values says. -/
def pairTest (name : String) (subject other : Value) : Except RenderError Bool :=
  match name with
  | "divisibleby" => leaves 0 subject other
  | "in" => contains subject other
  | _ => .ok (isSame subject other)

/-- What the test of a name says. -/
def applyTest (name : String) (subject : Value) (slots : List Slot) (arguments : List Value) :
    Except RenderError Bool := do
  if !testNames.contains name then throw (unknownName "test" name)
  match comparisonTest? name with
  | some comparison =>
    let word := comparisonWord comparison
    let given ← Given.ofSlots ("_operator." ++ word) slots arguments
    unless given.keywords.isEmpty do
      throw (.ofType ("_operator." ++ word ++ "() takes no keyword arguments"))
    match given.positional with
    | [other] => comparison.test subject other
    | others => throw (.ofType (word ++ " expected 2 arguments, got " ++
        Nat.repr (others.length + 1)))
  | none =>
    let signature := testSignature name
    let given ← Given.ofSlots ("jinja2.tests." ++ signature.name) slots arguments
    match ← signature.fill { given with positional := subject :: given.positional } with
    | [some subject, some other] => pairTest name subject other
    | _ => simpleTest name subject

end Shortcode.Template
