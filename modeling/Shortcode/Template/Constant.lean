import Shortcode.Template.Evaluate

/-!
# Constants

The parts of an expression that no name has an influence on are worked out when a template is read:
`Expression.fold` puts their values in their place, from the inside to the outside.  A part whose
evaluation fails stays as it is, so that it fails when the template is rendered; but joining texts,
testing conditions and making mappings fail at once.
-/

namespace Shortcode.Template

/-- Why a part of an expression has no value yet. -/
inductive Obstacle where
  | notConstant
  | failed (error : RenderError)

/-- An evaluation whose failure counts at once. -/
def atOnce {α : Type} (result : Except RenderError α) : Except Obstacle α :=
  result.mapError .failed

/-- An evaluation whose failure is left to rendering. -/
def ifPossible {ε α : Type} (result : Except ε α) : Except Obstacle α :=
  result.mapError fun _ => .notConstant

/-- A value that can be put into a template: anything but operations, objects and what is
missing. -/
def isPlain : Value → Bool
  | .missing _ | .operation .. | .object .. => false
  | .list items => allPlain items
  | .tuple items => allPlain items
  | .map entries => allPlainEntries entries
  | _ => true
where
  /-- All the values can be put into a template. -/
  allPlain : List Value → Bool
    | [] => true
    | first :: rest => isPlain first && allPlain rest
  /-- All the keys and values can be put into a template. -/
  allPlainEntries : List (Value × Value) → Bool
    | [] => true
    | (key, content) :: rest => isPlain key && isPlain content && allPlainEntries rest

mutual

/-- The value of an expression without names. -/
def Expression.constant? : Expression → Except Obstacle Value
  | .constant content => .ok content
  | .name _ => .error .notConstant
  | .call .. => .error .notConstant
  | .member subject name => do
    let subject ← ifPossible subject.constant?
    ifPossible (subject.member name)
  | .item subject (.part start stop step) => do
    let subject ← ifPossible subject.constant?
    let start ← ifPossible start.constant?
    let stop ← ifPossible stop.constant?
    ifPossible (subject.part start stop (← ifPossible step.constant?))
  | .item subject index => do
    let subject ← ifPossible subject.constant?
    ifPossible (subject.item (← ifPossible index.constant?))
  | .part start stop step => do
    let start ← start.constant?
    let stop ← stop.constant?
    return Value.bounds start stop (← step.constant?)
  | .filter _ subject name slots arguments => do
    if !filterNames.contains name then throw .notConstant
    let arguments ← constants? arguments
    ifPossible (applyFilter name (← subject.constant?) slots arguments)
  | .test _ subject name slots arguments => do
    if !testNames.contains name then throw .notConstant
    let arguments ← constants? arguments
    ifPossible ((applyTest name (← subject.constant?) slots arguments).map .bool)
  | .negation subject => do
    let subject ← ifPossible subject.constant?
    return .bool (!(← ifPossible subject.condition))
  | .conjunction left right => do
    let left ← left.constant?
    if ← atOnce left.condition then right.constant? else return left
  | .disjunction left right => do
    let left ← left.constant?
    if ← atOnce left.condition then return left else right.constant?
  | .comparison first signs others => do
    let first ← first.constant?
    ifPossible (comparisonConstant? first signs others)
  | .arithmetic operation left right => do
    let left ← ifPossible left.constant?
    ifPossible (arithmetic operation left (← ifPossible right.constant?))
  | .minus subject => do
    ifPossible (withSign "-" Number.negated (← ifPossible subject.constant?))
  | .plus subject => do ifPossible (withSign "+" id (← ifPossible subject.constant?))
  | .concatenation parts => do atOnce (joined (← constants? parts))
  | .choice condition yes no => do
    if ← atOnce (← condition.constant?).condition then yes.constant? else no.constant?
  | .option _ condition yes => do
    if ← atOnce (← condition.constant?).condition then yes.constant? else throw .notConstant
  | .list items => do return .list (← constants? items)
  | .row items => do return .tuple (← constants? items)
  | .map keys contents => do
    let keys ← constants? keys
    let contents ← constants? contents
    return .map (Value.merge [] ((← atOnce (keys.mapM Value.asKey)).zip contents))

/-- The values of expressions without names. -/
def constants? : List Expression → Except Obstacle (List Value)
  | [] => .ok []
  | first :: rest => do
    let first ← first.constant?
    return first :: (← constants? rest)

/-- Whether each of several constants stands in the right relation to the next. -/
def comparisonConstant? (first : Value) (signs : List Comparison) :
    List Expression → Except Obstacle Value
  | [] => .ok (.bool true)
  | next :: rest =>
    match signs with
    | [] => .ok (.bool true)
    | sign :: signs => do
      let next ← next.constant?
      if ← ifPossible (sign.test first next) then comparisonConstant? next signs rest
      else return .bool false

end

/-- The expression, or its value if it has one that can be put into a template. -/
def Expression.settled (expression : Expression) : Except RenderError Expression :=
  match expression.constant? with
  | .ok content => .ok (if isPlain content then .constant content else expression)
  | .error .notConstant => .ok expression
  | .error (.failed error) => .error error

mutual

/-- The expression with the values of its constant parts in their place. -/
def Expression.fold : Expression → Except RenderError Expression
  | .constant content => .ok (.constant content)
  | .name name => .ok (.name name)
  | .member subject name => do Expression.settled (.member (← subject.fold) name)
  | .item subject index => do
    let subject ← subject.fold
    Expression.settled (.item subject (← index.fold))
  | .part start stop step => do
    let start ← start.fold
    let stop ← stop.fold
    Expression.settled (.part start stop (← step.fold))
  | .call subject slots arguments => do
    let subject ← subject.fold
    return .call subject slots (← foldAll arguments)
  | .filter line subject name slots arguments => do
    let subject ← subject.fold
    Expression.settled (.filter line subject name slots (← foldAll arguments))
  | .test line subject name slots arguments => do
    let subject ← subject.fold
    Expression.settled (.test line subject name slots (← foldAll arguments))
  | .negation subject => do Expression.settled (.negation (← subject.fold))
  | .conjunction left right => do
    let left ← left.fold
    Expression.settled (.conjunction left (← right.fold))
  | .disjunction left right => do
    let left ← left.fold
    Expression.settled (.disjunction left (← right.fold))
  | .comparison first signs others => do
    let first ← first.fold
    Expression.settled (.comparison first signs (← foldAll others))
  | .arithmetic operation left right => do
    let left ← left.fold
    Expression.settled (.arithmetic operation left (← right.fold))
  | .minus subject => do Expression.settled (.minus (← subject.fold))
  | .plus subject => do Expression.settled (.plus (← subject.fold))
  | .concatenation parts => do Expression.settled (.concatenation (← foldAll parts))
  | .choice condition yes no => do
    let condition ← condition.fold
    let yes ← yes.fold
    Expression.settled (.choice condition yes (← no.fold))
  | .option place condition yes => do
    let condition ← condition.fold
    Expression.settled (.option place condition (← yes.fold))
  | .list items => do Expression.settled (.list (← foldAll items))
  | .row items => do Expression.settled (.row (← foldAll items))
  | .map keys contents => do
    let keys ← foldAll keys
    Expression.settled (.map keys (← foldAll contents))

/-- Several expressions with the values of their constant parts in their place. -/
def foldAll : List Expression → Except RenderError (List Expression)
  | [] => .ok []
  | first :: rest => do
    let first ← first.fold
    return first :: (← foldAll rest)

end

/-- The text that an expression without names prints. -/
def Expression.constantText? (expression : Expression) : Option String :=
  match expression.constant? with
  | .ok content => content.print.toOption
  | .error _ => none

end Shortcode.Template
