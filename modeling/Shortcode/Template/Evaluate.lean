import Shortcode.Template.Call
import Shortcode.Template.Test

/-!
# Evaluation

The value of an expression, with names bound to values.  Operands are evaluated from left to right
and the first failure ends the evaluation; what the outcome does not depend on is not evaluated.
-/

namespace Shortcode.Template

/-- What every name stands for. -/
abbrev Scope := String → Value

namespace Scope

/-- Only the names that every template knows are bound. -/
def empty : Scope := fun name => (globals.lookup name).getD (.missing (.name name))

/-- The scope with one more name bound. -/
def set (scope : Scope) (name : String) (content : Value) : Scope := fun other =>
  if other == name then content else scope other

end Scope

/-- The texts of values, joined. -/
def joined (parts : List Value) : Except RenderError Value := do
  return .text (String.join (← parts.mapM Value.print))

/-- A floating-point constant that is not finite has a name that no scope binds. -/
def unboundWord? (content : Value) : Option String :=
  match content with
  | .float number =>
    if number.isNaN then some "nan" else if number.isInf then some "inf" else none
  | _ => none

mutual

/-- The name that stands for a constant which cannot be written, in the constant or inside it. -/
def unboundIn? : Value → Option String
  | .list items => unboundAmong? items
  | .tuple items => unboundAmong? items
  | .map entries => unboundInEntries? entries
  | other => unboundWord? other

/-- The first such name among values. -/
def unboundAmong? : List Value → Option String
  | [] => none
  | first :: rest => (unboundIn? first).or (unboundAmong? rest)

/-- The first such name among entries. -/
def unboundInEntries? : List (Value × Value) → Option String
  | [] => none
  | (key, content) :: rest => ((unboundIn? key).or (unboundIn? content)).or (unboundInEntries? rest)

end

/-- The value of a constant. -/
def constantValue (content : Value) : Except RenderError Value :=
  match unboundIn? content with
  | some word => .error ⟨.unboundName, "name " ++ quote word ++ " is not defined"⟩
  | none => .ok content

mutual

/-- The value of an expression. -/
def Expression.eval (scope : Scope) : Expression → Except RenderError Value
  | .constant content => constantValue content
  | .name name => .ok (scope name)
  | .member subject name => do (← subject.eval scope).member name
  | .item subject (.part start stop step) => do
    let subject ← subject.eval scope
    let start ← start.eval scope
    let stop ← stop.eval scope
    subject.part start stop (← step.eval scope)
  | .item subject index => do
    let subject ← subject.eval scope
    subject.item (← index.eval scope)
  | .part start stop step => do
    let start ← start.eval scope
    let stop ← stop.eval scope
    return Value.bounds start stop (← step.eval scope)
  | .call subject slots arguments => do
    let subject ← subject.eval scope
    call subject slots (← evalAll scope arguments)
  | .filter _ subject name slots arguments => do
    let subject ← subject.eval scope
    applyFilter name subject slots (← evalAll scope arguments)
  | .test _ subject name slots arguments => do
    let subject ← subject.eval scope
    return .bool (← applyTest name subject slots (← evalAll scope arguments))
  | .negation subject => do return .bool (!(← (← subject.eval scope).condition))
  | .conjunction left right => do
    let left ← left.eval scope
    if ← left.condition then right.eval scope else return left
  | .disjunction left right => do
    let left ← left.eval scope
    if ← left.condition then return left else right.eval scope
  | .comparison first signs others => do
    evalComparison scope (← first.eval scope) signs others
  | .arithmetic operation left right => do
    let left ← left.eval scope
    arithmetic operation left (← right.eval scope)
  | .minus subject => do withSign "-" Number.negated (← subject.eval scope)
  | .plus subject => do withSign "+" id (← subject.eval scope)
  | .concatenation parts => do joined (← evalAll scope parts)
  | .choice condition yes no => do
    if ← (← condition.eval scope).condition then yes.eval scope else no.eval scope
  | .option place condition yes => do
    if ← (← condition.eval scope).condition then yes.eval scope
    else return .missing (.alternative place)
  | .list items => do return .list (← evalAll scope items)
  | .row items => do return .tuple (← evalAll scope items)
  | .map keys contents => do
    let keys ← (← evalAll scope keys).mapM Value.asKey
    return .map (Value.merge [] (keys.zip (← evalAll scope contents)))

/-- The values of several expressions. -/
def evalAll (scope : Scope) : List Expression → Except RenderError (List Value)
  | [] => .ok []
  | first :: rest => do
    let first ← first.eval scope
    return first :: (← evalAll scope rest)

/-- Whether each of several values stands in the right relation to the next. -/
def evalComparison (scope : Scope) (first : Value) (signs : List Comparison) :
    List Expression → Except RenderError Value
  | [] => .ok (.bool true)
  | next :: rest =>
    match signs with
    | [] => .ok (.bool true)
    | sign :: signs => do
      let next ← next.eval scope
      if ← sign.test first next then evalComparison scope next signs rest
      else return .bool false

end

end Shortcode.Template
