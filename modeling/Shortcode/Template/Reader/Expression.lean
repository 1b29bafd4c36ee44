import Shortcode.Template.Reader

/-!
# Reading expressions

Each reader of an expression takes the tokens of one, as long as they go.  From the loosest to the
tightest, an expression is a choice, a condition, a comparison, a sum, a concatenation, a product,
a power and a value with its sign; members, items, calls, filters and tests stand behind a value.
The fuel of the readers is proportional to the number of tokens, which bounds how deep they nest.
-/

namespace Shortcode.Template.Reader

/-- The signs that join terms. -/
def sumSign : Token → Option (Expression → Expression → Expression)
  | .operator "+" => some (.arithmetic .add)
  | .operator "-" => some (.arithmetic .subtract)
  | _ => none

/-- The signs that join factors. -/
def productSign : Token → Option (Expression → Expression → Expression)
  | .operator "*" => some (.arithmetic .multiply)
  | .operator "/" => some (.arithmetic .divide)
  | .operator "//" => some (.arithmetic .floorDivide)
  | .operator "%" => some (.arithmetic .modulo)
  | _ => none

/-- The sign between a base and an exponent. -/
def powerSign : Token → Option (Expression → Expression → Expression)
  | .operator "**" => some (.arithmetic .power)
  | _ => none

/-- The word that joins conditions of which both have to hold. -/
def conjunctionWord : Token → Option (Expression → Expression → Expression)
  | .name "and" => some .conjunction
  | _ => none

/-- The word that joins conditions of which one has to hold. -/
def disjunctionWord : Token → Option (Expression → Expression → Expression)
  | .name "or" => some .disjunction
  | _ => none

/-- The sign of a comparison. -/
def comparisonSign : Token → Option Comparison
  | .operator "==" => some .equal
  | .operator "!=" => some .notEqual
  | .operator "<" => some .less
  | .operator "<=" => some .lessOrEqual
  | .operator ">" => some .greater
  | .operator ">=" => some .greaterOrEqual
  | .name "in" => some .isIn
  | _ => none

/-- Moves past the sign of a comparison, if one stands here. -/
def takeComparison? : Reader (Option Comparison) := do
  match comparisonSign (← current) with
  | some sign =>
    advance
    return some sign
  | none => return if ← skipNames "not" "in" then some .isNotIn else none

/-- A token that starts the argument of a test written without parentheses. -/
def startsTestArgument : Token → Bool
  | .name name => !(["else", "or", "and"].contains name)
  | .text _ | .number _ => true
  | .operator sign => ["(", "[", "\x7b"].contains sign
  | _ => false

/-- A value that stands for itself. -/
def constantName? (name : String) : Option Value :=
  if name == "true" || name == "True" then some (.bool true)
  else if name == "false" || name == "False" then some (.bool false)
  else if name == "none" || name == "None" then some .null
  else none

/-- Arguments, each with its slot. -/
abbrev Arguments := List (Slot × Expression)

/-- An argument of this kind may follow the ones before it: spread entries come last, only keywords
follow spread items, and no position follows a keyword. -/
def Slot.mayFollow (before : List Slot) : Slot → Bool
  | .position => before.all (· == .position)
  | .keyword _ => !before.contains .entries
  | .items => !before.contains .items && !before.contains .entries
  | .entries => !before.contains .entries

/-- The order in which arguments are worked out: those without keywords first. -/
def orderedArguments (arguments : Arguments) : List Slot × List Expression :=
  let part (member : Slot → Bool) := arguments.filter fun argument => member argument.1
  let isKeyword : Slot → Bool
    | .keyword _ => true
    | _ => false
  let ordered := part (· == .position) ++ part (· == .items) ++ part isKeyword ++
    part (· == .entries)
  (ordered.map (·.1), ordered.map (·.2))

/-- What is left out of an index. -/
def absent : Expression := .constant .null

mutual

/-- Reads an expression, with choices if `choices` allows them. -/
def expression (choices : Bool) : (fuel : Nat) → Reader Expression
  | 0 => failHere (.unexpectedToken "")
  | fuel + 1 => do
    let start ← line
    let first ← disjunction fuel
    if choices then choiceTail start fuel first else return first

/-- Reads the conditions behind a value, and the values for when they do not hold. -/
def choiceTail (start : Nat) : (fuel : Nat) → Expression → Reader Expression
  | 0, first => return first
  | fuel + 1, first => do
    if ← skipName "if" then
      let condition ← disjunction fuel
      if ← skipName "else" then
        let other ← expression true fuel
        choiceTail (← line) fuel (.choice condition first other)
      else
        let place ← placeOf start
        choiceTail (← line) fuel (.option place condition first)
    else return first

/-- Reads conditions of which one has to hold. -/
def disjunction : (fuel : Nat) → Reader Expression
  | 0 => failHere (.unexpectedToken "")
  | fuel + 1 => do chain disjunctionWord (conjunction fuel) fuel (← conjunction fuel)

/-- Reads conditions that all have to hold. -/
def conjunction : (fuel : Nat) → Reader Expression
  | 0 => failHere (.unexpectedToken "")
  | fuel + 1 => do chain conjunctionWord (negation fuel) fuel (← negation fuel)

/-- Reads a condition that may be turned round. -/
def negation : (fuel : Nat) → Reader Expression
  | 0 => failHere (.unexpectedToken "")
  | fuel + 1 => do
    if ← skipName "not" then return .negation (← negation fuel) else comparison fuel

/-- Reads values that are compared. -/
def comparison : (fuel : Nat) → Reader Expression
  | 0 => failHere (.unexpectedToken "")
  | fuel + 1 => do
    let first ← sum fuel
    let others ← comparisonTail fuel
    if others.isEmpty then return first
    return .comparison first (others.map (·.1)) (others.map (·.2))

/-- Reads the signs and values behind the first value of a comparison. -/
def comparisonTail : (fuel : Nat) → Reader (List (Comparison × Expression))
  | 0 => return []
  | fuel + 1 => do
    match ← takeComparison? with
    | none => return []
    | some sign =>
      let other ← sum fuel
      return (sign, other) :: (← comparisonTail fuel)

/-- Reads terms. -/
def sum : (fuel : Nat) → Reader Expression
  | 0 => failHere (.unexpectedToken "")
  | fuel + 1 => do chain sumSign (concatenation fuel) fuel (← concatenation fuel)

/-- Reads values whose texts are joined. -/
def concatenation : (fuel : Nat) → Reader Expression
  | 0 => failHere (.unexpectedToken "")
  | fuel + 1 => do
    let first ← product fuel
    let others ← concatenationTail fuel
    return if others.isEmpty then first else .concatenation (first :: others)

/-- Reads the values behind the first one whose texts are joined. -/
def concatenationTail : (fuel : Nat) → Reader (List Expression)
  | 0 => return []
  | fuel + 1 => do
    if ← skipOperator "~" then
      let other ← product fuel
      return other :: (← concatenationTail fuel)
    return []

/-- Reads factors. -/
def product : (fuel : Nat) → Reader Expression
  | 0 => failHere (.unexpectedToken "")
  | fuel + 1 => do chain productSign (power fuel) fuel (← power fuel)

/-- Reads a base and its exponents. -/
def power : (fuel : Nat) → Reader Expression
  | 0 => failHere (.unexpectedToken "")
  | fuel + 1 => do chain powerSign (signed true fuel) fuel (← signed true fuel)

/-- Reads a value with a sign before it, and with filters behind it if `filters` allows them. -/
def signed (filters : Bool) : (fuel : Nat) → Reader Expression
  | 0 => failHere (.unexpectedToken "")
  | fuel + 1 => do
    let subject ←
      if ← skipOperator "-" then Expression.minus <$> signed false fuel
      else if ← skipOperator "+" then Expression.plus <$> signed false fuel
      else primary fuel
    let subject ← postfixes fuel subject
    if filters then filterTail fuel subject else return subject

/-- Reads a value. -/
def primary : (fuel : Nat) → Reader Expression
  | 0 => failHere (.unexpectedToken "")
  | fuel + 1 => do
    match ← current with
    | .name name =>
      advance
      return match constantName? name with
        | some content => .constant content
        | none => .name name
    | .text content =>
      advance
      return .constant (.text (← adjacentTexts fuel content))
    | .number content =>
      advance
      return .constant content
    | .operator "(" =>
      advance
      let content ← row true true none fuel
      expectOperator ")"
      return content
    | .operator "[" =>
      advance
      let items ← itemsOf "]" (expression true fuel) true fuel
      expectOperator "]"
      return .list items
    | .operator "\x7b" =>
      advance
      let entries ← itemsOf "\x7d" (mapEntry fuel) true fuel
      expectOperator "\x7d"
      return .map (entries.map (·.1)) (entries.map (·.2))
    | other => failHere (.unexpectedToken other.description)

/-- Reads one expression, or several with commas between, which make a row. -/
def row (choices explicit : Bool) (endName : Option String) : (fuel : Nat) → Reader Expression
  | 0 => failHere (.unexpectedToken "")
  | fuel + 1 => do
    match ← rowOf (expression choices fuel) endName fuel with
    | ([only], none) => return only
    | ([], none) =>
      if explicit then return .row [] else failHere (.expectedExpression (← current).description)
    | (items, _) => return .row items

/-- Reads an entry of a mapping. -/
def mapEntry : (fuel : Nat) → Reader (Expression × Expression)
  | 0 => failHere (.unexpectedToken "")
  | fuel + 1 => do
    let key ← expression true fuel
    expectOperator ":"
    return (key, ← expression true fuel)

/-- Reads the members, items and calls behind a value. -/
def postfixes : (fuel : Nat) → Expression → Reader Expression
  | 0, subject => return subject
  | fuel + 1, subject => do
    if ← skipOperator "." then
      let start ← line
      let found ← current
      advance
      match found with
      | .name name => postfixes fuel (.member subject name)
      | .number (.int number) => postfixes fuel (.item subject (.constant (.int number)))
      | _ => fail start .expectedNameOrNumber
    else if ← skipOperator "[" then
      match ← indices true fuel with
      | [index] => postfixes fuel (.item subject index)
      | several => postfixes fuel (.item subject (.row several))
    else if ← atOperator "(" then
      let (slots, arguments) ← callArguments fuel
      postfixes fuel (.call subject slots arguments)
    else return subject

/-- Reads what stands in the brackets of an index, and the closing bracket. -/
def indices (first : Bool) : (fuel : Nat) → Reader (List Expression)
  | 0 => return []
  | fuel + 1 => do
    if ← skipOperator "]" then return []
    unless first do expectOperator ","
    let found ← index fuel
    return found :: (← indices false fuel)

/-- Reads an index: a value, or a part between colons. -/
def index : (fuel : Nat) → Reader Expression
  | 0 => failHere (.unexpectedToken "")
  | fuel + 1 => do
    let start ← if ← atOperator ":" then pure absent else expression true fuel
    if ← skipOperator ":" then
      let stop ← bound true fuel
      let step ← if ← skipOperator ":" then bound false fuel else pure absent
      return .part start stop step
    return start

/-- Reads a bound of a part, which may be left out. -/
def bound (colon : Bool) : (fuel : Nat) → Reader Expression
  | 0 => failHere (.unexpectedToken "")
  | fuel + 1 => do
    match ← current with
    | .operator "]" | .operator "," => return absent
    | .operator ":" => if colon then return absent else expression true fuel
    | _ => expression true fuel

/-- Reads the filters, tests and calls behind a value. -/
def filterTail : (fuel : Nat) → Expression → Reader Expression
  | 0, subject => return subject
  | fuel + 1, subject => do
    if ← skipOperator "|" then filterTail fuel (← filterUse fuel subject)
    else if ← atName "is" then
      let start ← line
      advance
      let negated ← skipName "not"
      let name ← dottedName fuel (← expectName)
      let (slots, arguments) ←
        if ← atOperator "(" then callArguments fuel
        else if startsTestArgument (← current) then
          if ← atName "is" then failHere .chainedTests
          else
            let argument ← primary fuel
            pure ([.position], [← postfixes fuel argument])
        else pure ([], [])
      let test := Expression.test start subject name slots arguments
      filterTail fuel (if negated then .negation test else test)
    else if ← atOperator "(" then
      let (slots, arguments) ← callArguments fuel
      filterTail fuel (.call subject slots arguments)
    else return subject

/-- Reads the name and the arguments of a filter. -/
def filterUse : (fuel : Nat) → Expression → Reader Expression
  | 0, subject => return subject
  | fuel + 1, subject => do
    let start ← line
    let name ← dottedName fuel (← expectName)
    let (slots, arguments) ← if ← atOperator "(" then callArguments fuel else pure ([], [])
    return .filter start subject name slots arguments

/-- Reads arguments in parentheses. -/
def callArguments : (fuel : Nat) → Reader (List Slot × List Expression)
  | 0 => return ([], [])
  | fuel + 1 => do
    let start ← line
    expectOperator "("
    let found ← argumentItems start [] fuel
    expectOperator ")"
    return orderedArguments found

/-- Reads arguments, up to the parenthesis; `before` holds the slots of those before them. -/
def argumentItems (start : Nat) (before : List Slot) : (fuel : Nat) → Reader Arguments
  | 0 => return []
  | fuel + 1 => do
    if ← atOperator ")" then return []
    unless before.isEmpty do expectOperator ","
    if ← atOperator ")" then return []
    let slot ← argumentSlot
    unless Slot.mayFollow before slot do fail start .badArguments
    match slot with
    | .position => pure ()
    | .keyword _ =>
      advance
      advance
    | _ => advance
    let argument ← expression true fuel
    return (slot, argument) :: (← argumentItems start (before ++ [slot]) fuel)

/-- The slot of the argument that starts here. -/
def argumentSlot : Reader Slot := do
  match ← current with
  | .operator "*" => return .items
  | .operator "**" => return .entries
  | .name name => return if (← next).isOperator "=" then .keyword name else .position
  | _ => return .position

end

end Shortcode.Template.Reader
