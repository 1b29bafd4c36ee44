import Shortcode.Template.Token
import Shortcode.Template.Tree

/-!
# Places between tokens

A `Reader` moves through the tokens of a template from left to right.  The first token that does not
fit ends the reading with an error.  What stopped the scan of the tokens is met when the reader
comes to it.
-/

namespace Shortcode.Template

/-- The token is the name. -/
def Token.isName (token : Token) (expected : String) : Bool :=
  match token with
  | .name found => found == expected
  | _ => false

/-- The token is the operator. -/
def Token.isOperator (token : Token) (expected : String) : Bool :=
  match token with
  | .operator found => found == expected
  | _ => false

/-- A place between the tokens of a template. -/
structure Place where
  /-- The name of the template's file. -/
  file : String
  current : Lexeme
  rest : List Lexeme
  /-- What ends the tokens, if it is not the end of the template. -/
  failure : Option ReadFailure
  /-- For each open statement, innermost first, the tags that it waits for. -/
  awaited : List (List String)
  /-- The open statements, innermost first. -/
  opened : List String

/-- Reads some tokens and moves on. -/
abbrev Reader := StateT Place (Except ReadFailure)

namespace Reader

/-- The token at this place. -/
def current : Reader Token := do return (← get).current.token

/-- The line of the token at this place. -/
def line : Reader Nat := do return (← get).current.line

/-- The line in words, with the file. -/
def placeOf (line : Nat) : Reader String := do
  return "line " ++ Nat.repr line ++ " in " ++ quote (← get).file

/-- Ends the reading at a line. -/
def fail {α : Type} (line : Nat) (cause : Cause) : Reader α := throw (.malformed ⟨line, cause⟩)

/-- Ends the reading at this place. -/
def failHere {α : Type} (cause : Cause) : Reader α := do fail (← line) cause

/-- Moves on by one token. -/
def advance : Reader Unit := do
  let place ← get
  match place.rest, place.failure with
  | next :: rest, _ => set { place with current := next, rest := rest }
  | [], some failure => throw failure
  | [], none => set { place with current := ⟨place.current.line, .endOfTemplate⟩ }

/-- The token behind the one at this place. -/
def next : Reader Token := do
  let place ← get
  match place.rest, place.failure with
  | next :: _, _ => return next.token
  | [], some failure => throw failure
  | [], none => return .endOfTemplate

/-- The token at this place is the name. -/
def atName (name : String) : Reader Bool := do return (← current).isName name

/-- The token at this place is one of the names. -/
def atOneOf (names : List String) : Reader Bool := do
  let found ← current
  return names.any found.isName

/-- The token at this place is the operator. -/
def atOperator (sign : String) : Reader Bool := do return (← current).isOperator sign

/-- The statement ends here. -/
def atBlockEnd : Reader Bool := do
  return match (← current) with
    | .blockEnd => true
    | _ => false

/-- Moves past the name, if it stands here. -/
def skipName (name : String) : Reader Bool := do
  if ← atName name then
    advance
    return true
  return false

/-- Moves past the operator, if it stands here. -/
def skipOperator (sign : String) : Reader Bool := do
  if ← atOperator sign then
    advance
    return true
  return false

/-- Moves past two names, if they stand here. -/
def skipNames (first second : String) : Reader Bool := do
  if ← atName first then
    if (← next).isName second then
      advance
      advance
      return true
  return false

/-- The token at this place is not what was expected. -/
def unexpected {α : Type} (expected : String) : Reader α := do
  match ← current with
  | .endOfTemplate => failHere (.expectedBeforeEnd expected)
  | found => failHere (.expectedToken expected found.description)

/-- Moves past the operator, which has to stand here. -/
def expectOperator (sign : String) : Reader Unit := do
  unless ← skipOperator sign do unexpected sign

/-- Moves past the keyword, which has to stand here. -/
def expectKeyword (name : String) : Reader Unit := do
  unless ← skipName name do unexpected name

/-- Moves past a name and returns it. -/
def expectName : Reader String := do
  match ← current with
  | .name name =>
    advance
    return name
  | _ => unexpected "name"

/-- Moves past the end of a print statement. -/
def expectPrintEnd : Reader Unit := do
  match ← current with
  | .printEnd => advance
  | _ => unexpected Token.printEnd.description

/-- Moves past the end of a block statement. -/
def expectBlockEnd : Reader Unit := do
  if ← atBlockEnd then advance else unexpected Token.blockEnd.description

/-- Where a row of expressions ends. -/
def atRowEnd (endName : Option String) : Reader Bool := do
  match ← current with
  | .printEnd | .blockEnd => return true
  | .operator ")" => return true
  | .name name => return endName == some name
  | _ => return false

/-- Reads operands with commas between, up to where a row ends: the operands, and the line of the
last comma if there is one. -/
def rowOf {α : Type} (operand : Reader α) (endName : Option String) :
    (fuel : Nat) → Reader (List α × Option Nat)
  | 0 => return ([], none)
  | fuel + 1 => do
    if ← atRowEnd endName then return ([], none)
    let first ← operand
    if ← atOperator "," then
      let comma ← line
      advance
      let (others, later) ← rowOf operand endName fuel
      return (first :: others, some (later.getD comma))
    return ([first], none)

/-- Reads items with commas between, up to a closing operator, which may follow a comma. -/
def itemsOf {α : Type} (closer : String) (item : Reader α) (first : Bool) :
    (fuel : Nat) → Reader (List α)
  | 0 => return []
  | fuel + 1 => do
    if ← atOperator closer then return []
    unless first do expectOperator ","
    if ← atOperator closer then return []
    let found ← item
    return found :: (← itemsOf closer item false fuel)

/-- Reads operands with signs between, from left to right. -/
def chain (combine : Token → Option (Expression → Expression → Expression))
    (operand : Reader Expression) : (fuel : Nat) → Expression → Reader Expression
  | 0, left => return left
  | fuel + 1, left => do
    match combine (← current) with
    | none => return left
    | some combined =>
      advance
      let right ← operand
      chain combine operand fuel (combined left right)

/-- Reads names with points between, behind the first one. -/
def dottedName : (fuel : Nat) → (name : String) → Reader String
  | 0, name => return name
  | fuel + 1, name => do
    if ← skipOperator "." then dottedName fuel (name ++ "." ++ (← expectName)) else return name

/-- Joins the quoted texts from here on. -/
def adjacentTexts : (fuel : Nat) → (content : String) → Reader String
  | 0, content => return content
  | fuel + 1, content => do
    match ← current with
    | .text more =>
      advance
      adjacentTexts fuel (content ++ more)
    | _ => return content

end Reader

end Shortcode.Template
