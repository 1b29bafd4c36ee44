import Shortcode.Template.Reader.Expression
import Shortcode.Text.Blank

/-!
# Reading statements

A statement is read from its tag up to the end of its last block; the blocks that belong to it are
lists of statements up to one of the tags that it waits for.  Every statement of the language is
read, with its errors, also one that is never rendered.
-/

namespace Shortcode.Template

/-- What an expression is called that nothing can be assigned to. -/
def Expression.word : Expression → String
  | .constant _ => "const"
  | .name _ => "name"
  | .member .. => "getattr"
  | .item .. => "getitem"
  | .part .. => "slice"
  | .call .. => "call"
  | .filter .. => "filter"
  | .test .. => "test"
  | .negation _ => "not"
  | .conjunction .. => "and"
  | .disjunction .. => "or"
  | .comparison .. => "compare"
  | .arithmetic .add _ _ => "add"
  | .arithmetic .subtract _ _ => "sub"
  | .arithmetic .multiply _ _ => "mul"
  | .arithmetic .divide _ _ => "div"
  | .arithmetic .floorDivide _ _ => "floordiv"
  | .arithmetic .modulo _ _ => "mod"
  | .arithmetic .power _ _ => "pow"
  | .minus _ => "neg"
  | .plus _ => "pos"
  | .concatenation _ => "concat"
  | .choice .. | .option .. => "condexpr"
  | .list _ => "list"
  | .row _ => "tuple"
  | .map .. => "dict"

mutual

/-- The target that an expression is, or the word for one that is none. -/
def Expression.target (line : Nat) : Expression → Except String Target
  | .name found => .ok (.single line found)
  | .row items =>
    match Expression.targets line items with
    | .ok targets => .ok (.several targets)
    | .error _ => .error "tuple"
  | other => .error other.word

/-- The targets that several expressions are. -/
def Expression.targets (line : Nat) : List Expression → Except String (List Target)
  | [] => .ok []
  | first :: rest => do
    let first ← first.target line
    return first :: (← Expression.targets line rest)

end

/-- A statement that prints only blanks as they stand. -/
def Statement.isBlankText : Statement → Bool
  | .text content => content.toList.all Text.isBlank
  | _ => false

namespace Reader

/-- Reads one target, or a value that is none; a member only if `members` allows it. -/
def targetItem (members : Bool) (fuel : Nat) : Reader (Except String Target) := do
  let start ← line
  match ← current with
  | .name name =>
    if (constantName? name).isSome then return (← primary fuel).target start
    advance
    if members then
      if ← skipOperator "." then return .ok (.member name (← expectName))
    return .ok (.single start name)
  | _ => return (← primary fuel).target start

/-- Reads what a loop or an assignment sets: targets with commas between. -/
def target (members : Bool) (endName : Option String) (fuel : Nat) : Reader Target := do
  let start ← line
  let assignable (line : Nat) : Except String Target → Reader Target
    | .ok target => return target
    | .error word => fail line (.badTarget word)
  match ← rowOf (targetItem members fuel) endName fuel with
  | ([], none) => failHere (.expectedExpression (← current).description)
  | ([only], none) => assignable start only
  | (items, comma) =>
    let targets : Except String (List Target) := items.mapM id
    assignable (comma.getD start)
      (targets.mapError (fun _ => "tuple") |>.map Target.several)

/-- Reads a name that a statement sets, and its line. -/
def targetName : Reader (Nat × String) := do
  let start ← line
  let name ← expectName
  if (constantName? name).isSome then fail start (.badTarget "name")
  return (start, name)

/-- What is said of the statements that are open here. -/
def openTags : Reader OpenTags := do
  let place ← get
  return ⟨place.awaited.headD [], place.awaited.flatten, place.opened.head?⟩

/-- Moves past the words that say which names another template may see, if they stand here. -/
def skipContext : Reader Bool := do
  if ← skipNames "with" "context" then return true
  skipNames "without" "context"

/-- Reads the names that are taken from another template. -/
def importedNames (first : Bool) : (fuel : Nat) → Reader Unit
  | 0 => return ()
  | fuel + 1 => do
    unless first do expectOperator ","
    match ← current with
    | .name _ =>
      if ← skipContext then return ()
      let (start, name) ← targetName
      if name.startsWith "_" then fail start .privateImport
      if ← skipName "as" then let _ ← targetName
      if ← skipContext then return ()
      if ← atOperator "," then importedNames false fuel
    | _ => unexpected "name"

/-- Reads the parameters of a definition, up to the parenthesis: the values that some have. -/
def parameters (first defaults : Bool) : (fuel : Nat) → Reader (List Expression)
  | 0 => return []
  | fuel + 1 => do
    if ← skipOperator ")" then return []
    unless first do expectOperator ","
    let _ ← targetName
    if ← skipOperator "=" then
      let content ← expression true fuel
      return content :: (← parameters false true fuel)
    if defaults then failHere .defaultBeforeOthers
    parameters false false fuel

/-- Reads the parameters of a definition. -/
def signature (fuel : Nat) : Reader (List Expression) := do
  expectOperator "("
  parameters true false fuel

/-- Reads filters with bars between, the first of which has none before it if `inline` says so. -/
def filters (inline : Bool) : (fuel : Nat) → Expression → Reader Expression
  | 0, subject => return subject
  | fuel + 1, subject => do
    if inline then filters false fuel (← filterUse fuel subject)
    else if ← skipOperator "|" then filters false fuel (← filterUse fuel subject)
    else return subject

/-- Reads values with commas between, up to the end of the statement. -/
def printed (first : Bool) : (fuel : Nat) → Reader (List Expression)
  | 0 => return []
  | fuel + 1 => do
    if ← atBlockEnd then return []
    unless first do expectOperator ","
    let subject ← expression true fuel
    return subject :: (← printed false fuel)

/-- Reads targets with their values, up to the end of the statement. -/
def bindings (first : Bool) : (fuel : Nat) → Reader (List (Target × Expression))
  | 0 => return []
  | fuel + 1 => do
    if ← atBlockEnd then return []
    unless first do expectOperator ","
    let found ← target false none fuel
    expectOperator "="
    let subject ← expression true fuel
    return (found, subject) :: (← bindings false fuel)

/-- The tags that start a statement, those whose statement has no body first. -/
def statementTags : List String :=
  ["print", "extends", "include", "import", "from", "set", "if", "for", "with", "filter", "block",
    "macro", "call", "autoescape"]

/-- Reads a statement that is a line of its own, behind its tag. -/
def lineStatement (tag : String) (start fuel : Nat) : Reader (List Statement) := do
  match tag with
  | "print" => return (← printed true fuel).map .print
  | "extends" => return [.extends start (← expression true fuel)]
  | "include" =>
    let template ← expression true fuel
    let _ ← skipNames "ignore" "missing"
    let _ ← skipContext
    return [.reserved tag [template] []]
  | "import" =>
    let template ← expression true fuel
    expectKeyword "as"
    let _ ← targetName
    let _ ← skipContext
    return [.reserved tag [template] []]
  | _ =>
    let template ← expression true fuel
    expectKeyword "import"
    importedNames true fuel
    return [.reserved tag [template] []]

mutual

/-- Reads statements up to one of the tags that end them, or to the end of the template. -/
def statements (ends : List String) : (fuel : Nat) → Reader (List Statement)
  | 0 => return []
  | fuel + 1 => do
    match ← current with
    | .data content =>
      advance
      return .text content :: (← statements ends fuel)
    | .printBegin =>
      advance
      let subject ← row true false none fuel
      expectPrintEnd
      return .print subject :: (← statements ends fuel)
    | .blockBegin =>
      advance
      if ← atOneOf ends then return []
      let next ← statement fuel
      expectBlockEnd
      return next ++ (← statements ends fuel)
    | _ => return []

/-- Reads the statements inside another one, up to one of the tags, and returns that tag. -/
def body (ends : List String) : (fuel : Nat) → Reader (List Statement × String)
  | 0 => failHere (.unexpectedToken "")
  | fuel + 1 => do
    let _ ← skipOperator ":"
    expectBlockEnd
    modify fun place => { place with awaited := ends :: place.awaited }
    let inner ← statements ends fuel
    match ← current with
    | .name tag =>
      modify fun place => { place with awaited := place.awaited.tail }
      advance
      return (inner, tag)
    | _ => failHere (.unclosedTag (← openTags))

/-- Reads a statement, from its tag up to the end of its last block. -/
def statement : (fuel : Nat) → Reader (List Statement)
  | 0 => failHere (.unexpectedToken "")
  | fuel + 1 => do
    let start ← line
    match ← current with
    | .name tag =>
      if statementTags.contains tag then
        modify fun place => { place with opened := tag :: place.opened }
        advance
        let found ← match tag with
          | "if" => branches fuel
          | "for" => loopStatement fuel
          | "set" => assignment fuel
          | "with" | "filter" | "block" => enclosing tag start fuel
          | "macro" | "call" | "autoescape" => definition tag start fuel
          | _ => lineStatement tag start fuel
        modify fun place => { place with opened := place.opened.tail }
        return found
      else fail start (.unknownTag tag (← openTags))
    | _ => fail start .expectedTagName

/-- Reads a condition and what depends on it. -/
def branches : (fuel : Nat) → Reader (List Statement)
  | 0 => failHere (.unexpectedToken "")
  | fuel + 1 => do
    let condition ← row false false none fuel
    let (yes, tag) ← body ["elif", "else", "endif"] fuel
    if tag == "elif" then return [.choose condition yes (← branches fuel)]
    if tag == "else" then
      let (no, _) ← body ["endif"] fuel
      return [.choose condition yes no]
    return [.choose condition yes []]

/-- Reads a loop. -/
def loopStatement : (fuel : Nat) → Reader (List Statement)
  | 0 => failHere (.unexpectedToken "")
  | fuel + 1 => do
    let found ← target false (some "in") fuel
    expectKeyword "in"
    let source ← row false false (some "recursive") fuel
    let condition ←
      if ← skipName "if" then expression true fuel else pure (.constant (.bool true))
    let _ ← skipName "recursive"
    let (inner, tag) ← body ["endfor", "else"] fuel
    if tag == "else" then
      let (otherwise, _) ← body ["endfor"] fuel
      return [.loop found source condition inner otherwise]
    return [.loop found source condition inner []]

/-- Reads an assignment of a value, or of the text up to its end tag. -/
def assignment : (fuel : Nat) → Reader (List Statement)
  | 0 => failHere (.unexpectedToken "")
  | fuel + 1 => do
    let found ← target true none fuel
    if ← skipOperator "=" then return [.assign found (← row true false none fuel)]
    let result ← filters false fuel (.name collectedName)
    let (inner, _) ← body ["endset"] fuel
    return [.capture found result inner]

/-- Reads a statement around a body that is printed. -/
def enclosing (tag : String) (start : Nat) : (fuel : Nat) → Reader (List Statement)
  | 0 => failHere (.unexpectedToken "")
  | fuel + 1 => do
    match tag with
    | "with" =>
      let found ← bindings true fuel
      let (inner, _) ← body ["endwith"] fuel
      return [.bind (found.map (·.1)) (found.map (·.2)) inner]
    | "filter" =>
      let result ← filters true fuel (.name collectedName)
      let (inner, _) ← body ["endfilter"] fuel
      return [.transform result inner]
    | _ =>
      let name ← expectName
      let _ ← skipName "scoped"
      let required ← skipName "required"
      if ← atOperator "-" then failHere .hyphenInBlock
      let (inner, _) ← body ["endblock"] fuel
      if required && !inner.all Statement.isBlankText then failHere .filledRequiredBlock
      let _ ← skipName name
      return [.block start name required inner]

/-- Reads a statement around a body that is kept for later. -/
def definition (tag : String) (start : Nat) : (fuel : Nat) → Reader (List Statement)
  | 0 => failHere (.unexpectedToken "")
  | fuel + 1 => do
    match tag with
    | "macro" =>
      let _ ← targetName
      let defaults ← signature fuel
      let (inner, _) ← body ["endmacro"] fuel
      return [.reserved tag defaults inner]
    | "call" =>
      let defaults ← if ← atOperator "(" then signature fuel else pure []
      let subject ← expression true fuel
      match subject with
      | .call .. =>
        let (inner, _) ← body ["endcall"] fuel
        return [.reserved tag (defaults ++ [subject]) inner]
      | _ => fail start .expectedCall
    | _ =>
      let subject ← expression true fuel
      let (inner, _) ← body ["endautoescape"] fuel
      return [.reserved tag [subject] inner]

end

end Reader

end Shortcode.Template
