import Shortcode.Template.Constant
import Shortcode.Template.Reader.Statement

/-!
# Checking a template

`Tree.read` reads a template, works its constants out and checks it: filters and tests exist, but for
those inside a choice, which are looked for when they are used; no loop sets its own record; blocks
have different names; constants can be written.  The first flaw in the order of the template counts.
-/

namespace Shortcode.Template

mutual

/-- The first flaw of an expression whose constants are worked out; inside a choice a filter or a
test need not exist. -/
def Expression.flaw? (inChoice : Bool) : Expression → Option ReadFailure
  | .constant content => if content.exceeds digitLimit then some (.crashed tooLong) else none
  | .name _ => none
  | .member subject _ => subject.flaw? inChoice
  | .item subject index => (subject.flaw? inChoice).or (index.flaw? inChoice)
  | .part start stop step =>
    ((start.flaw? inChoice).or (stop.flaw? inChoice)).or (step.flaw? inChoice)
  | .call subject _ arguments => (subject.flaw? inChoice).or (flawAmong? inChoice arguments)
  | .filter line subject name _ arguments =>
    if inChoice || filterNames.contains name then
      (subject.flaw? inChoice).or (flawAmong? inChoice arguments)
    else some (.malformed ⟨line, .unknownFilter name⟩)
  | .test line subject name _ arguments =>
    if inChoice || testNames.contains name then
      (subject.flaw? inChoice).or (flawAmong? inChoice arguments)
    else some (.malformed ⟨line, .unknownTest name⟩)
  | .negation subject => subject.flaw? inChoice
  | .conjunction left right => (left.flaw? inChoice).or (right.flaw? inChoice)
  | .disjunction left right => (left.flaw? inChoice).or (right.flaw? inChoice)
  | .comparison first _ others => (first.flaw? inChoice).or (flawAmong? inChoice others)
  | .arithmetic _ left right => (left.flaw? inChoice).or (right.flaw? inChoice)
  | .minus subject => subject.flaw? inChoice
  | .plus subject => subject.flaw? inChoice
  | .concatenation parts => flawAmong? inChoice parts
  | .choice condition yes no => ((yes.flaw? true).or (condition.flaw? true)).or (no.flaw? true)
  | .option _ condition yes => (yes.flaw? true).or (condition.flaw? true)
  | .list items => flawAmong? inChoice items
  | .row items => flawAmong? inChoice items
  | .map keys contents => (flawAmong? inChoice keys).or (flawAmong? inChoice contents)

/-- The first flaw of several expressions. -/
def flawAmong? (inChoice : Bool) : List Expression → Option ReadFailure
  | [] => none
  | first :: rest => (first.flaw? inChoice).or (flawAmong? inChoice rest)

end

mutual

/-- The expression with its constants worked out, if it has no flaw. -/
def Expression.checked (inChoice : Bool) : Expression → Except ReadFailure Expression
  | .list items => do return .list (← checkedAll inChoice items)
  | .row items => do return .row (← checkedAll inChoice items)
  | .map keys contents => do
    let keys ← checkedAll inChoice keys
    return .map keys (← checkedAll inChoice contents)
  | other => do
    let folded ← other.fold.mapError .crashed
    match folded.flaw? inChoice with
    | some failure => throw failure
    | none => return folded

/-- Several expressions with their constants worked out, if none has a flaw. -/
def checkedAll (inChoice : Bool) : List Expression → Except ReadFailure (List Expression)
  | [] => .ok []
  | first :: rest => do
    let first ← first.checked inChoice
    return first :: (← checkedAll inChoice rest)

end

/-! ## Statements -/

mutual

/-- The names that a target sets, and their lines. -/
def Target.lines : Target → List (Nat × String)
  | .single line name => [(line, name)]
  | .member .. => []
  | .several targets => linesOfTargets targets

/-- The names that several targets set, and their lines. -/
def linesOfTargets : List Target → List (Nat × String)
  | [] => []
  | first :: rest => first.lines ++ linesOfTargets rest

end

mutual

/-- The names that a statement and the statements in it set, and their lines. -/
def Statement.lines : Statement → List (Nat × String)
  | .text _ | .print _ | .extends .. => []
  | .choose _ yes no => linesWithin yes ++ linesWithin no
  | .loop target _ _ body otherwise => target.lines ++ linesWithin body ++ linesWithin otherwise
  | .assign target _ => target.lines
  | .capture target _ body => target.lines ++ linesWithin body
  | .bind _ _ body => linesWithin body
  | .transform _ body => linesWithin body
  | .block _ _ _ body => linesWithin body
  | .reserved _ _ body => linesWithin body

/-- The names that several statements set, and their lines. -/
def linesWithin : List Statement → List (Nat × String)
  | [] => []
  | first :: rest => first.lines ++ linesWithin rest

end

mutual

/-- The blocks of a statement, with their lines. -/
def Statement.blocks : Statement → List (Nat × String)
  | .text _ | .print _ | .extends .. | .assign .. => []
  | .choose _ yes no => blocksWithin yes ++ blocksWithin no
  | .loop _ _ _ body otherwise => blocksWithin body ++ blocksWithin otherwise
  | .capture _ _ body => blocksWithin body
  | .bind _ _ body => blocksWithin body
  | .transform _ body => blocksWithin body
  | .block line name _ body => (line, name) :: blocksWithin body
  | .reserved _ _ body => blocksWithin body

/-- The blocks of several statements, with their lines. -/
def blocksWithin : List Statement → List (Nat × String)
  | [] => []
  | first :: rest => first.blocks ++ blocksWithin rest

end

/-- The first block whose name an earlier one has. -/
def repeated (seen : List String) : (blocks : List (Nat × String)) → Option Error
  | [] => none
  | (line, name) :: rest =>
    if seen.contains name then some ⟨line, .repeatedBlock name⟩ else repeated (name :: seen) rest

/-- Where a statement stands. -/
structure Standing where
  /-- Directly in the template, or in choices there. -/
  outermost : Bool
  /-- Directly in a choice. -/
  inChoice : Bool

/-- The standing of the statements in a body of its own. -/
def Standing.inner : Standing := ⟨false, false⟩

mutual

/-- The statement with its constants worked out, if it has no flaw. -/
def Statement.checked (standing : Standing) : Statement → Except ReadFailure Statement
  | .text content => .ok (.text content)
  | .print subject =>
    match subject.constantText? with
    | some content => .ok (.text content)
    | none => (subject.checked standing.inChoice).map .print
  | .choose condition yes no => do
    let standing := { standing with inChoice := true }
    let condition ← condition.checked true
    let yes ← checkedWithin standing yes
    return .choose condition yes (← checkedWithin standing no)
  | .loop target source condition body otherwise => do
    let condition ← condition.checked false
    let names := target.lines ++ linesWithin body ++ linesWithin otherwise
    if let some (line, _) := names.find? (·.2 == "loop") then
      throw (.malformed ⟨line, .loopTarget⟩)
    let source ← source.checked standing.inChoice
    let body ← checkedWithin .inner body
    return .loop target source condition body (← checkedWithin .inner otherwise)
  | .assign target subject => do return .assign target (← subject.checked standing.inChoice)
  | .capture target result body => do
    let body ← checkedWithin .inner body
    return .capture target (← result.checked false) body
  | .bind targets subjects body => do
    let subjects ← checkedAll standing.inChoice subjects
    return .bind targets subjects (← checkedWithin .inner body)
  | .transform result body => do
    let body ← checkedWithin .inner body
    return .transform (← result.checked false) body
  | .block line name required body => do
    return .block line name required (← checkedWithin .inner body)
  | .extends line template => do
    unless standing.outermost do throw (.malformed ⟨line, .innerExtends⟩)
    return .extends line (← template.checked standing.inChoice)
  | .reserved keyword subjects body => do
    let subjects ← checkedAll standing.inChoice subjects
    return .reserved keyword subjects (← checkedWithin .inner body)

/-- Several statements with their constants worked out, if none has a flaw. -/
def checkedWithin (standing : Standing) : List Statement → Except ReadFailure (List Statement)
  | [] => .ok []
  | first :: rest => do
    let first ← first.checked standing
    return first :: (← checkedWithin standing rest)

end

/-! ## Templates -/

/-- The tree of a template's tokens. -/
def Tree.ofScan (file : String) (scan : Scan) : Except ReadFailure Tree := do
  let fuel := 32 * (scan.lexemes.length + 2)
  let start : Place := ⟨file, ⟨1, .endOfTemplate⟩, scan.lexemes, scan.failure, [], []⟩
  let (tree, _) ← (do Reader.advance; Reader.statements [] fuel : Reader Tree).run start
  if let some error := repeated [] (blocksWithin tree) then throw (.malformed error)
  checkedWithin ⟨true, false⟩ tree

/-- Reads the template of a file. -/
def Tree.read (file text : String) : Except ReadFailure Tree := Tree.ofScan file (scan text)

end Shortcode.Template
