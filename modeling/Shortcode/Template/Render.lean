import Shortcode.Template.Binding
import Shortcode.Template.Evaluate

/-!
# Rendering

`Tree.render` prints a template with names bound to values.  The first failure ends the rendering.
What a loop, its body or another inner body sets is forgotten behind it; what the branches of a
choice set stays.
-/

namespace Shortcode.Template

/-! ## Targets -/

mutual

/-- Whether a target is a member of something, or holds one. -/
def Target.hasMember : Target → Bool
  | .single .. => false
  | .member .. => true
  | .several targets => anyHasMember targets

/-- Whether one of several targets holds a member. -/
def anyHasMember : List Target → Bool
  | [] => false
  | first :: rest => first.hasMember || anyHasMember rest

end

/-- The members of a value cannot be set. -/
def fixedMember : RenderError := ⟨.template, "cannot assign attribute on non-namespace object"⟩

mutual

/-- Binds the names of a target to a value or to its items; a name that is repeated keeps the last
one. -/
def Scope.bind (scope : Scope) (content : Value) : Target → Except RenderError Scope
  | .single _ name => .ok (scope.set name content)
  | .member .. => .error fixedMember
  | .several targets => do bindAll scope (← content.unpack targets.length) targets

/-- Binds targets to values, one by one. -/
def bindAll (scope : Scope) (contents : List Value) : List Target → Except RenderError Scope
  | [] => .ok scope
  | first :: rest =>
    match contents with
    | [] => .ok scope
    | content :: contents => do bindAll (← scope.bind content first) contents rest

end

/-! ## Loops -/

/-- The rounds of a loop: the items that meet the condition, each with the scope in which its target
is bound, and the failure that ends them. -/
structure Rounds where
  items : List (Value × Scope)
  failure : Option RenderError

/-- Whether an item takes part in a loop, and the scope of its round. -/
def roundOf (scope : Scope) (target : Target) (condition : Expression) (item : Value) :
    Except RenderError (Bool × Scope) := do
  let scope ← scope.bind item target
  return (← (← condition.eval scope).condition, scope)

/-- The rounds of a loop through items. -/
def Rounds.ofItems (scope : Scope) (target : Target) (condition : Expression) :
    (items : List Value) → Rounds
  | [] => ⟨[], none⟩
  | item :: rest =>
    match roundOf scope target condition item with
    | .error error => ⟨[], some error⟩
    | .ok (kept, round) =>
      let later := Rounds.ofItems scope target condition rest
      if kept then { later with items := (item, round) :: later.items } else later

/-- What a loop tells its body about a round. -/
def loopRecord (items : List Value) (index : Nat) : Value :=
  let length := items.length
  let neighbour (found : Option Value) (side : String) : Value :=
    found.getD (.missing (.noted ("there is no " ++ side ++ " item")))
  let look := "<LoopContext " ++ Nat.repr (index + 1) ++ "/" ++ Nat.repr length ++ ">"
  .object "LoopContext" look [
    ("index", .int (index + 1)), ("index0", .int index),
    ("revindex", .int (length - index)), ("revindex0", .int (length - index - 1)),
    ("first", .bool (index == 0)), ("last", .bool (index + 1 == length)),
    ("length", .int length), ("depth", .int 1), ("depth0", .int 0),
    ("previtem", neighbour (if index == 0 then none else items[index - 1]?) "previous"),
    ("nextitem", neighbour items[index + 1]? "next")] none

/-- The scopes of a loop's rounds, with what the loop tells of each. -/
def Rounds.scopes (rounds : Rounds) : List Scope :=
  let items := rounds.items.map (·.1)
  rounds.items.zipIdx.map fun ((_, scope), index) => scope.set "loop" (loopRecord items index)

/-! ## Statements -/

/-- Where statements are rendered: the names that are known around them, and what the blocks among
them see, unless that is what they see themselves. -/
structure Surroundings where
  known : List String
  outermost : Option Scope

/-- What the blocks among statements see. -/
def Surroundings.blockScope (around : Surroundings) (scope : Scope) : Scope :=
  around.outermost.getD scope

/-- Enters a body: the names that belong to it are missing at first. -/
def Surroundings.enter (around : Surroundings) (own : List String) (scope : Scope)
    (body : List Statement) : Surroundings × Scope :=
  let names := Names.ofBody (own ++ around.known) body
  (⟨names.known, some (around.blockScope scope)⟩,
    names.own.foldl (fun scope name => scope.set name (.missing (.name name))) scope)

/-- A statement that is never rendered. -/
def unavailable (keyword : String) : RenderError :=
  ⟨.template, "the statement " ++ quote keyword ++ " is not available"⟩

mutual

/-- The text that a statement prints, and the names bound after it. -/
def Statement.run (around : Surroundings) (scope : Scope) :
    Statement → Except RenderError (String × Scope)
  | .text content => .ok (content, scope)
  | .print subject => do return (← (← subject.eval scope).print, scope)
  | .choose condition yes no => do
    if ← (← condition.eval scope).condition then runAll around scope yes
    else runAll around scope no
  | .loop target source condition body otherwise => do
    let rounds := Rounds.ofItems scope target condition (← (← source.eval scope).items)
    let own := "loop" :: target.mentions.map Mention.name
    if rounds.items.isEmpty && rounds.failure.isNone then
      let (inside, inner) := around.enter [] scope otherwise
      let (text, _) ← runAll inside inner otherwise
      return (text, scope)
    let texts ← rounds.scopes.mapM fun round => do
      let (inside, inner) := around.enter own round body
      let (text, _) ← runAll inside inner body
      return text
    if let some error := rounds.failure then throw error
    return (String.join texts, scope)
  | .assign target subject => do
    if target.hasMember then throw fixedMember
    return ("", ← scope.bind (← subject.eval scope) target)
  | .capture target result body => do
    let (inside, inner) := around.enter [] scope body
    let (text, inner) ← runAll inside inner body
    return ("", ← scope.bind (← result.eval (inner.set collectedName (.text text))) target)
  | .bind targets subjects body => do
    let contents ← evalAll scope subjects
    let bound ← bindAll scope contents targets
    let (inside, inner) :=
      around.enter ((mentionsOfTargets targets).map Mention.name) bound body
    let (text, _) ← runAll inside inner body
    return (text, scope)
  | .transform result body => do
    let (inside, inner) := around.enter [] scope body
    let (text, inner) ← runAll inside inner body
    return (← (← result.eval (inner.set collectedName (.text text))).print, scope)
  | .block _ name required body => do
    if required then throw ⟨.template, "Required block " ++ quote name ++ " not found"⟩
    let outermost := around.blockScope scope
    let (inside, inner) := Surroundings.enter ⟨[], some outermost⟩ [] outermost body
    let (text, _) ← runAll inside inner body
    return (text, scope)
  | .extends .. => .error (unavailable "extends")
  | .reserved keyword _ _ => .error (unavailable keyword)

/-- The text that several statements print, and the names bound after them. -/
def runAll (around : Surroundings) (scope : Scope) :
    List Statement → Except RenderError (String × Scope)
  | [] => .ok ("", scope)
  | first :: rest => do
    let (text, scope) ← first.run around scope
    let (others, scope) ← runAll around scope rest
    return (text ++ others, scope)

end

/-- The object that stands for the template of a file in the template itself. -/
def templateObject (file : String) : Value :=
  .object "TemplateReference" ("<TemplateReference " ++ quote file ++ ">") [] none

/-- The text of a template. -/
def Tree.render (tree : Tree) (scope : Scope) : Except RenderError String :=
  let names := Names.ofBody [] tree
  let start := names.own.foldl (fun scope name => scope.set name (.missing (.name name))) scope
  (runAll ⟨names.known, none⟩ start tree).map (·.1)

end Shortcode.Template
