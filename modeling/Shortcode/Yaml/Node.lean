import Shortcode.Yaml.Scalar
import Shortcode.Yaml.Token

/-!
# Nodes of a YAML text

`Node.ofTokens` builds the tree that a text describes: scalars, sequences and mappings, each with
its kind.  An alias stands for the node of its anchor, which starts before it.  Inside of that node
itself an alias is a way back to a collection around.
-/

namespace Shortcode.Yaml

/-- A part of a YAML text.  A collection has a number, that of the tokens from its first one on. -/
inductive Node where
  | scalar (tag : Tag) (content : String)
  | sequence (tag : Tag) (place : Nat) (items : List Node)
  | mapping (tag : Tag) (place : Nat) (entries : List (Node × Node))
  /-- A collection around, by its number. -/
  | back (place : Nat)

/-- The kind of a node, for a way back that of a collection. -/
def Node.tag : Node → Tag
  | .scalar tag _ | .sequence tag .. | .mapping tag .. => tag
  | .back _ => .sequence

/-- A place between tokens, the anchors before it, the handles of tags, and whether a way back has
been found. -/
structure Assembly where
  tokens : List Token
  anchors : List (String × Node)
  handles : List (String × String)
  tied : Bool

/-- Assembles something from some tokens and moves on. -/
abbrev Assemble := StateT Assembly (Except LoadError)

namespace Assemble

/-- The tokens do not fit together. -/
def misfit {α : Type} : Assemble α := throw .malformed

/-- The token at this place; none at the end. -/
def current : Assemble (Option Token) := do
  match (← get).tokens.head? with
  | some (.noCharacter code) => throw (.scalar (.ofCode code))
  | token => return token

/-- Moves on by one token. -/
def advance : Assemble Unit := modify fun here => { here with tokens := here.tokens.tail }

/-- One of the tokens stands here. -/
def atAny (tokens : List Token) : Assemble Bool := do
  return (← current).any tokens.contains

/-- Moves past a token, if it stands here. -/
def skip (token : Token) : Assemble Bool := do
  if (← current) == some token then
    advance
    return true
  return false

/-- Moves past a token, which has to stand here. -/
def expect (token : Token) : Assemble Unit := do
  unless ← skip token do misfit

/-- A node without content. -/
def emptyNode : Node := .scalar .null ""

/-- The anchor of a node, if it has one. -/
def takeAnchor? : Assemble (Option String) := do
  match ← current with
  | some (.anchor name) =>
    advance
    return some name
  | _ => return none

/-- The tag of a node, if it has one, with its handle written out. -/
def takeTag? : Assemble (Option String) := do
  match ← current with
  | some (.tag handle suffix) =>
    advance
    match handle with
    | none => return some suffix
    | some handle =>
      match (← get).handles.lookup handle with
      | some lead => return some (lead ++ suffix)
      | none => misfit
  | _ => return none

/-- The kind of a node: the one that its tag names, or the one of its form. -/
def kindOf (tag : Option String) (form : Tag) : Tag :=
  match tag with
  | none => form
  | some "!" => form
  | some name => Tag.ofName name

/-- The signs that a plain scalar cannot be, which are reserved for YAML itself. -/
def reservedSigns : List String := ["!", "&", "*"]

/-- The kind of a scalar.  Without a tag only a plain one may be anything but a text. -/
def scalarKind (tag : Option String) (plain : Bool) (content : String) : Tag :=
  match tag with
  | none => if plain then Tag.ofPlain content else .text
  | some "!" =>
    if reservedSigns.contains content then Tag.ofName "tag:yaml.org,2002:yaml"
    else Tag.ofPlain content
  | some name => Tag.ofName name

/-- The number of tokens from this place on. -/
def place : Assemble Nat := do return (← get).tokens.length

/-- Remembers what an anchor stands for. -/
def remember (anchor : Option String) (node : Node) : Assemble Unit :=
  match anchor with
  | none => return
  | some name => modify fun here => { here with anchors := (name, node) :: here.anchors }

/-- The node that an alias stands for. -/
def aliased (name : String) : Assemble Node := do
  let here ← get
  match here.anchors.lookup name with
  | none => misfit
  | some (.back place) =>
    set { here with tied := true }
    return .back place
  | some node => return node

mutual

/-- Builds a node; `block` allows blocks in it, `indentless` a sequence that is not indented. -/
def node (block indentless : Bool) : (fuel : Nat) → Assemble Node
  | 0 => misfit
  | fuel + 1 => do
    match ← current with
    | some (.alias name) =>
      advance
      aliased name
    | _ =>
      let first ← takeAnchor?
      let tag ← takeTag?
      let anchor ← if first.isSome then pure first else takeAnchor?
      let here ← get
      if anchor.any fun name => (here.anchors.lookup name).isSome then misfit
      remember anchor (.back (← place))
      let node ← content block indentless tag (anchor.isSome || tag.isSome) fuel
      remember anchor node
      return node

/-- Builds what follows the anchor and the tag of a node. -/
def content (block indentless : Bool) (tag : Option String) (mayBeEmpty : Bool) :
    (fuel : Nat) → Assemble Node
  | 0 => misfit
  | fuel + 1 => do
    let place ← place
    match ← current with
    | some (.scalar content plain) =>
      advance
      return .scalar (scalarKind tag plain content) content
    | some .flowSequenceStart =>
      advance
      return .sequence (kindOf tag .sequence) place (← flowItems true fuel)
    | some .flowMappingStart =>
      advance
      return .mapping (kindOf tag .mapping) place (← flowEntries true fuel)
    | some .blockEntry =>
      if indentless then return .sequence (kindOf tag .sequence) place (← indentlessItems fuel)
      else if mayBeEmpty then return .scalar (scalarKind tag true "") ""
      else misfit
    | some .blockSequenceStart =>
      if block then
        advance
        return .sequence (kindOf tag .sequence) place (← blockItems fuel)
      else if mayBeEmpty then return .scalar (scalarKind tag true "") ""
      else misfit
    | some .blockMappingStart =>
      if block then
        advance
        return .mapping (kindOf tag .mapping) place (← blockEntries fuel)
      else if mayBeEmpty then return .scalar (scalarKind tag true "") ""
      else misfit
    | _ => if mayBeEmpty then return .scalar (scalarKind tag true "") "" else misfit

/-- Builds a node, or an empty one if one of the tokens stands here or the text ends. -/
def nodeUnless (ends : List Token) (block indentless : Bool) : (fuel : Nat) → Assemble Node
  | 0 => misfit
  | fuel + 1 => do
    if ← atAny ends then return emptyNode
    if (← current).isNone then return emptyNode
    node block indentless fuel

/-- Builds the items of an indented sequence. -/
def blockItems : (fuel : Nat) → Assemble (List Node)
  | 0 => misfit
  | fuel + 1 => do
    if ← skip .blockEntry then
      let item ← nodeUnless [.blockEntry, .blockEnd] true false fuel
      return item :: (← blockItems fuel)
    expect .blockEnd
    return []

/-- Builds the items of a sequence that is not indented. -/
def indentlessItems : (fuel : Nat) → Assemble (List Node)
  | 0 => misfit
  | fuel + 1 => do
    if ← skip .blockEntry then
      let item ← nodeUnless [.blockEntry, .key, .value, .blockEnd] true false fuel
      return item :: (← indentlessItems fuel)
    return []

/-- Builds the entries of an indented mapping. -/
def blockEntries : (fuel : Nat) → Assemble (List (Node × Node))
  | 0 => misfit
  | fuel + 1 => do
    let ends := [Token.key, .value, .blockEnd]
    if ← skip .key then
      let key ← nodeUnless ends true true fuel
      let content ←
        if ← skip .value then nodeUnless ends true true fuel else pure emptyNode
      return (key, content) :: (← blockEntries fuel)
    else if ← skip .value then
      let content ← nodeUnless ends true true fuel
      return (emptyNode, content) :: (← blockEntries fuel)
    expect .blockEnd
    return []

/-- Builds the items of a sequence in brackets.  A key among them is a mapping of its own. -/
def flowItems (first : Bool) : (fuel : Nat) → Assemble (List Node)
  | 0 => misfit
  | fuel + 1 => do
    if ← skip .flowSequenceEnd then return []
    unless first do expect .flowEntry
    if ← skip .flowSequenceEnd then return []
    let place ← place
    if ← skip .key then
      let key ← nodeUnless [.value, .flowEntry, .flowSequenceEnd] false false fuel
      let content ←
        if ← skip .value then nodeUnless [.flowEntry, .flowSequenceEnd] false false fuel
        else pure emptyNode
      return .mapping .mapping place [(key, content)] :: (← flowItems false fuel)
    let item ← node false false fuel
    return item :: (← flowItems false fuel)

/-- Builds the entries of a mapping in braces. -/
def flowEntries (first : Bool) : (fuel : Nat) → Assemble (List (Node × Node))
  | 0 => misfit
  | fuel + 1 => do
    if ← skip .flowMappingEnd then return []
    unless first do expect .flowEntry
    if ← skip .flowMappingEnd then return []
    if ← skip .key then
      let key ← nodeUnless [.value, .flowEntry, .flowMappingEnd] false false fuel
      let content ←
        if ← skip .value then nodeUnless [.flowEntry, .flowMappingEnd] false false fuel
        else pure emptyNode
      return (key, content) :: (← flowEntries false fuel)
    let key ← node false false fuel
    return (key, emptyNode) :: (← flowEntries false fuel)

end

/-- A document may start with directives, each of them at most once. -/
def directives (versionSeen : Bool) : (fuel : Nat) → Assemble Unit
  | 0 => misfit
  | fuel + 1 => do
    match ← current with
    | some (.version major) =>
      if versionSeen || major != 1 then misfit
      advance
      directives true fuel
    | some (.tagHandle handle lead) =>
      let here ← get
      if (here.handles.lookup handle).isSome && handle != "!" && handle != "!!" then misfit
      set { here with tokens := here.tokens.tail, handles := (handle, lead) :: here.handles }
      directives versionSeen fuel
    | some .reserved =>
      advance
      directives versionSeen fuel
    | _ => return

/-- Builds the node of the only document, or none if there is no document. -/
def document (fuel : Nat) : Assemble (Option Node) := do
  match ← current with
  | none => return none
  | some (.version _) | some (.tagHandle ..) | some .reserved | some .documentStart =>
    directives false fuel
    expect .documentStart
    let starts := match (← current) with
      | none | some (.version _) | some (.tagHandle ..) | some .reserved
      | some .documentStart | some .documentEnd => false
      | _ => true
    return some (← if starts then node true false fuel else pure emptyNode)
  | _ => return some (← node true false fuel)

/-- Nothing but ends of documents follows. -/
def finish : Assemble Unit := do
  match (← get).tokens.dropWhile (· == .documentEnd) with
  | [] => return
  | .noCharacter code :: _ => throw (.scalar (.ofCode code))
  | _ => misfit

end Assemble

/-- The handles that every document has. -/
def defaultHandles : List (String × String) := [("!", "!"), ("!!", "tag:yaml.org,2002:")]

/-- The tree of a text's tokens, and whether there is a way back in it; nothing for a text without
a document. -/
def Node.ofTokens (tokens : List Token) : Except LoadError (Option Node × Bool) :=
  let fuel := 4 * tokens.length + 8
  ((do
    let node ← Assemble.document fuel
    Assemble.finish
    return (node, (← get).tied) : Assemble (Option Node × Bool)).run
      ⟨tokens, [], defaultHandles, false⟩).map (·.1)

end Shortcode.Yaml
