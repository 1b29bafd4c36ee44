import Shortcode.Value.Display
import Shortcode.Yaml.Loader
import Shortcode.Yaml.Node

/-!
# Loading YAML

`load` makes the value that a YAML text describes.  A repeated key keeps its place and takes the
last value; the entries that `<<` merges come before those of the mapping itself.  A mapping that is
tagged as a scalar stands for the scalar under its key `=`.  A collection may hold itself.  Of
several errors the one counts that is nested least deep, and of these the first.
-/

namespace Shortcode.Yaml

/-- What comes of a part of a text: a value, or an error and the depth that it is nested. -/
abbrev Outcome (α : Type) := Except (Nat × LoadError) α

namespace Outcome

/-- What comes of a part, seen from the collection that it is in. -/
def nested {α : Type} (outcome : Outcome α) : Outcome α :=
  outcome.mapError fun (depth, error) => (depth + 1, error)

/-- What comes of two parts together. -/
def both {α β : Type} (first : Outcome α) (second : Outcome β) : Outcome (α × β) :=
  match first, second with
  | .ok left, .ok right => .ok (left, right)
  | .error left, .ok _ => .error left
  | .ok _, .error right => .error right
  | .error left, .error right => .error (if left.1 ≤ right.1 then left else right)

/-- What comes of several parts together. -/
def gather {α : Type} : List (Outcome α) → Outcome (List α)
  | [] => .ok []
  | first :: rest => (both first (gather rest)).map fun (first, rest) => first :: rest

end Outcome

/-- The entries of a mapping. -/
abbrev Entries := List (Outcome (Value × Value))

mutual

/-- The scalar that a node is, or that stands under the key of default values. -/
def Node.scalar? : Node → Option String
  | .scalar _ content => some content
  | .mapping _ _ entries => defaultScalar? entries
  | _ => none

/-- The scalar under the first key of default values. -/
def defaultScalar? : List (Node × Node) → Option String
  | [] => none
  | (key, source) :: rest =>
    if key.tag == .default then source.scalar? else defaultScalar? rest

end

/-- The tag names a kind of collection. -/
def Tag.isCollection : Tag → Bool
  | .sequence | .mapping | .pairs | .set => true
  | _ => false

/-- What comes of a node of another form than its tag names: the contents of a collection are looked
at later than a scalar. -/
def misnamed {α : Type} (tag : Tag) : Outcome α :=
  .error (if tag.isCollection then 1 else 0, .malformed)

/-- The value of a node that is tagged as a scalar, or is one. -/
def Node.scalarValue (node : Node) (tag : Tag) : Outcome Value :=
  match node.scalar?, node, tag with
  | none, _, _ => misnamed tag
  | some _, .mapping .., .timestamp => .error (0, .scalar .mappedTimestamp)
  | some content, _, _ =>
    if tag.isCollection then misnamed tag else (Yaml.scalarValue tag content).mapError ((0, ·))

/-- The value of a key.  Collections are no keys. -/
def Node.key (node : Node) : Outcome Value :=
  match node, node.tag with
  | .scalar _ content, .default => .ok (.text content)
  | _, tag => if tag.isCollection then .error (0, .malformed) else node.scalarValue tag

/-- The set of some values. -/
def setOf (items : List Value) : Value :=
  let shown := items.map Value.shown
  .object "set" (if items.isEmpty then "set()" else "\x7b" ++ ", ".intercalate shown ++ "\x7d") []
    (some items)

/-- A collection keeps its number in a text in which one holds itself. -/
def numbered (tied : Bool) (place : Nat) (collection : Outcome Value) : Outcome Value :=
  Outcome.nested (if tied then collection.map (Value.numbered place) else collection)

mutual

/-- The value of a node; `tied` tells whether a collection holds itself. -/
def Node.value (tied : Bool) : Node → Outcome Value
  | .scalar tag content => (Node.scalar tag content).scalarValue tag
  | .sequence tag place items =>
    match tag with
    | .sequence => numbered tied place ((valuesOf tied items).map Value.list)
    | .pairs => numbered tied place ((pairsOf tied items).map Value.list)
    | _ => misnamed tag
  | .mapping tag place entries =>
    match tag with
    | .mapping =>
      numbered tied place do
        let (merged, own) ← entriesOf tied entries
        return .map (Value.merge [] (← Outcome.gather (merged ++ own)))
    | .set =>
      numbered tied place do
        let (merged, own) ← entriesOf tied entries
        let kept := Value.merge [] (← Outcome.gather (merged ++ own))
        return setOf (kept.map (·.1))
    | _ => (Node.mapping tag place entries).scalarValue tag
  | .back place => .ok (.cycle [] place)

/-- The values of nodes. -/
def valuesOf (tied : Bool) : List Node → Outcome (List Value)
  | [] => .ok []
  | first :: rest =>
    (Outcome.both (first.value tied) (valuesOf tied rest)).map fun (first, rest) => first :: rest

/-- The pairs of nodes that are mappings with one entry each. -/
def pairsOf (tied : Bool) : List Node → Outcome (List Value)
  | [] => .ok []
  | .mapping _ _ [(key, source)] :: rest =>
    (Outcome.both (Outcome.both (key.value tied) (source.value tied)) (pairsOf tied rest)).map
      fun ((key, content), rest) => .tuple [key, content] :: rest
  | _ :: rest =>
    (Outcome.both (.error (0, .malformed) : Outcome Unit) (pairsOf tied rest)).map (·.2)

/-- The entries that a mapping merges, and its own. -/
def entriesOf (tied : Bool) : List (Node × Node) → Outcome (Entries × Entries)
  | [] => .ok ([], [])
  | (key, source) :: rest =>
    if key.tag = .merge then do
      let first ← mergedFrom tied source
      let (merged, own) ← entriesOf tied rest
      return (first ++ merged, own)
    else do
      let content := source.value tied
      let (merged, own) ← entriesOf tied rest
      return (merged, Outcome.both key.key content :: own)

/-- The entries of a node that is merged: a mapping, or a sequence of mappings of which the first
ones win.  A mapping that merges itself gains nothing. -/
def mergedFrom (tied : Bool) : Node → Outcome Entries
  | .mapping _ _ entries => do
    let (merged, own) ← entriesOf tied entries
    return merged ++ own
  | .sequence _ _ items => mergedFromAll tied items
  | .scalar .. => .error (0, .malformed)
  | .back _ => .ok []

/-- The entries of several mappings that are merged, the last one first. -/
def mergedFromAll (tied : Bool) : List Node → Outcome Entries
  | [] => .ok []
  | .mapping _ _ entries :: rest => do
    let (merged, own) ← entriesOf tied entries
    return (← mergedFromAll tied rest) ++ merged ++ own
  | .back _ :: rest => mergedFromAll tied rest
  | _ :: _ => .error (0, .malformed)

end

/-- The value of a YAML text; nothing for a text without a document. -/
def load (text : List Char) : Except LoadError Value :=
  match tokens? text with
  | none => .error .malformed
  | some tokens => do
    match ← Node.ofTokens tokens with
    | (none, _) => return .null
    | (some node, tied) => (node.value tied).map Value.opened |>.mapError (·.2)

/-- The reason why a text has no value. -/
def LoadError.flaw : LoadError → Flaw
  | .malformed => .malformed "the text is malformed"
  | .scalar error => .raised ⟨error.kind, error.message⟩

/-- The loader of this library. -/
def loader : Loader := fun text => (load text).mapError LoadError.flaw

end Shortcode.Yaml
