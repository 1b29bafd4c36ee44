import Shortcode.Template.Error
import Shortcode.Value.Display

/-!
# Using values

What a template may do with any value: test it, print it, go through its items, count them.  What is
missing allows none of this, but for the missing second alternative of a choice, which counts as
empty.
-/

namespace Shortcode

open Template

/-- What is said of something missing. -/
def Missing.message : Missing → String
  | .name missing => quote missing ++ " is undefined"
  | .member owner missing => quote owner ++ " has no attribute " ++ quote missing
  | .item owner index => owner ++ " has no element " ++ index
  | .noted note => note
  | .alternative place =>
    "the inline if-expression on " ++ place ++
      " evaluated to false and no else section was defined."

/-- The use of something missing. -/
def Missing.error (missing : Missing) : RenderError := ⟨.undefined, missing.message⟩

/-- A whole number that is too long to be written. -/
def tooLong : RenderError := ⟨.value, TooLong.number.message⟩

namespace Value

/-- What a value is called as the owner of a member. -/
def ownerWord : Value → String
  | .null => "None"
  | .markup _ => "markupsafe.Markup object"
  | .object "LoopContext" .. => "jinja2.runtime.LoopContext object"
  | .object "TemplateReference" .. => "jinja2.runtime.TemplateReference object"
  | other => other.kindWord ++ " object"

/-- The value, unless it is missing. -/
def present : Value → Except RenderError Value
  | .missing what => .error what.error
  | other => .ok other

/-- Whether a condition on the value holds. -/
def condition : Value → Except RenderError Bool
  | .missing (.alternative _) => .ok false
  | .missing what => .error what.error
  | other => .ok other.isTrue

/-- The text that the value prints. -/
def print : Value → Except RenderError String
  | .missing (.alternative _) => .ok ""
  | .missing what => .error what.error
  | other => other.written.mapError fun _ => tooLong

/-- The items of the value; a value without items is an error that `problem` words by its kind. -/
def itemsOr (problem : String → String) (subject : Value) : Except RenderError (List Value) :=
  match subject.items?, subject with
  | some items, _ => .ok items
  | none, .missing what => .error what.error
  | none, other => .error (.ofType (problem other.kindWord))

/-- The items that a loop goes through. -/
def items (subject : Value) : Except RenderError (List Value) :=
  subject.itemsOr fun kind => "'" ++ kind ++ "' object is not iterable"

/-- The number of items or characters. -/
def length (subject : Value) : Except RenderError Nat :=
  (subject.itemsOr fun kind => "object of type '" ++ kind ++ "' has no len()").map List.length

/-- As many items as there are places for them. -/
def unpack (count : Nat) (subject : Value) : Except RenderError (List Value) := do
  let items ← subject.itemsOr fun kind => "cannot unpack non-iterable " ++ kind ++ " object"
  if items.length < count then
    throw ⟨.value, "not enough values to unpack (expected " ++ Nat.repr count ++ ", got " ++
      Nat.repr items.length ++ ")"⟩
  if items.length > count then
    throw ⟨.value, "too many values to unpack (expected " ++ Nat.repr count ++ ")"⟩
  return items

/-- The value as a key of a mapping: collections that may change are none. -/
def asKey : Value → Except RenderError Value
  | .missing (.alternative place) => .ok (.missing (.alternative place))
  | .missing what => .error what.error
  | .list _ => .error (.ofType "unhashable type: 'list'")
  | .map _ => .error (.ofType "unhashable type: 'dict'")
  | other => .ok other

end Value

end Shortcode
