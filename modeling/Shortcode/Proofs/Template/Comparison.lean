import Shortcode.Template.Tree

/-!
# Comparing templates

`sameStatements?` looks for a proof that two templates are the same tree.  It
finds one for the statements and expressions that the built-in templates are
made of, so that the kernel can tell which tree a text stands for.
-/

namespace Shortcode.Template

/-- A proof that two things are the same, if they are. -/
def same? {α : Type} [DecidableEq α] (left right : α) :
    Option (PLift (left = right)) :=
  if equal : left = right then some ⟨equal⟩ else none

/-- A proof that two constants are the same, if they are texts, whole numbers
or empty mappings. -/
def sameConstant? : (left right : Value) → Option (PLift (left = right))
  | .text left, .text right => do
    let ⟨content⟩ ← same? left right
    return ⟨by rw [content]⟩
  | .int left, .int right => do
    let ⟨number⟩ ← same? left right
    return ⟨by rw [number]⟩
  | .map [], .map [] => some ⟨rfl⟩
  | _, _ => none

mutual

/-- A proof that two expressions are the same, if one is found. -/
def Expression.same? : (left right : Expression) →
    Option (PLift (left = right))
  | .constant left, .constant right => do
    let ⟨content⟩ ← sameConstant? left right
    return ⟨by rw [content]⟩
  | .name left, .name right => do
    let ⟨name⟩ ← Template.same? left right
    return ⟨by rw [name]⟩
  | .member left name, .member right other => do
    let ⟨subject⟩ ← left.same? right
    let ⟨name⟩ ← Template.same? name other
    return ⟨by rw [subject, name]⟩
  | .item left index, .item right other => do
    let ⟨subject⟩ ← left.same? right
    let ⟨index⟩ ← index.same? other
    return ⟨by rw [subject, index]⟩
  | .call left slots arguments, .call right others given => do
    let ⟨subject⟩ ← left.same? right
    let ⟨slots⟩ ← Template.same? slots others
    let ⟨arguments⟩ ← sameAll? arguments given
    return ⟨by rw [subject, slots, arguments]⟩
  | .filter line left name slots arguments,
    .filter place right other others given => do
    let ⟨line⟩ ← Template.same? line place
    let ⟨subject⟩ ← left.same? right
    let ⟨name⟩ ← Template.same? name other
    let ⟨slots⟩ ← Template.same? slots others
    let ⟨arguments⟩ ← sameAll? arguments given
    return ⟨by rw [line, subject, name, slots, arguments]⟩
  | .test line left name slots arguments,
    .test place right other others given => do
    let ⟨line⟩ ← Template.same? line place
    let ⟨subject⟩ ← left.same? right
    let ⟨name⟩ ← Template.same? name other
    let ⟨slots⟩ ← Template.same? slots others
    let ⟨arguments⟩ ← sameAll? arguments given
    return ⟨by rw [line, subject, name, slots, arguments]⟩
  | .conjunction left second, .conjunction right other => do
    let ⟨first⟩ ← left.same? right
    let ⟨second⟩ ← second.same? other
    return ⟨by rw [first, second]⟩
  | .comparison left signs operands, .comparison right others given => do
    let ⟨first⟩ ← left.same? right
    let ⟨signs⟩ ← Template.same? signs others
    let ⟨operands⟩ ← sameAll? operands given
    return ⟨by rw [first, signs, operands]⟩
  | .concatenation left, .concatenation right => do
    let ⟨parts⟩ ← sameAll? left right
    return ⟨by rw [parts]⟩
  | .choice left yes no, .choice right one other => do
    let ⟨condition⟩ ← left.same? right
    let ⟨yes⟩ ← yes.same? one
    let ⟨no⟩ ← no.same? other
    return ⟨by rw [condition, yes, no]⟩
  | _, _ => none

/-- A proof that two lists of expressions are the same, if one is found. -/
def sameAll? : (left right : List Expression) → Option (PLift (left = right))
  | [], [] => some ⟨rfl⟩
  | left :: lefts, right :: rights => do
    let ⟨first⟩ ← left.same? right
    let ⟨rest⟩ ← sameAll? lefts rights
    return ⟨by rw [first, rest]⟩
  | _, _ => none

end

mutual

/-- A proof that two statements are the same, if one is found. -/
def Statement.same? : (left right : Statement) → Option (PLift (left = right))
  | .text left, .text right => do
    let ⟨content⟩ ← Template.same? left right
    return ⟨by rw [content]⟩
  | .print left, .print right => do
    let ⟨subject⟩ ← left.same? right
    return ⟨by rw [subject]⟩
  | .choose left yes no, .choose right one other => do
    let ⟨condition⟩ ← left.same? right
    let ⟨yes⟩ ← sameStatements? yes one
    let ⟨no⟩ ← sameStatements? no other
    return ⟨by rw [condition, yes, no]⟩
  | .assign (.single line name) left, .assign (.single place other) right => do
    let ⟨line⟩ ← Template.same? line place
    let ⟨name⟩ ← Template.same? name other
    let ⟨subject⟩ ← left.same? right
    return ⟨by rw [line, name, subject]⟩
  | _, _ => none

/-- A proof that two bodies are the same, if one is found. -/
def sameStatements? : (left right : List Statement) →
    Option (PLift (left = right))
  | [], [] => some ⟨rfl⟩
  | left :: lefts, right :: rights => do
    let ⟨first⟩ ← left.same? right
    let ⟨rest⟩ ← sameStatements? lefts rights
    return ⟨by rw [first, rest]⟩
  | _, _ => none

end

theorem eq_of_sameStatements? {left right : List Statement}
    (found : (sameStatements? left right).isSome = true) : left = right :=
  let ⟨proof, _⟩ := Option.isSome_iff_exists.mp found
  proof.down

end Shortcode.Template
