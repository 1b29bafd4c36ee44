import Shortcode.Value

/-!
# Templates as trees

What a template says once its tokens are read: statements, and the expressions in them.
-/

namespace Shortcode.Template

/-- A sign between two numbers. -/
inductive Arithmetic where
  | add
  | subtract
  | multiply
  | divide
  | floorDivide
  | modulo
  | power
deriving DecidableEq, Repr

/-- A sign between two values that are compared. -/
inductive Comparison where
  | equal
  | notEqual
  | less
  | lessOrEqual
  | greater
  | greaterOrEqual
  | isIn
  | isNotIn
deriving DecidableEq, Repr

/-- How an argument is given. -/
inductive Slot where
  | position
  | keyword (name : String)
  /-- The items of the argument are given by position. -/
  | items
  /-- The entries of the argument are given by keyword. -/
  | entries
deriving DecidableEq, Repr

/-- An expression of a template.  Arguments stand beside a list of their slots. -/
inductive Expression where
  | constant (content : Value)
  | name (name : String)
  | member (subject : Expression) (name : String)
  | item (subject index : Expression)
  /-- The index of a part: where it starts, where it stops and in which steps; null stands for
  what is left out. -/
  | part (start stop step : Expression)
  | call (subject : Expression) (slots : List Slot) (arguments : List Expression)
  | filter (line : Nat) (subject : Expression) (name : String) (slots : List Slot)
      (arguments : List Expression)
  | test (line : Nat) (subject : Expression) (name : String) (slots : List Slot)
      (arguments : List Expression)
  | negation (subject : Expression)
  | conjunction (left right : Expression)
  | disjunction (left right : Expression)
  /-- Each value is compared with the next; there is one sign less than there are values. -/
  | comparison (first : Expression) (signs : List Comparison) (others : List Expression)
  | arithmetic (sign : Arithmetic) (left right : Expression)
  | minus (subject : Expression)
  | plus (subject : Expression)
  | concatenation (parts : List Expression)
  | choice (condition yes no : Expression)
  /-- A choice without a second alternative, at a place. -/
  | option (place : String) (condition yes : Expression)
  | list (items : List Expression)
  | row (items : List Expression)
  | map (keys contents : List Expression)

/-- What an assignment or a loop sets. -/
inductive Target where
  | single (line : Nat) (name : String)
  /-- A member of what a name stands for. -/
  | member (owner name : String)
  /-- The items of the value, one for each target. -/
  | several (targets : List Target)

/-- The name that stands for the text which a statement collects.  No template can write it. -/
def collectedName : String := ""

/-- A statement of a template. -/
inductive Statement where
  | text (content : String)
  | print (subject : Expression)
  | choose (condition : Expression) (yes no : List Statement)
  | loop (target : Target) (source condition : Expression) (body otherwise : List Statement)
  | assign (target : Target) (subject : Expression)
  /-- Sets a target to what becomes of the text that the body prints. -/
  | capture (target : Target) (result : Expression) (body : List Statement)
  /-- Sets targets for the body alone. -/
  | bind (targets : List Target) (subjects : List Expression) (body : List Statement)
  /-- Prints what becomes of the text that the body prints. -/
  | transform (result : Expression) (body : List Statement)
  | block (line : Nat) (name : String) (required : Bool) (body : List Statement)
  | extends (line : Nat) (template : Expression)
  /-- A statement that is read and checked, but never rendered. -/
  | reserved (keyword : String) (subjects : List Expression) (body : List Statement)

/-- A template that can be rendered. -/
abbrev Tree := List Statement

end Shortcode.Template
