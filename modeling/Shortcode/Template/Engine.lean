import Shortcode.Package
import Shortcode.Path
import Shortcode.Value

/-!
# Engines of templates

What the program asks of a package for templates: to compile the text of a template, and to render
it with names bound to values.  A template may call for others by name while it is rendered, so an
engine is told how the text of a template is fetched.
-/

namespace Shortcode.Template

/-- Why there is no template, or no text of one. -/
inductive EngineError where
  /-- The text is no template, as a line of it shows. -/
  | malformed (line : Nat) (words : String)
  | raised (error : PackageError)
deriving DecidableEq, Repr

/-- The words in front of a failure's own, by its kind. -/
def headingOf (kind : String) : String :=
  match kind with
  | "UndefinedError" => "Undefined variable"
  | "TypeError" => "Type error"
  | "AttributeError" => "Attribute error"
  | other => other

/-- What users are told of an error. -/
def EngineError.message : EngineError → String
  | .malformed line words => s!"Template syntax error on line {line}: {words}"
  | .raised error => headingOf error.kind ++ ": " ++ error.words

/-- The names that a template is rendered with; none is bound twice. -/
abbrev Context := List (String × Value)

/-- The context with a name bound, in the place where it was bound before if it was. -/
def Context.set (context : Context) (name : String) (content : Value) : Context :=
  match context with
  | [] => [(name, content)]
  | entry :: rest =>
    if entry.1 = name then (name, content) :: rest else entry :: Context.set rest name content

/-- How the text of a template is fetched by its name. -/
abbrev Fetch := (name : String) → Except EngineError String

/-- A package for templates. -/
structure Engine where
  /-- A template that is ready to be rendered. -/
  Compiled : Type
  /-- Compiles the text of the template of a name. -/
  compile : (name text : String) → Except EngineError Compiled
  render : Fetch → Compiled → Context → Except EngineError String
  /-- What is raised for a name that no template has in any of the folders searched.  None is
  searched for a name that leads out of its folder. -/
  missing : (name : String) → (searched : List Path) → PackageError

end Shortcode.Template
