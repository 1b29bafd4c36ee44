import Shortcode.Template.Check
import Shortcode.Template.Render

/-!
# The interpreter

The engine that reads templates with `Tree.read` and renders them with `Tree.render`.  It knows the
filters of `filterNames` and does without templates that call for others, so it never fetches one.
-/

namespace Shortcode.Template

/-- What every name stands for in a context: names that are not bound in it, what they stand for in
every template. -/
def Scope.ofContext (context : Context) : Scope := fun name =>
  (context.lookup name).getD (Scope.empty name)

/-- A template that has been read, under its name. -/
structure ReadTemplate where
  name : String
  tree : Tree

/-- The scope of a template, in which it also knows itself. -/
def ReadTemplate.scope (template : ReadTemplate) (context : Context) : Scope :=
  (Scope.ofContext context).set "self" (templateObject template.name)

/-- What is said of a name that no folder has a template for. -/
def notFound (name : String) (searched : List Path) : String :=
  match searched with
  | [] => name
  | folders =>
    let noun := if folders.length == 1 then "path" else "paths"
    quote name ++ " not found in search " ++ noun ++ ": " ++
      ", ".intercalate (folders.map fun folder => quote folder.toString)

/-- The engine that interprets the trees of templates. -/
def interpreter : Engine where
  Compiled := ReadTemplate
  compile name text :=
    ((Tree.read name text).mapError ReadFailure.toEngineError).map (⟨name, ·⟩)
  render _ template context :=
    (template.tree.render (template.scope context)).mapError fun error =>
      .raised error.toPackageError
  missing name searched := ⟨"TemplateNotFound", notFound name searched⟩

end Shortcode.Template
