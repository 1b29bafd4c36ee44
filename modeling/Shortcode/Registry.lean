import Shortcode.Expansion
import Shortcode.TemplateFolders

/-!
# The registry

The templates of a project, compiled by an engine when the registry is made.  The first one that is
no template or no text, in the order of the names, is an error; any other failure of the engine is
none that tells of a template.
-/

namespace Shortcode

open Template (Engine EngineError)

/-- A template that an engine has compiled. -/
structure RegisteredTemplate (engine : Engine) where
  name : String
  origin : Origin
  path : Path
  compiled : engine.Compiled

/-- The templates by name, and how they fetch each other. -/
structure Registry (engine : Engine) where
  templates : List (RegisteredTemplate engine)
  fetch : Template.Fetch

/-- A template that cannot be used. -/
structure RegistryError where
  name : String
  path : Path
  flaw : EngineError
deriving DecidableEq, Repr

/-- Why there is no registry. -/
inductive RegistryFailure where
  | flawed (error : RegistryError)
  /-- The engine has failed in a way that tells of no template. -/
  | crashed (error : PackageError)
  /-- A folder of templates cannot be looked up. -/
  | file (error : FileError)
deriving DecidableEq, Repr

/-- The wording of an error, without the path. -/
def RegistryError.detail (error : RegistryError) : String :=
  "shortcode template `" ++ error.name ++ "`: " ++ error.flaw.message

/-- The wording of an error. -/
def RegistryError.message (error : RegistryError) : String :=
  error.path.toString ++ ": " ++ error.detail

/-- The failure of a template that is not compiled. -/
def TemplateFile.fail (file : TemplateFile) : EngineError → RegistryFailure
  | .malformed line words => .flawed ⟨file.name, file.path, .malformed line words⟩
  | .raised error =>
    if error.kind = "UnicodeDecodeError" then .flawed ⟨file.name, file.path, .raised error⟩
    else .crashed error

namespace TemplateFolders

/-- The template of a file, which the loader looks for by its name. -/
def compile (folders : TemplateFolders) (engine : Engine) (file : TemplateFile) :
    Except RegistryFailure (RegisteredTemplate engine) :=
  let compiled := do
    let text ← folders.fetch engine (templateFileName file.name)
    engine.compile (templateFileName file.name) text
  match compiled with
  | .ok compiled => .ok ⟨file.name, file.origin, file.path, compiled⟩
  | .error error => .error (file.fail error)

/-- Compiles the templates of the folders. -/
def load (folders : TemplateFolders) (engine : Engine) :
    Except RegistryFailure (Registry engine) := do
  for folder in folders.all do
    (folders.tree.checkLookup folders.directory folder).mapError .file
  return ⟨← folders.files.mapM (folders.compile engine), folders.fetch engine⟩

end TemplateFolders

/-- The names that the template of a call is rendered with: its arguments, and then its body, the
page and the site, which take the places of arguments of these names. -/
def contextOf (arguments : List (String × Value)) (body : Option String) (page site : Value) :
    Template.Context :=
  let given := match body with
    | none => arguments
    | some body => Template.Context.set arguments "body" (.text body)
  (Template.Context.set given "page" page).set "site" site

namespace Registry

variable {engine : Engine}

/-- The names of the templates, in order. -/
def names (registry : Registry engine) : List String := registry.templates.map (·.name)

/-- The template of a name. -/
def find? (registry : Registry engine) (name : String) : Option (RegisteredTemplate engine) :=
  registry.templates.find? fun template => template.name == name

/-- The text of the template of a name. -/
def renderNamed (registry : Registry engine) (name : String) (arguments : List (String × Value))
    (body : Option String) (page site : Value) : Except Problem String :=
  match registry.find? name with
  | none => .error (.unknown name registry.names)
  | some template =>
    (engine.render registry.fetch template.compiled (contextOf arguments body page site)).mapError
      fun error => .render name error.message

/-- The text of a call; the call is to blame if there is none. -/
def render (registry : Registry engine) (call : Call) (page site : Value) : Except Fault String :=
  let arguments := call.arguments.map fun (key, content) => (key, content.toValue)
  (registry.renderNamed call.name arguments call.body page site).mapError (⟨call.line, ·⟩)

/-- The registry as a store of templates. -/
def store (registry : Registry engine) : Store where
  names := registry.names
  isKnown name := (registry.find? name).isSome
  render := registry.render

end Registry

end Shortcode
