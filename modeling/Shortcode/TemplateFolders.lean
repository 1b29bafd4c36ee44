import Shortcode.FileTree
import Shortcode.Template.Engine

/-!
# The folders of templates

A project has the built-in templates and those of its own folder, which take the place of built-in
ones of the same name.  The folders are looked at in two ways: their listings tell which templates
there are, and a loader goes through the folders to find the text of a template by its name.
-/

namespace Shortcode

/-- Where a template comes from. -/
inductive Origin where
  | builtIn
  | user
deriving DecidableEq, Repr

/-- The word for an origin. -/
def Origin.word : Origin → String
  | .builtIn => "builtin"
  | .user => "user"

/-- The file of a template: the name of the template, its origin and the path of the file. -/
structure TemplateFile where
  name : String
  origin : Origin
  path : Path
deriving DecidableEq, Repr

/-- The suffix of a template file. -/
def templateSuffix : String := ".html"

/-- The name of the file of a template. -/
def templateFileName (name : String) : String := name ++ templateSuffix

/-- The template file that a file of a folder is, if its suffix says so.  No file has a slash in its
name. -/
def TemplateFile.ofFile? (origin : Origin) (folder : Path) (file : String) : Option TemplateFile :=
  let (name, suffix) := Path.splitSuffix file
  if suffix == templateSuffix && !file.toList.contains '/' then
    some ⟨name, origin, folder.child file⟩
  else none

/-- The template files directly in a directory. -/
def templateFiles (tree : FileTree) (directory : Path) (origin : Origin) (folder : Path) :
    List TemplateFile :=
  match tree.locate? directory folder with
  | none => []
  | some location =>
    if tree.hasDirectory location then
      (tree.filesIn location).filterMap fun (file, _) => TemplateFile.ofFile? origin folder file
    else []

/-- The files that count: those of the project, and the built-in ones that none of them replaces,
in the order of their names. -/
def selectFiles (user builtIn : List TemplateFile) : List TemplateFile :=
  let kept := builtIn.filter fun file => !user.any fun other => other.name == file.name
  (user ++ kept).mergeSort fun left right => left.name < right.name || left.name == right.name

/-- The names that lead from a folder to the template of a name, unless it leads out of the
folder. -/
def templateParts? (name : String) : Option (List String) :=
  let parts := (Path.ofString name).names
  if parts.contains ".." then none else some parts

/-- The text of a template in a file. -/
def templateText (bytes : List UInt8) : Except Template.EngineError String :=
  match Text.Utf8.decode bytes with
  | .error error => .error (.raised ⟨"UnicodeDecodeError", error.message⟩)
  | .ok text => .ok (String.ofList (Text.unixLines text))

/-- Where the templates of a project are looked for. -/
structure TemplateFolders where
  tree : FileTree
  directory : Path
  /-- The folder of the project's own templates. -/
  user : Option Path
  builtIn : Path

namespace TemplateFolders

/-- The folders, be they there or not. -/
def all (folders : TemplateFolders) : List Path := folders.user.toList ++ [folders.builtIn]

/-- The files that the listings of the folders select. -/
def files (folders : TemplateFolders) : List TemplateFile :=
  selectFiles
    ((folders.user.map (templateFiles folders.tree folders.directory .user)).getD [])
    (templateFiles folders.tree folders.directory .builtIn folders.builtIn)

/-- The folders that the loader goes through: that of the project, if it is a directory, before the
built-in one. -/
def searchPath (folders : TemplateFolders) : List Path :=
  folders.user.toList.filter (folders.tree.isDirectory folders.directory) ++ [folders.builtIn]

/-- The first file that some names lead to from a folder of the search path. -/
def find? (folders : TemplateFolders) (parts : List String) : Option (Path × List UInt8) :=
  folders.searchPath.findSome? fun folder =>
    let path := folder.join ⟨.here, parts⟩
    (folders.tree.bytes? folders.directory path).map (path, ·)

/-- How the loader fetches the text of a template. -/
def fetch (folders : TemplateFolders) (engine : Template.Engine) : Template.Fetch := fun name =>
  match templateParts? name with
  | none => .error (.raised (engine.missing name []))
  | some parts =>
    match folders.find? parts with
    | none => .error (.raised (engine.missing name folders.searchPath))
    | some (_, bytes) => templateText bytes

end TemplateFolders

end Shortcode
