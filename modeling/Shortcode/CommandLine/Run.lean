import Shortcode.CommandLine.Request
import Shortcode.Configuration
import Shortcode.Content
import Shortcode.Packages
import Shortcode.Registry
import Shortcode.Text.Styled

/-!
# Running commands

`run` gives what a command line comes to: the text that is written, the exit code, and the files
afterwards.  Only `expand` with an output and `eject` make or change a file.
-/

namespace Shortcode.CommandLine

/-- The packages, the files, the current directory, the folder of the built-in templates, and the
length of the longest line of a help page. -/
structure Setting where
  packages : Packages
  tree : FileTree
  directory : Path
  builtIn : Path
  width : Nat

/-- A failure that no command reports. -/
inductive Crash where
  | file (error : FileError)
  | package (error : PackageError)
  | page (error : PageError)
  | site (error : Configuration.SiteError)
  | tooLong (what : TooLong)
  | registry (error : RegistryError)
  | tooManyDigits (count : Nat)
deriving DecidableEq, Repr

/-- The wording of a failure. -/
def Crash.message : Crash → String
  | .file error => error.message
  | .package error => error.words
  | .page error => error.message
  | .site error => error.message
  | .tooLong what => what.message
  | .registry error => error.message
  | .tooManyDigits count => digitLimitMessage count

/-- What a command line comes to. -/
structure Outcome where
  exit : Nat
  output : String
  errors : String
  crash : Option Crash
  tree : FileTree

/-- Why a command ends early: what it writes, and a failure that it does not report. -/
structure Stop where
  errors : String
  crash : Option Crash

namespace Stop

/-- A failure that is not reported. -/
def ofCrash (crash : Crash) : Stop := ⟨"", some crash⟩

/-- The stop with a text written before. -/
def behind (text : String) (stop : Stop) : Stop := { stop with errors := text ++ stop.errors }

end Stop

namespace Setting

/-- The outcome of a command that changes no file. -/
def said (setting : Setting) (output errors : String) : Outcome :=
  ⟨0, output, errors, none, setting.tree⟩

/-- The outcome of a command that ends early. -/
def stopped (setting : Setting) (stop : Stop) : Outcome :=
  ⟨1, "", stop.errors, stop.crash, setting.tree⟩

/-- The outcome of a command that ends while it makes a file. -/
def unfinished (notice : String) (failed : FileTree.Unfinished) : Outcome :=
  ⟨1, "", notice, some (.file failed.error), failed.tree⟩

/-- The root of a project, the current directory if none is named. -/
def root (setting : Setting) (project : Option Path) : Path :=
  setting.directory.resolve (project.getD (Path.ofString ""))

/-- A path as it is shown: below the root of the project, if it leads there. -/
def shownPath (setting : Setting) (root path : Path) : Path :=
  match (setting.directory.resolve path).below? root with
  | some names => ⟨.here, names⟩
  | none => path

/-- Something went wrong with a file. -/
def report (setting : Setting) (root : Path) (headline : String) (path : Path)
    (line : Option Int) (message : String) : String :=
  let shown := (setting.shownPath root path).toString
  let lines := [Text.styled [.red, .bold] headline, Text.styled [.yellow] s!"  File: {shown}"] ++
    line.toList.map (fun line => Text.styled [.yellow] s!"  Line: {line}") ++
    [Text.styled [.white] s!"  Error: {message}"]
  String.join (lines.map (· ++ "\n"))

/-! ## Projects -/

/-- A project that is ready for work, and what is told about it. -/
structure Project (engine : Template.Engine) where
  configuration : Configuration
  registry : Registry engine
  notice : String

/-- The folders of the templates of a project. -/
def folders (setting : Setting) (folder : Option Path) : TemplateFolders :=
  ⟨setting.tree, setting.directory, folder, setting.builtIn⟩

/-- What is told about a project. -/
def notice (setting : Setting) (folder : Option Path)
    (registry : Registry setting.packages.templates) : String :=
  let project := folder.filter (setting.tree.isDirectory setting.directory)
  let lines := [s!"Built-in shortcodes: {setting.builtIn.toString}"] ++
    project.toList.map (fun folder => s!"Project shortcodes: {folder.toString}") ++
    [s!"Loaded {registry.names.length} shortcodes"]
  String.join (lines.map (· ++ "\n"))

/-- Loads the settings of a project; a flaw is reported. -/
def configuration (setting : Setting) (root : Path) :
    Except (ConfigurationError ⊕ Crash) Configuration :=
  (Configuration.load setting.packages.yaml setting.tree setting.directory root).mapError fun
    | .flawed error => .inl error
    | .file error => .inr (.file error)
    | .yaml error => .inr (.package error)
    | .tooLong what => .inr (.tooLong what)

/-- Loads the settings and the templates of a project. -/
def project (setting : Setting) (root : Path) (verbose : Bool) :
    Except Stop (Project setting.packages.templates) :=
  let failed (path : Path) (message : String) : Stop :=
    ⟨setting.report root "Configuration failed:" path none message, none⟩
  match setting.configuration root with
  | .error (.inl error) => .error (failed error.path error.flaw.message)
  | .error (.inr crash) => .error (.ofCrash crash)
  | .ok configuration => do
    let folder ← (configuration.templateFolder root).mapError (.ofCrash ∘ .tooLong)
    match (setting.folders folder).load setting.packages.templates with
    | .error (.flawed error) => .error (failed error.path error.detail)
    | .error (.crashed error) => .error (.ofCrash (.package error))
    | .error (.file error) => .error (.ofCrash (.file error))
    | .ok registry =>
      return ⟨configuration, registry, if verbose then setting.notice folder registry else ""⟩

/-! ## Listing -/

/-- The line of a template in the list. -/
def listed {engine : Template.Engine} (width : Nat) (template : RegisteredTemplate engine) :
    String :=
  let style := if template.origin = .user then Text.Style.cyan else .white
  padTo width template.name ++ "  " ++ Text.styled [style] template.origin.word ++ "\n"

/-- Lists the templates of a project. -/
def list (setting : Setting) (project : Option Path) : Outcome :=
  match setting.project (setting.root project) false with
  | .error stop => setting.stopped stop
  | .ok project =>
    let templates := project.registry.templates
    let width := (templates.map fun template => template.name.length).foldl max 0
    setting.said (String.join (templates.map (listed width))) ""

/-! ## Expanding and checking -/

/-- A failure of a content file: reported, or not. -/
def contentStop (setting : Setting) (root : Path) (headline : String) : ContentFailure → Stop
  | .shortcode error =>
    ⟨setting.report root headline error.path (some error.line) error.problem.detail, none⟩
  | .tooManyDigits count => .ofCrash (.tooManyDigits count)
  | .file error => .ofCrash (.file error)
  | .yaml error => .ofCrash (.package error)
  | .page error => .ofCrash (.page error)

/-- The text that a content file of a project expands to. -/
def expanded (setting : Setting) (root : Path) (project : Project setting.packages.templates)
    (path : Path) : Except Stop String := do
  let folder ← (project.configuration.contentFolder root).mapError (.ofCrash ∘ .tooLong)
  let site ← project.configuration.siteContext.mapError (.ofCrash ∘ .site)
  let result := do
    let file ← ContentFile.load setting.packages.yaml setting.tree setting.directory path
    file.expand project.registry.store setting.directory (some folder) site
  result.mapError (setting.contentStop root "Expansion failed:")

/-- The expanded text as it is asked for: as it is, or as markup. -/
def rendition (setting : Setting) (html : Bool) (text : String) : Except Stop String :=
  if html then (setting.packages.toMarkup text).mapError (.ofCrash ∘ .package) else .ok text

/-- Writes a text to a file, whose directory is made if need be. -/
def save (setting : Setting) (path : Path) (text : String) :
    Except FileTree.Unfinished FileTree := do
  let tree ← setting.tree.makeDirectories setting.directory path.parent
  tree.orUnchanged (tree.writeBytes setting.directory path (Text.Utf8.encode text.toList))

/-- Expands a content file. -/
def expand (setting : Setting) (path : Path) (project : Option Path) (html : Bool)
    (output : Option Path) (verbose : Bool) : Outcome :=
  let root := setting.root project
  match setting.project root verbose with
  | .error stop => setting.stopped stop
  | .ok project =>
    match setting.expanded root project path >>= setting.rendition html with
    | .error stop => setting.stopped (stop.behind project.notice)
    | .ok result =>
      match output with
      | none => setting.said result project.notice
      | some target =>
        match setting.save target result with
        | .error failed => unfinished project.notice failed
        | .ok tree => ⟨0, "", project.notice ++ s!"Wrote {target.toString}\n", none, tree⟩

/-- What checking files has come to. -/
structure Tally where
  failures : Nat
  calls : Nat
  errors : String
  crash : Option Crash

/-- Checks files one after the other; a failure that is not reported ends it. -/
def checkFiles (setting : Setting) (root : Path) (project : Project setting.packages.templates)
    (verbose : Bool) : (paths : List Path) → Tally
  | [] => ⟨0, 0, "", none⟩
  | path :: rest =>
    let result := do
      let file ← ContentFile.load setting.packages.yaml setting.tree setting.directory path
      file.check project.registry.store
    match result.mapError (setting.contentStop root "Check failed:") with
    | .error ⟨errors, some crash⟩ => ⟨1, 0, errors, some crash⟩
    | .error ⟨errors, none⟩ =>
      let others := setting.checkFiles root project verbose rest
      { others with failures := others.failures + 1, errors := errors ++ others.errors }
    | .ok calls =>
      let others := setting.checkFiles root project verbose rest
      let line := if verbose then s!"{path.toString}: {calls.length} shortcodes\n" else ""
      { others with calls := calls.length + others.calls, errors := line ++ others.errors }

/-- Checks content files. -/
def check (setting : Setting) (paths : List Path) (project : Option Path) (verbose : Bool) :
    Outcome :=
  let root := setting.root project
  match setting.project root verbose with
  | .error stop => setting.stopped stop
  | .ok project =>
    let tally := setting.checkFiles root project verbose paths
    let errors := project.notice ++ tally.errors
    if tally.crash.isSome || tally.failures > 0 then setting.stopped ⟨errors, tally.crash⟩
    else setting.said s!"Checked {paths.length} files, {tally.calls} shortcodes OK\n" errors

/-! ## Ejecting -/

/-- A refusal, in one line. -/
def refused (message : String) : Stop := ⟨s!"Error: {message}\n", none⟩

/-- The names of the built-in templates, which are loaded for this. -/
def builtInNames (setting : Setting) : Except Stop (List String) :=
  match (setting.folders none).load setting.packages.templates with
  | .error (.flawed error) => .error (.ofCrash (.registry error))
  | .error (.crashed error) => .error (.ofCrash (.package error))
  | .error (.file error) => .error (.ofCrash (.file error))
  | .ok registry => .ok registry.names

/-- The directory that the templates of a project are in. -/
def targetFolder (setting : Setting) (root : Path) : Except Stop Path :=
  match setting.configuration root with
  | .error (.inl error) => .error (refused error.message)
  | .error (.inr crash) => .error (.ofCrash crash)
  | .ok configuration =>
    match configuration.templateFolder root with
    | .ok (some folder) => .ok folder
    | .ok none => .error (refused "shortcodes_dir is disabled in sigil.yaml")
    | .error what => .error (.ofCrash (.tooLong what))

/-- Puts a copy of a file into a directory, which is made if need be.  A directory of the file's
name takes the copy in. -/
def copyInto (setting : Setting) (folder : Path) (name : String) (bytes : List UInt8) :
    Except FileTree.Unfinished FileTree := do
  let tree ← setting.tree.makeDirectories setting.directory folder
  let target := folder.child name
  let target := if tree.isDirectory setting.directory target then target.child name else target
  tree.orUnchanged (tree.writeBytes setting.directory target bytes)

/-- What is copied: the directory that a built-in template goes to, its file name and its bytes. -/
def toEject (setting : Setting) (name : String) (root : Path) (force : Bool) :
    Except Stop (Path × String × List UInt8) := do
  let checkLookup (path : Path) : Except Stop Unit :=
    (setting.tree.checkLookup setting.directory path).mapError (.ofCrash ∘ .file)
  let source := setting.builtIn.join (Path.ofString (name ++ templateSuffix))
  checkLookup source
  let some bytes := setting.tree.bytes? setting.directory source
    | throw (refused (s!"No built-in shortcode named '{name}'. Available: " ++
        ", ".intercalate (← setting.builtInNames)))
  let folder ← setting.targetFolder root
  let target := folder.child source.name
  checkLookup target
  if setting.tree.contains setting.directory target && !force then
    throw (refused s!"File already exists: {(setting.shownPath root target).toString}")
  return (folder, source.name, bytes)

/-- Copies a built-in template into a project. -/
def eject (setting : Setting) (name : String) (project : Option Path) (force : Bool) : Outcome :=
  let root := setting.root project
  match setting.toEject name root force with
  | .error stop => setting.stopped stop
  | .ok (folder, file, bytes) =>
    match setting.copyInto folder file bytes with
    | .error failed => unfinished "" failed
    | .ok tree =>
      let target := (setting.shownPath root (folder.child file)).toString
      ⟨0, s!"Created {target}\n", "", none, tree⟩

/-! ## Command lines -/

/-- Runs a command. -/
def command (setting : Setting) : Command → Outcome
  | .list project => setting.list project
  | .expand file project html output verbose => setting.expand file project html output verbose
  | .check files project verbose => setting.check files project verbose
  | .eject name project force => setting.eject name project force

/-- Runs a command line. -/
def run (setting : Setting) (words : List String) : Outcome :=
  match Request.read setting.tree setting.directory words with
  | .error error =>
    if error.mistake.isNullName then setting.stopped (.ofCrash (.file .nullName))
    else ⟨2, "", error.report setting.width, none, setting.tree⟩
  | .ok (.help interface) => setting.said (interface.help setting.width ++ "\n") ""
  | .ok .version => setting.said s!"{programName}, version {version}\n" ""
  | .ok (.run command) => setting.command command

end Setting

end Shortcode.CommandLine
