import Shortcode.FileTree
import Shortcode.Text.Case
import Shortcode.Value.Display
import Shortcode.Yaml.Loader

/-!
# Configuration

The settings of a project: where its templates and its content are, what every template may know
about the site, and which provider takes the messages of a contact form.  Settings of the project
take the place of the defaults; those of `site` do so one by one.
-/

namespace Shortcode

/-- The settings of a project by their keys, the defaults first. -/
structure Configuration where
  settings : List (Value × Value)

/-- What is wrong with the settings. -/
inductive ConfigurationFlaw where
  | invalidYaml (words : String)
  | notMapping
  | siteNotMapping
  | contactNotMapping
  | unknownProvider (shown : String)
  | missingEndpoint
deriving DecidableEq, Repr

/-- A file of settings with a flaw. -/
structure ConfigurationError where
  path : Path
  flaw : ConfigurationFlaw
deriving DecidableEq, Repr

/-- The services that take the messages of a contact form. -/
def contactProviders : List String :=
  ["formspree", "web3forms", "netlify", "hubspot", "typeform"]

/-- The wording of a flaw. -/
def ConfigurationFlaw.message : ConfigurationFlaw → String
  | .invalidYaml words => s!"invalid YAML: {words}"
  | .notMapping => "top level must be a mapping"
  | .siteNotMapping => "`site` must be a mapping"
  | .contactNotMapping => "`contact` must be a mapping"
  | .unknownProvider shown =>
    s!"unknown contact provider `{shown}`. Expected one of: " ++
      ", ".intercalate contactProviders
  | .missingEndpoint => "`contact.endpoint` is required"

/-- The wording of an error. -/
def ConfigurationError.message (error : ConfigurationError) : String :=
  s!"{error.path.toString}: {error.flaw.message}"

/-- Why the settings of a project could not be loaded. -/
inductive ConfigurationFailure where
  | file (error : FileError)
  | yaml (error : PackageError)
  | tooLong (what : TooLong)
  | flawed (error : ConfigurationError)
deriving DecidableEq, Repr

namespace Configuration

/-- The name of the file of settings. -/
def fileName : String := "sigil.yaml"

/-- What templates may know about the site, unless the project says otherwise. -/
def defaultSite : List (Value × Value) :=
  [(.text "title", .text ""), (.text "base_url", .text ""), (.text "language", .text "en")]

/-- The settings with a site, unless the project says otherwise. -/
def withSite (site : List (Value × Value)) : List (Value × Value) :=
  [(.text "shortcodes_dir", .text "templates/shortcodes"), (.text "content_dir", .text "content"),
    (.text "site", .map site), (.text "contact", .null)]

/-- The settings of a project without a file of settings. -/
def default : Configuration := ⟨withSite defaultSite⟩

/-- The setting of a name. -/
def get? (configuration : Configuration) (name : String) : Option Value :=
  Value.find? (.text name) configuration.settings

/-- The setting of a name, null if there is none. -/
def get (configuration : Configuration) (name : String) : Value :=
  (configuration.get? name).getD .null

/-- The provider that a contact setting names, in lower case. -/
def providerOf (contact : List (Value × Value)) : Except TooLong String := do
  let name ← ((Value.find? (.text "provider") contact).getD (.text "")).written
  return String.ofList (Text.lower name.toList)

/-- Checks the setting for the contact form. -/
def checkContact (contact : Value) : Except (ConfigurationFlaw ⊕ TooLong) Unit :=
  match contact, contact.opened with
  | .null, _ => .ok ()
  | _, .map entries => do
    let provider ← (providerOf entries).mapError .inr
    if !contactProviders.contains provider then
      .error (.inl (.unknownProvider
        ((Value.find? (.text "provider") entries).getD .null).display))
    else if ((Value.find? (.text "endpoint") entries).getD .null).isTrue then .ok ()
    else .error (.inl .missingEndpoint)
  | _, _ => .error (.inl .contactNotMapping)

/-- The entries of a value that is a mapping, or none for one that counts as not set. -/
def entries? (content : Value) : Option (List (Value × Value)) :=
  match content.opened with
  | .map entries => some entries
  | _ => if content.isTrue then none else some []

/-- The key of the settings of the site. -/
def siteKey : Value := .text "site"

/-- A setting, once the site is taken out of the settings: they may hold themselves, and come first
among the collections of a setting then. -/
def withoutSite : Value → Value
  | .cycle ((root, .map entries) :: others) place =>
    Value.ofPlace ((root, .map (entries.filter fun entry => !siteKey.same entry.1)) :: others) place
  | other => other

/-- The settings of a file, once the site is taken out of them. -/
def ownSettings (given : List (Value × Value)) : List (Value × Value) :=
  given.map fun (key, content) => (key, withoutSite content)

/-- The settings that a file's value gives, over the defaults. -/
def ofValue (loaded : Value) : Except (ConfigurationFlaw ⊕ TooLong) Configuration := do
  let some given := entries? loaded | throw (.inl .notMapping)
  let own := ownSettings given
  let some site := entries? ((Value.find? siteKey own).getD .null)
    | throw (.inl .siteNotMapping)
  let others := own.filter fun entry => !siteKey.same entry.1
  let configuration : Configuration :=
    ⟨Value.merge (withSite (Value.merge defaultSite site)) others⟩
  checkContact (configuration.get "contact")
  return configuration

/-- Loads the settings of a project; a project without a file of settings has the defaults. -/
def load (loader : Yaml.Loader) (tree : FileTree) (directory root : Path) :
    Except ConfigurationFailure Configuration :=
  let path := root.child fileName
  let flawed (flaw : ConfigurationFlaw) : ConfigurationFailure := .flawed ⟨path, flaw⟩
  do
    (tree.checkLookup directory path).mapError .file
    if !tree.contains directory path then return default
    let text ← (tree.readPieces directory path).mapError .file
    match loader text with
    | .error (.malformed words) => throw (flawed (.invalidYaml words))
    | .error (.raised error) => throw (.yaml error)
    | .ok loaded => (ofValue loaded).mapError (Sum.elim flawed .tooLong)

/-- The directory of the project's templates, unless it is set to nothing. -/
def templateFolder (root : Path) (configuration : Configuration) :
    Except TooLong (Option Path) := do
  let folder := configuration.get "shortcodes_dir"
  if folder.isTrue then return some (root.join (Path.ofString (← folder.written)))
  else return none

/-- The directory of the project's content. -/
def contentFolder (root : Path) (configuration : Configuration) : Except TooLong Path := do
  let folder := configuration.get "content_dir"
  if folder.isTrue then return root.join (Path.ofString (← folder.written)) else return root

/-- Why templates cannot be told about the site. -/
inductive SiteError where
  /-- A value of this kind has no fields, where a mapping is needed. -/
  | noFields (kind : String)
  | tooLong (what : TooLong)
deriving DecidableEq, Repr

/-- The wording of an error. -/
def SiteError.message : SiteError → String
  | .noFields kind => "'" ++ kind ++ "' object has no attribute 'get'"
  | .tooLong what => what.message

/-- The entries of a setting, none for one that counts as not set. -/
def fieldsOf (setting : Value) : Except SiteError (List (Value × Value)) :=
  match entries? setting with
  | some entries => .ok entries
  | none => .error (.noFields setting.kindWord)

/-- What templates may know about the contact form. -/
def contactContext (contact : List (Value × Value)) : Except SiteError Value := do
  let field (name : String) : String × Value :=
    (name, (Value.find? (.text name) contact).getD .null)
  if contact.isEmpty then return .null
  else
    let provider ← (providerOf contact).mapError .tooLong
    return Value.record [("provider", .text provider), field "endpoint", field "region",
      field "redirect", field "subject"]

/-- What templates may know about the site. -/
def siteContext (configuration : Configuration) : Except SiteError Value := do
  let contact ← contactContext (← fieldsOf (configuration.get "contact"))
  let site ← fieldsOf (configuration.get "site")
  let field (name default : String) : String × Value :=
    (name, (Value.find? (.text name) site).getD (.text default))
  return Value.record [field "title" "", field "base_url" "", field "language" "en",
    ("contact", contact)]

end Configuration

end Shortcode
