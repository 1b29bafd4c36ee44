import Shortcode.Expansion
import Shortcode.FileTree
import Shortcode.Page
import Shortcode.Page.Frontmatter

/-!
# Content files

A content file is a body of text with the mapping of its frontmatter.  Its calls are checked or
expanded in the body alone, and an error that is raised for the body is moved on to its line in the
file.
-/

namespace Shortcode

/-- A content file: its path, its mapping, its body and the number of lines before the body. -/
structure ContentFile where
  path : Path
  frontmatter : List (Value × Value)
  body : List Char
  offset : Nat

/-- Why a content file could not be checked or expanded. -/
inductive ContentFailure where
  | file (error : FileError)
  | yaml (error : PackageError)
  | page (error : PageError)
  | shortcode (error : ShortcodeError)
  /-- A whole number of the body has more digits than are ever converted. -/
  | tooManyDigits (count : Nat)
deriving DecidableEq, Repr

namespace ContentFile

/-- The content file with a text. -/
def ofText (loader : Yaml.Loader) (path : Path) (text : List Char) :
    Except PackageError ContentFile := do
  let (frontmatter, body) ← Frontmatter.read loader text
  return ⟨path, frontmatter, body, Text.lineAt text ↑(text.length - body.length) - 1⟩

/-- Loads a content file. -/
def load (loader : Yaml.Loader) (tree : FileTree) (directory path : Path) :
    Except ContentFailure ContentFile := do
  let text ← (tree.readText directory path).mapError .file
  (ofText loader path text).mapError .yaml

/-- The page value of a content file. -/
def page (file : ContentFile) (directory : Path) (root : Option Path) :
    Except ContentFailure Value :=
  (Page.context directory file.path root file.frontmatter).mapError .page

/-- The failure of the body as one of the file: the error that is raised for the body is moved on
by the lines in front of it. -/
def fail (file : ContentFile) : Failure → ContentFailure
  | .fault fault => .shortcode ((fault.raised file.path).shift file.offset)
  | .tooManyDigits count => .tooManyDigits count

/-- The calls of a content file, each with a known name. -/
def check (file : ContentFile) (store : Store) : Except ContentFailure (List Call) :=
  (store.collect file.body).mapError file.fail

/-- The body of a content file with its calls replaced. -/
def expand (file : ContentFile) (store : Store) (directory : Path) (root : Option Path)
    (site : Value) : Except ContentFailure String := do
  let page ← file.page directory root
  (store.expand (String.ofList file.body) page site).outcome.mapError file.fail

end ContentFile

end Shortcode
