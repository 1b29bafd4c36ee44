import Shortcode.Text.Search

/-!
# Paths

A path is a root and the names below it.  Reading one drops empty names and single dots; two dots
stay, until the path is resolved against a directory.
-/

namespace Shortcode

/-- Where a path starts. -/
inductive Anchor where
  /-- At the current directory. -/
  | here
  /-- At the root. -/
  | root
  /-- At the root, written with two slashes. -/
  | doubleRoot
deriving DecidableEq, Repr

/-- A path, as a start and the names below it. -/
structure Path where
  anchor : Anchor
  names : List String
deriving DecidableEq, Repr

namespace Path

/-- Where a written path starts. -/
def anchorOf : (text : List Char) → Anchor
  | '/' :: '/' :: '/' :: _ => .root
  | '/' :: '/' :: _ => .doubleRoot
  | '/' :: _ => .root
  | _ => .here

/-- A name that stays in a path. -/
def isName (name : List Char) : Bool := !(name.isEmpty || name == ['.'])

/-- Reads a path. -/
def ofString (text : String) : Path :=
  ⟨anchorOf text.toList,
    ((Text.fields '/' text.toList).filter isName).map fun name => String.ofList name⟩

/-- The slashes that a path starts with. -/
def anchorText : Anchor → String
  | .here => ""
  | .root => "/"
  | .doubleRoot => "//"

/-- Writes a path; an empty one is a dot. -/
def toString (path : Path) : String :=
  let text := anchorText path.anchor ++ "/".intercalate path.names
  if text.isEmpty then "." else text

/-- The path `other`, taken from `base` unless it has a root of its own. -/
def join (base other : Path) : Path :=
  match other.anchor with
  | .here => { base with names := base.names ++ other.names }
  | _ => other

/-- The path of an entry of a directory. -/
def child (directory : Path) (name : String) : Path :=
  { directory with names := directory.names ++ [name] }

/-- The path without its last name. -/
def parent (path : Path) : Path := { path with names := path.names.dropLast }

/-- The last name, or nothing. -/
def name (path : Path) : String := path.names.getLast?.getD ""

/-- The parts of a name before and from its last dot, which is neither its first nor its last
character. -/
def splitSuffix (name : String) : String × String :=
  match Text.splitAtLast? '.' name.toList with
  | some (before, after) =>
    if before.isEmpty || after.isEmpty then (name, "")
    else (String.ofList before, String.ofList ('.' :: after))
  | none => (name, "")

/-- The last name without its suffix. -/
def stem (path : Path) : String := (splitSuffix path.name).1

/-- The suffix of the last name, with its dot. -/
def suffix (path : Path) : String := (splitSuffix path.name).2

/-- A name in the path holds a NUL, which no name of a file does. -/
def hasNull (path : Path) : Bool := path.names.any fun name => name.toList.contains '\x00'

/-- One step of resolving: two dots go up, and stay at the root. -/
def step (names : List String) (name : String) : List String :=
  if name == ".." then names.dropLast else names ++ [name]

/-- The path from the root that a path leads to from a directory, without two dots in it. -/
def resolve (directory path : Path) : Path := ⟨.root, (directory.join path).names.foldl step []⟩

/-- The names below a directory that the path goes through. -/
def below? (path directory : Path) : Option (List String) :=
  if path.anchor == directory.anchor && directory.names.isPrefixOf path.names then
    some (path.names.drop directory.names.length)
  else none

end Path

end Shortcode
