import Shortcode.FileTree

/-!
# The commands and their options

What the program can be asked to do: its commands, the options of each, and the operands that are
named in capitals.
-/

namespace Shortcode.CommandLine

/-- What a path on the command line has to lead to. -/
structure PathRule where
  /-- A directory is wanted, and a file otherwise. -/
  directory : Bool
  /-- Nothing may stand at the path yet. -/
  mayBeAbsent : Bool

/-- An option: its names, its value if it takes one, and what it does. -/
structure Switch where
  names : List String
  value : Option PathRule
  help : String

/-- What follows the options: one word, or any number of words from one on. -/
structure Operand where
  name : String
  repeated : Bool
  rule : Option PathRule

/-- A command as it is typed, with its options and its operand. -/
structure Interface where
  words : String
  about : String
  switches : List Switch
  operand : Option Operand

/-- The name of the program. -/
def programName : String := "sigil"

/-- The version of the program. -/
def version : String := "0.1.0"

namespace Switch

/-- Shows a help page and does nothing else. -/
def helpPage : Switch := ⟨["--help"], none, "Show this message and exit."⟩

/-- Shows the version and does nothing else. -/
def versionNumber : Switch := ⟨["--version"], none, "Show the version and exit."⟩

/-- The directory of the project. -/
def project : Switch :=
  ⟨["--project"], some ⟨true, true⟩,
    "Project root containing sigil.yaml (defaults to the current directory)"⟩

/-- Renders what was expanded to HTML. -/
def html : Switch := ⟨["--html"], none, "Render the expanded markdown to HTML"⟩

/-- Where the result goes. -/
def output : Switch :=
  ⟨["-o", "--output"], some ⟨false, true⟩, "Write the result to a file instead of stdout"⟩

/-- Tells where the templates are. -/
def verbose : Switch := ⟨["-v", "--verbose"], none, "Show where shortcodes load from"⟩

/-- Replaces a template that the project has already. -/
def force : Switch := ⟨["--force"], none, "Overwrite an existing project template"⟩

end Switch

namespace Interface

/-- The program itself. -/
def program : Interface :=
  ⟨programName, "Sigil shortcode expander.", [.versionNumber, .helpPage],
    some ⟨"COMMAND [ARGS]...", true, none⟩⟩

/-- Lists the templates. -/
def list : Interface :=
  ⟨"list", "List known shortcodes.", [.project, .helpPage], none⟩

/-- Expands a file. -/
def expand : Interface :=
  ⟨"expand", "Expand the shortcodes in FILE.",
    [.project, .html, .output, .verbose, .helpPage], some ⟨"FILE", false, some ⟨false, false⟩⟩⟩

/-- Checks files. -/
def check : Interface :=
  ⟨"check", "Validate the shortcodes in FILES without rendering them.",
    [.project, .verbose, .helpPage], some ⟨"FILES...", true, some ⟨false, false⟩⟩⟩

/-- Copies a built-in template. -/
def eject : Interface :=
  ⟨"eject", "Copy the built-in NAME template into the project for customisation.",
    [.project, .force, .helpPage], some ⟨"NAME", false, none⟩⟩

/-- The commands in the order of their names. -/
def commands : List Interface := [check, eject, expand, list]

/-- The words that a command starts with. -/
def path (interface : Interface) : String :=
  if interface.words == programName then programName
  else programName ++ " " ++ interface.words

end Interface

end Shortcode.CommandLine
