import Shortcode.CommandLine.Interface

/-!
# Help pages

A help page shows how a command is used, what it does, and a table of its options, in lines of a
width.  Of a command in a table only as much is told as fits in a line.
-/

namespace Shortcode.CommandLine

/-- Goes on with a line as long as the next word fits. -/
def fillFrom (width : Nat) (line : String) : (words : List String) → List String
  | [] => [line]
  | word :: rest =>
    if line.length + 1 + word.length ≤ width then fillFrom width (line ++ " " ++ word) rest
    else line :: fillFrom width word rest

/-- The words of a text in lines. -/
def fill (width : Nat) (text : String) : List String :=
  match text.splitOn " " with
  | [] => []
  | word :: rest => fillFrom width word rest

/-- Spaces. -/
def spaces (count : Nat) : String := String.ofList (List.replicate count ' ')

/-- A word with spaces behind it up to a width. -/
def padTo (width : Nat) (word : String) : String := word ++ spaces (width - word.length)

/-- The first words of a text that are not longer than a limit, with dots for the others. -/
def shortened (limit : Nat) (text : String) : String :=
  if text.length ≤ limit then text
  else ((fill (limit - 3) text).head?.getD "") ++ "..."

/-- The length of the longest of some words. -/
def longest (words : List String) : Nat := (words.map String.length).foldl max 0

/-- A table of words and what they mean. -/
def table (width : Nat) (rows : List (String × String)) : List String :=
  let column := longest (rows.map (·.1)) + 2
  rows.flatMap fun (word, meaning) =>
    match fill (width - column - 2) meaning with
    | [] => []
    | first :: others =>
      ("  " ++ padTo column word ++ first) :: others.map fun line => spaces (column + 2) ++ line

/-- The word for the value of an option. -/
def PathRule.valueName (rule : PathRule) : String :=
  if rule.directory then "DIRECTORY" else "FILE"

/-- An option as it is typed. -/
def Switch.usage (switch : Switch) : String :=
  ", ".intercalate switch.names ++
    ((switch.value.map fun rule => " " ++ rule.valueName).getD "")

namespace Interface

/-- How a command is used. -/
def usage (interface : Interface) : String :=
  "Usage: " ++ interface.path ++ " [OPTIONS]" ++
    ((interface.operand.map fun operand => " " ++ operand.name).getD "")

/-- The commands that come after the words of this one. -/
def commandRows (width : Nat) (interface : Interface) : List (String × String) :=
  if interface.words == programName then
    let limit := width - longest (commands.map (·.words)) - 6
    commands.map fun command => (command.words, shortened limit command.about)
  else []

/-- The help page of a command. -/
def help (width : Nat) (interface : Interface) : String :=
  let rows := interface.commandRows width
  let options := table width (interface.switches.map fun switch => (switch.usage, switch.help))
  let lines := [interface.usage, ""] ++
    ((fill (width - 2) interface.about).map ("  " ++ ·)) ++ ["", "Options:"] ++ options ++
    if rows.isEmpty then [] else ["", "Commands:"] ++ table width rows
  "\n".intercalate lines

end Interface

end Shortcode.CommandLine
