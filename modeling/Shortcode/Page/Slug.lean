import Shortcode.Path
import Shortcode.Text.Alphanumeric
import Shortcode.Text.Blank
import Shortcode.Text.Case

/-!
# Slugs and titles

A page without a slug or a title of its own takes them from the name of its file, a date in front
of it left out.  A slug is made of groups of ASCII letters and digits with single hyphens between.
-/

namespace Shortcode

/-- The texts with `mark` between them. -/
def joinWith (mark : Char) : (parts : List (List Char)) → List Char
  | [] => []
  | [part] => part
  | part :: next :: rest => part ++ mark :: joinWith mark (next :: rest)

/-- A part of a date. -/
def isNumeral (part : List Char) : Bool := !part.isEmpty && part.all Text.isDigit

/-- The name without three numbers in front, if something stands behind them. -/
def dropDate (name : List Char) : List Char :=
  match Text.fields '-' name with
  | year :: month :: day :: title :: rest =>
    if isNumeral year && isNumeral month && isNumeral day then joinWith '-' (title :: rest)
    else name
  | _ => name

/-- The parts of a text between characters of a class, empty ones left out. -/
def splitOut (member : Char → Bool) : (text : List Char) → List (List Char)
  | [] => []
  | char :: rest =>
    if member char then splitOut member rest
    else match rest, splitOut member rest with
      | next :: _, part :: parts =>
        if member next then [char] :: part :: parts else (char :: part) :: parts
      | _, parts => [char] :: parts

/-- The letters and digits of a name in lower case, in groups with hyphens between. -/
def cleaned (name : List Char) : List Char :=
  (joinWith '-' (splitOut (fun char => !char.isAlphanum) name)).map Char.toLower

/-- The slug that a file's name gives. -/
def slugify (name : String) : String :=
  let slug := cleaned (dropDate name.toList)
  if slug.isEmpty then "index" else String.ofList slug

/-- A character between the words of a title. -/
def isTitleBreak (char : Char) : Bool := Text.isBlank char || char == '-' || char == '_'

/-- The title that a file's name gives. -/
def titleize (file : String) : String :=
  let words := splitOut isTitleBreak (dropDate (Path.ofString file).stem.toList)
  let title := joinWith ' ' (words.map Text.capitalize)
  if title.isEmpty then "Untitled" else String.ofList title

end Shortcode
