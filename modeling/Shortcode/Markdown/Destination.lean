import Shortcode.Markdown.Line
import Shortcode.Markdown.Node
import Shortcode.Text.Case

/-!
# Where links lead

The address and the title of a link are written in parentheses behind its words, or once for all
links of a label.
-/

namespace Shortcode.Markdown

/-- The signs that a backslash takes their meaning from. -/
def isSign (char : Char) : Bool :=
  "\\!\"#$%&'()*+,./:;<=>?@[]^\x60\x7b|\x7d~_-".toList.contains char

/-- The text without the backslashes before signs. -/
def unescaped : (text : List Char) → List Char
  | [] => []
  | [char] => [char]
  | first :: second :: rest =>
    if first == '\\' && isSign second then second :: unescaped rest
    else first :: unescaped (second :: rest)

/-- The label of at most `room` signs that ends at the next bracket, and what follows the
bracket. -/
def labelUpTo? : (room : Nat) → (text : List Char) → Option (List Char × List Char)
  | _, [] => none
  | _, ']' :: rest => some ([], rest)
  | _, '[' :: _ => none
  | 0, _ => none
  | room + 1, '\\' :: char :: rest =>
    if char == '\n' then none
    else (labelUpTo? room rest).map fun (label, rest) => ('\\' :: char :: label, rest)
  | room + 1, char :: rest => (labelUpTo? room rest).map fun (label, rest) => (char :: label, rest)

/-- The label that ends at the next bracket, and what follows the bracket. -/
def labelAt? (text : List Char) : Option (List Char × List Char) := labelUpTo? 500 text

/-- The label of a note, which holds no blanks, and what follows the bracket. -/
def noteLabelAt? (text : List Char) : Option (List Char × List Char) :=
  (labelAt? text).filter fun (label, _) => !label.any Text.isBlank

/-- The words up to the bracket that closes a link, and what follows it; `depth` brackets are open
in them. -/
def linkedWords? : (depth : Nat) → (text : List Char) → Option (List Char × List Char)
  | _, [] => none
  | depth, '\\' :: char :: rest =>
    (linkedWords? depth rest).map fun (words, rest) => ('\\' :: char :: words, rest)
  | 0, ']' :: rest => some ([], rest)
  | depth + 1, ']' :: rest =>
    (linkedWords? depth rest).map fun (words, rest) => (']' :: words, rest)
  | depth, '[' :: rest =>
    (linkedWords? (depth + 1) rest).map fun (words, rest) => ('[' :: words, rest)
  | depth, char :: rest =>
    (linkedWords? depth rest).map fun (words, rest) => (char :: words, rest)

/-- Labels that differ in capitals or blanks are one. -/
def labelKey (label : List Char) : String :=
  String.ofList (Text.upper (Text.lower (" ".toList.intercalate (Text.words label))))

/-- The text behind blanks with at most one line end among them. -/
def skipGap (text : List Char) : List Char :=
  match text.dropWhile isGap with
  | '\n' :: rest => rest.dropWhile isGap
  | rest => rest

/-- An address up to the angle bracket that closes it, and what follows. -/
def bracketed? : (text : List Char) → Option (List Char × List Char)
  | [] => none
  | '\\' :: char :: rest =>
    if char == '\n' then none
    else (bracketed? rest).map fun (address, rest) => ('\\' :: char :: address, rest)
  | char :: rest =>
    if char == '>' then some ([], rest)
    else if "<\n\\".toList.contains char then none
    else (bracketed? rest).map fun (address, rest) => (char :: address, rest)

/-- An address up to a blank or the closing parenthesis, and what follows it; `depth` parentheses
are open in it. -/
def bareAddress : (depth : Nat) → (text : List Char) → List Char × List Char
  | _, [] => ([], [])
  | depth, '\\' :: char :: rest =>
    let (address, rest) := bareAddress depth rest
    ('\\' :: char :: address, rest)
  | depth, char :: rest =>
    if isGap char || char == '\n' || (char == ')' && depth == 0) then ([], char :: rest)
    else
      let inner := if char == '(' then depth + 1 else if char == ')' then depth - 1 else depth
      let (address, rest) := bareAddress inner rest
      (char :: address, rest)

/-- The address that a text starts with, and what follows it. -/
def addressAt? (text : List Char) : Option (List Char × List Char) :=
  match skipGap text with
  | '<' :: rest => bracketed? rest
  | rest => some (bareAddress 0 rest)

/-- A title up to its closing mark, and what follows; the opening one may not stand in it. -/
def titleUpTo? (opener closer : Char) : (text : List Char) → Option (List Char × List Char)
  | [] => none
  | '\\' :: char :: rest =>
    (titleUpTo? opener closer rest).map fun (title, rest) => ('\\' :: char :: title, rest)
  | char :: rest =>
    if char == closer then some ([], rest)
    else if char == opener then none
    else (titleUpTo? opener closer rest).map fun (title, rest) => (char :: title, rest)

/-- The title behind an address, and what follows it. -/
def titleAt? (text : List Char) : Option (List Char × List Char) :=
  let inner := text.dropWhile fun char => isGap char || char == '\n'
  if inner.length == text.length then none
  else match inner with
    | '"' :: rest => titleUpTo? '"' '"' rest
    | '\'' :: rest => titleUpTo? '\'' '\'' rest
    | '(' :: rest => titleUpTo? '(' ')' rest
    | _ => none

/-- The place that an address and a title as written name. -/
def Target.ofWritten (address : List Char) (title : Option (List Char)) : Target :=
  ⟨addressOf (unescaped address),
    (title.filter (!·.isEmpty)).map fun title => String.ofList (unescaped title)⟩

/-- The target in parentheses, behind the opening one, and what follows it. -/
def targetAt? (text : List Char) : Option (Target × List Char) := do
  let (address, behind) ← addressAt? text
  let (title, behind) : Option (List Char) × List Char := match titleAt? behind with
    | some (title, rest) => (some title, rest)
    | none => (none, behind)
  match behind.dropWhile Text.isBlank with
  | ')' :: rest => return (Target.ofWritten address title, rest)
  | _ => none

/-- What a whole text defines for the spans in it. -/
structure Definitions where
  links : List (String × Target)
  notes : List (String × List Char)

namespace Definitions

/-- Nothing is defined. -/
def empty : Definitions := ⟨[], []⟩

/-- The target of a label. -/
def link? (definitions : Definitions) (label : List Char) : Option Target :=
  definitions.links.lookup (labelKey label)

/-- A target for a label that has none yet. -/
def withLink (definitions : Definitions) (label : List Char) (target : Target) : Definitions :=
  { definitions with links := definitions.links ++ [(labelKey label, target)] }

/-- A note for a label that has none yet. -/
def withNote (definitions : Definitions) (label note : List Char) : Definitions :=
  { definitions with notes := definitions.notes ++ [(labelKey label, note)] }

end Definitions

/-- What follows the blanks at the end of a line. -/
def afterLine? (text : List Char) : Option (List Char) :=
  match text.dropWhile isGap with
  | '\n' :: rest => some rest
  | [] => some []
  | _ => none

/-- The target of a label, behind the colon, and what follows on the next line. -/
def definedTarget? (text : List Char) : Option (Target × List Char) := do
  let (address, behind) ← match skipGap text with
    | '<' :: rest => bracketed? rest
    | rest =>
      let address := rest.takeWhile fun char => !Text.isBlank char
      if address.isEmpty then none else some (address, rest.drop address.length)
  let titled : Option (Target × List Char) := do
    let (title, rest) ← titleAt? behind
    let between := Text.fields '\n' (behind.take (behind.length - rest.length))
    if (between.drop 1).dropLast.any isBlankLine then none
    return (Target.ofWritten address (some title), ← afterLine? rest)
  match titled with
  | some found => return found
  | none => return (Target.ofWritten address none, ← afterLine? behind)

end Shortcode.Markdown
