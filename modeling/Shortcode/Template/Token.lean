import Shortcode.Template.Literal
import Shortcode.Text.Name

/-!
# Tokens of a template

A template is text with print statements, block statements, comments and raw text in it.  `scan`
cuts it into tokens up to the first place where that is not possible.  A hyphen inside a delimiter
removes the blanks of the text beside it, and one line end at the end of the template is dropped.
-/

namespace Shortcode.Template

/-- A piece of a template. -/
inductive Token where
  /-- Text to be printed as it is. -/
  | data (content : String)
  | printBegin
  | printEnd
  | blockBegin
  | blockEnd
  | name (content : String)
  | text (content : String)
  | number (content : Value)
  | operator (sign : String)
  | endOfTemplate

/-- A token and its line. -/
structure Lexeme where
  line : Nat
  token : Token

/-- The tokens of a template, and what stopped the scan. -/
structure Scan where
  lexemes : List Lexeme
  failure : Option ReadFailure

/-- The place of a scan: in text, or inside a print or block statement. -/
inductive Zone where
  | outside
  | print
  | block
deriving DecidableEq

/-- What a token is called in messages. -/
def Token.description : Token → String
  | .data _ => "template data / text"
  | .printBegin => "begin of print statement"
  | .printEnd => "end of print statement"
  | .blockBegin => "begin of statement block"
  | .blockEnd => "end of statement block"
  | .name content => content
  | .text _ => "string"
  | .number (.float _) => "float"
  | .number _ => "integer"
  | .operator sign => sign
  | .endOfTemplate => "end of template"

/-- A delimiter that starts a statement, a comment or raw text. -/
inductive Opener where
  | print
  | block
  | comment
  | raw
deriving DecidableEq

/-- A delimiter in the text. -/
structure Delimiter where
  opener : Opener
  /-- Whether it removes the blanks in front of it. -/
  trims : Bool
  /-- The line ends inside the delimiter. -/
  lineEnds : Nat
  /-- What follows it. -/
  rest : List Char

/-- Whether a hyphen follows a delimiter, and what follows the hyphen or the plus sign. -/
def trimSign (text : List Char) : Bool × List Char :=
  match text with
  | '-' :: rest => (true, rest)
  | '+' :: rest => (false, rest)
  | _ => (false, text)

/-- The line ends in what stands between a text and its end. -/
def lineEndsBefore (text rest : List Char) : Nat :=
  Text.lineEnds (text.take (text.length - rest.length))

/-- What follows the end of a block statement, which may have a sign before it. -/
def blockEnd? (plus : Bool) (text : List Char) : Option (List Char) :=
  match text with
  | '%' :: '}' :: rest => some rest
  | '-' :: '%' :: '}' :: rest => some (Text.trimStart rest)
  | '+' :: '%' :: '}' :: rest => if plus then some rest else none
  | _ => none

/-- The statement that is one word, behind its opening delimiter. -/
def wordStatement? (word : String) (plus : Bool) (text : List Char) : Option Delimiter :=
  let (trims, inner) := trimSign text
  ((Text.dropLead? word.toList (Text.trimStart inner)).bind fun rest =>
    blockEnd? plus (Text.trimStart rest)).map fun rest =>
      ⟨.raw, trims, lineEndsBefore text rest, rest⟩

/-- The delimiter of a statement or a comment. -/
def delimiter (opener : Opener) (text : List Char) : Delimiter :=
  let (trims, rest) := trimSign text
  ⟨opener, trims, 0, rest⟩

/-- The delimiter at the start of the text. -/
def delimiter? (text : List Char) : Option Delimiter :=
  match text with
  | '{' :: '{' :: rest => some (delimiter .print rest)
  | '{' :: '%' :: rest => some ((wordStatement? "raw" false rest).getD (delimiter .block rest))
  | '{' :: '#' :: rest => some (delimiter .comment rest)
  | _ => none

/-- The text before the first delimiter, and the delimiter. -/
def splitAtDelimiter? : (text : List Char) → Option (List Char × Delimiter)
  | [] => none
  | char :: rest =>
    match delimiter? (char :: rest) with
    | some found => some ([], found)
    | none => (splitAtDelimiter? rest).map fun (before, found) => (char :: before, found)

/-- The raw text before its end, and the delimiter that ends it. -/
def splitAtRawEnd? : (text : List Char) → Option (List Char × Delimiter)
  | [] => none
  | char :: rest =>
    match (Text.dropLead? ['{', '%'] (char :: rest)).bind (wordStatement? "endraw" true) with
    | some found => some ([], found)
    | none => (splitAtRawEnd? rest).map fun (before, found) => (char :: before, found)

/-- The text before the end of a comment, the end itself, and what follows. -/
def splitAtCommentEnd? : (text : List Char) → Option (List Char × List Char × List Char)
  | [] => none
  | '#' :: '}' :: rest => some ([], ['#', '}'], rest)
  | '+' :: '#' :: '}' :: rest => some ([], ['+', '#', '}'], rest)
  | '-' :: '#' :: '}' :: rest =>
    some ([], ['-', '#', '}'] ++ rest.takeWhile Text.isBlank, Text.trimStart rest)
  | char :: rest =>
    (splitAtCommentEnd? rest).map fun (before, found) => (char :: before, found)

/-- What follows the end of a statement, and the blanks that the end removes. -/
def statementEnd? (zone : Zone) (text : List Char) : Option (List Char × List Char) :=
  match zone, text with
  | .print, '}' :: '}' :: rest => some ([], rest)
  | .print, '-' :: '}' :: '}' :: rest =>
    some (rest.takeWhile Text.isBlank, Text.trimStart rest)
  | .block, '%' :: '}' :: rest => some ([], rest)
  | .block, '+' :: '%' :: '}' :: rest => some ([], rest)
  | .block, '-' :: '%' :: '}' :: rest =>
    some (rest.takeWhile Text.isBlank, Text.trimStart rest)
  | _, _ => none

/-- The operators, the longer ones first. -/
def operators : List String :=
  ["//", "**", "==", "!=", ">=", "<=", "+", "-", "/", "*", "%", "~", "[", "]", "(", ")", "\x7b",
    "\x7d", ">", "<", "=", ".", ":", "|", ",", ";"]

/-- The operator at the start of the text. -/
def operator? (text : List Char) : Option (String × List Char) :=
  operators.findSome? fun sign => (Text.dropLead? sign.toList text).map fun rest => (sign, rest)

/-- The operator that closes a bracket. -/
def closerOf? (sign : String) : Option String :=
  if sign == "\x7b" then some "\x7d"
  else if sign == "(" then some ")"
  else if sign == "[" then some "]"
  else none

/-- A closing bracket. -/
def isCloser (sign : String) : Bool := sign == "\x7d" || sign == ")" || sign == "]"

/-- The tokens of a text that is printed. -/
def dataLexemes (line : Nat) (content : List Char) : List Lexeme :=
  if content.isEmpty then [] else [⟨line, .data (String.ofList content)⟩]

/-- A scan that a flaw stops. -/
def Scan.stopped (line : Nat) (cause : Cause) : Scan := ⟨[], some (.malformed ⟨line, cause⟩)⟩

/-- The scan with tokens in front. -/
def Scan.behind (lexemes : List Lexeme) (scan : Scan) : Scan :=
  { scan with lexemes := lexemes ++ scan.lexemes }

/-- Scans on from a place: the brackets that are open, whether a point stands before the place,
its line, and the text left of `total` characters.  Each step uses up a character. -/
def scanFrom (total : Nat) : (fuel : Nat) → Zone → (brackets : List String) →
    (afterPoint : Bool) → (line : Nat) → (text : List Char) → Scan
  | 0, _, _, _, _, _ => ⟨[], none⟩
  | _ + 1, _, _, _, _, [] => ⟨[], none⟩
  | fuel + 1, .outside, brackets, _, line, text =>
    match splitAtDelimiter? text with
    | none => ⟨[⟨line, .data (String.ofList text)⟩], none⟩
    | some (before, found) =>
      let data := dataLexemes line (if found.trims then Text.trimEnd before else before)
      let line := line + Text.lineEnds before
      match found.opener with
      | .print =>
        (scanFrom total fuel .print brackets false line found.rest).behind
          (data ++ [⟨line, .printBegin⟩])
      | .block =>
        (scanFrom total fuel .block brackets false line found.rest).behind
          (data ++ [⟨line, .blockBegin⟩])
      | .comment =>
        match splitAtCommentEnd? found.rest with
        | some (comment, stop, rest) =>
          let line := line + Text.lineEnds comment + Text.lineEnds stop
          (scanFrom total fuel .outside brackets false line rest).behind data
        | none =>
          if found.rest.isEmpty then ⟨data, none⟩
          else (Scan.stopped line .unclosedComment).behind data
      | .raw =>
        let line := line + found.lineEnds
        match splitAtRawEnd? found.rest with
        | some (content, stop) =>
          let shown := dataLexemes line (if stop.trims then Text.trimEnd content else content)
          let line := line + Text.lineEnds content + stop.lineEnds
          (scanFrom total fuel .outside brackets false line stop.rest).behind (data ++ shown)
        | none =>
          if found.rest.isEmpty then ⟨data, none⟩
          else (Scan.stopped line .unclosedRaw).behind data
  | fuel + 1, zone, brackets, afterPoint, line, char :: rest =>
    let text := char :: rest
    let next (token : Token) (zone : Zone) (brackets : List String) (afterPoint : Bool)
        (lineEnds : Nat) (rest : List Char) : Scan :=
      (scanFrom total fuel zone brackets afterPoint (line + lineEnds) rest).behind
        [⟨line, token⟩]
    match if brackets.isEmpty then statementEnd? zone text else none with
    | some (blanks, rest) =>
      next (if zone == .print then .printEnd else .blockEnd) .outside [] false
        (Text.lineEnds blanks) rest
    | none =>
      if Text.isBlank char then
        scanFrom total fuel zone brackets false (line + Text.lineEnds [char]) rest
      else match number? afterPoint text with
        | some (.ok content, rest) => next (.number content) zone brackets false 0 rest
        | some (.error error, _) => ⟨[], some (.crashed error)⟩
        | none =>
          if Text.isNameChar char then
            let word := text.takeWhile Text.isNameChar
            if Text.isName word then
              next (.name (String.ofList word)) zone brackets false 0 (text.drop word.length)
            else .stopped line .badName
          else match if char == '\'' || char == '"' then splitQuoted? char rest else none with
            | some (content, rest) =>
              match quotedContent content with
              | .error cause => .stopped line cause
              | .ok decoded => next (.text decoded) zone brackets false (Text.lineEnds content) rest
            | none =>
              match operator? text with
              | none => .stopped line (.unexpectedCharacter char (total - text.length))
              | some (sign, rest) =>
                if isCloser sign then
                  match brackets with
                  | [] => .stopped line (.unexpectedCloser sign)
                  | expected :: others =>
                    if expected == sign then next (.operator sign) zone others false 0 rest
                    else .stopped line (.mismatchedCloser sign expected)
                else
                  next (.operator sign) zone ((closerOf? sign).toList ++ brackets)
                    (sign == ".") 0 rest

/-- The template as it is scanned: one line end at its end is dropped. -/
def dropLastLineEnd (text : List Char) : List Char :=
  if text.getLast? == some '\n' then text.dropLast else text

/-- The tokens of a template. -/
def scan (text : String) : Scan :=
  let source := dropLastLineEnd (Text.unixLines text.toList)
  scanFrom source.length (source.length + 1) .outside [] false 1 source

end Shortcode.Template
