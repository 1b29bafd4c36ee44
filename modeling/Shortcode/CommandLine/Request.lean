import Shortcode.CommandLine.Help
import Shortcode.Text.Alphanumeric
import Shortcode.Text.Quoted
import Shortcode.Text.Similar

/-!
# Requests

`Request.read` makes of the words on a command line what the program is asked to do.  Options may
stand anywhere before a `--`, and the last of several values counts.  A request for help or for the
version comes before every mistake but that of a word that is no option.
-/

namespace Shortcode.CommandLine

/-- Why a path on the command line is refused. -/
inductive PathProblem where
  | absent
  | isDirectory
  | isFile
  /-- The path holds a NUL, so that nothing can be told about it. -/
  | nullName
deriving DecidableEq, Repr

/-- A mistake on the command line. -/
inductive Mistake where
  | noArguments
  | unknownOption (name : String) (similar : List String)
  | needsValue (name : String)
  | takesNoValue (name : String)
  | missingCommand
  | unknownCommand (name : String) (similar : List String)
  | missingOperand (name : String)
  | extraWords (words : List String)
  /-- A path, as the value of what is named first. -/
  | badPath (place : String) (rule : PathRule) (problem : PathProblem) (text : String)

/-- The path cannot even be looked up. -/
def Mistake.isNullName : Mistake → Bool
  | .badPath _ _ .nullName _ => true
  | _ => false

/-- A mistake and the command it was made with. -/
structure UsageError where
  interface : Interface
  mistake : Mistake

/-- What the program can be asked to do with a project. -/
inductive Command where
  | list (project : Option Path)
  | expand (file : Path) (project : Option Path) (html : Bool) (output : Option Path)
    (verbose : Bool)
  | check (files : List Path) (project : Option Path) (verbose : Bool)
  | eject (name : String) (project : Option Path) (force : Bool)

/-- What the program is asked to do. -/
inductive Request where
  | help (interface : Interface)
  | version
  | run (command : Command)

/-! ## Wording -/

/-- A text in quotes. -/
def quote (text : String) : String := String.ofList (Text.quoted text.toList)

/-- The wording of a problem with a path. -/
def PathProblem.message (rule : PathRule) (text : String) (problem : PathProblem) : String :=
  let reason := match problem with
    | .absent => "does not exist."
    | .isDirectory => "is a directory."
    | .isFile => "is a file."
    | .nullName => "holds a NUL."
  let kind := if rule.directory then "Directory" else "File"
  s!"{kind} {quote text} {reason}"

/-- The words that a mistaken one may stand for. -/
def suggestion (similar : List String) : String :=
  match similar with
  | [] => ""
  | [word] => s!" Did you mean {quote word}?"
  | words => " (Did you mean one of: " ++ ", ".intercalate (words.map quote) ++ "?)"

/-- The wording of a mistake. -/
def Mistake.message : Mistake → String
  | .noArguments => ""
  | .unknownOption name similar => s!"No such option {quote name}." ++ suggestion similar
  | .needsValue name => s!"Option {quote name} requires an argument."
  | .takesNoValue name => s!"Option {quote name} does not take a value."
  | .missingCommand => "Missing command."
  | .unknownCommand name similar => s!"No such command {quote name}." ++ suggestion similar
  | .missingOperand name => s!"Missing argument '{name}'."
  | .extraWords words =>
    let plural := if words.length == 1 then "" else "s"
    s!"Got unexpected extra argument{plural} (" ++ " ".intercalate words ++ ")"
  | .badPath place rule problem text =>
    s!"Invalid value for {place}: " ++ problem.message rule text

/-- What the program writes about a mistake, in lines of a width: how the command is used, and the
mistake. -/
def UsageError.report (width : Nat) (error : UsageError) : String :=
  let interface := error.interface
  let line := s!"Error: {error.mistake.message}\n"
  match error.mistake with
  | .noArguments => interface.help width ++ "\n"
  | .needsValue _ | .takesNoValue _ => line
  | _ => s!"{interface.usage}\nTry '{interface.path} --help' for help.\n\n{line}"

/-! ## Words -/

/-- The words of a command line, as options with their values and the rest. -/
structure Words where
  switches : List (Switch × Option String)
  operands : List String

namespace Words

/-- The words behind an option. -/
def behind (switch : Switch) (value : Option String) (words : Words) : Words :=
  { words with switches := (switch, value) :: words.switches }

/-- The words behind an operand. -/
def behindOperand (operand : String) (words : Words) : Words :=
  { words with operands := operand :: words.operands }

/-- The option of a name. -/
def find? (switches : List Switch) (name : String) : Option Switch :=
  switches.find? fun switch => switch.names.contains name

/-- The names of options that start with two hyphens. -/
def longNames (switches : List Switch) : List String :=
  switches.flatMap fun switch => switch.names.filter fun name => name.startsWith "--"

/-- What a word gives: options with their values, and an option whose value is the next word. -/
structure Given where
  switches : List (Switch × Option String)
  waiting : Option (String × Switch)

/-- Reads the letters behind a single hyphen. -/
def letters (switches : List Switch) : (text : List Char) → Except Mistake Given
  | [] => .ok ⟨[], none⟩
  | char :: rest =>
    let name := String.ofList ['-', char]
    match find? switches name with
    | none => .error (.unknownOption name [])
    | some switch =>
      if switch.value.isNone then
        (letters switches rest).map fun given =>
          { given with switches := (switch, none) :: given.switches }
      else if rest.isEmpty then .ok ⟨[], some (name, switch)⟩
      else .ok ⟨[(switch, some (String.ofList rest))], none⟩

/-- Reads a word that starts with a hyphen. -/
def option (switches : List Switch) (word : String) : Except Mistake Given :=
  let (name, value) : String × Option String :=
    match Text.splitAt? ['='] word.toList with
    | some (name, value) => (String.ofList name, some (String.ofList value))
    | none => (word, none)
  match (find? switches name).filter fun _ => (longNames switches).contains name with
  | some switch =>
    match switch.value, value with
    | none, none => .ok ⟨[(switch, none)], none⟩
    | none, some _ => .error (.takesNoValue name)
    | some _, some value => .ok ⟨[(switch, some value)], none⟩
    | some _, none => .ok ⟨[], some (name, switch)⟩
  | none =>
    if word.startsWith "--" then
      .error (.unknownOption name (Text.similarWords name (longNames switches)))
    else letters switches (word.toList.drop 1)

/-- Reads the words of a command line.  Where `anywhere` does not hold, the first operand ends the
options. -/
def read (switches : List Switch) (anywhere : Bool) : (words : List String) →
    Except Mistake Words
  | [] => .ok ⟨[], []⟩
  | word :: rest =>
    if word == "--" then .ok ⟨[], rest⟩
    else if word.startsWith "-" && word.length > 1 then
      match option switches word with
      | .error mistake => .error mistake
      | .ok ⟨given, none⟩ =>
        (read switches anywhere rest).map fun words =>
          given.foldr (fun (switch, value) words => words.behind switch value) words
      | .ok ⟨given, some (name, switch)⟩ =>
        match rest with
        | [] => .error (.needsValue name)
        | value :: rest =>
          (read switches anywhere rest).map fun words =>
            given.foldr (fun (switch, value) words => words.behind switch value)
              (words.behind switch (some value))
    else if anywhere then (read switches anywhere rest).map (·.behindOperand word)
    else .ok ⟨[], word :: rest⟩

/-- The option was given. -/
def has (words : Words) (switch : Switch) : Bool :=
  words.switches.any fun given => given.1.names == switch.names

/-- The last value that was given to an option. -/
def value? (words : Words) (switch : Switch) : Option String :=
  (words.switches.reverse.find? fun given => given.1.names == switch.names).bind (·.2)

/-- The first of the options that only show something. -/
def shown? (words : Words) : Option Switch :=
  (words.switches.map (·.1)).find? fun switch =>
    switch.names == Switch.helpPage.names || switch.names == Switch.versionNumber.names

end Words

/-! ## Paths -/

/-- What stands at a path as it is typed.  Behind a slash at its end, or a dot, only a directory
can stand. -/
def typedEntry? (tree : FileTree) (directory : Path) (text : String) : Option Entry :=
  let last := (Text.fields '/' text.toList).getLast?.getD []
  if text.isEmpty then none
  else (tree.find? directory (Path.ofString text)).filter fun entry =>
    entry == .directory || Path.isName last

/-- Checks a path as it is typed. -/
def PathRule.check (tree : FileTree) (directory : Path) (rule : PathRule) (text : String) :
    Except PathProblem Path :=
  if text.toList.contains '\x00' then .error .nullName
  else match typedEntry? tree directory text with
  | none => if rule.mayBeAbsent then .ok (Path.ofString text) else .error .absent
  | some .directory => if rule.directory then .ok (Path.ofString text) else .error .isDirectory
  | some (.file _) => if rule.directory then .error .isFile else .ok (Path.ofString text)

namespace Words

/-- The names of an option, where a value of it is refused. -/
def switchPlace (switch : Switch) : String :=
  " / ".intercalate (switch.names.map fun name => "'" ++ name ++ "'")

/-- Checks the values of the options, in the order in which they were given first. -/
def checkSwitches (tree : FileTree) (directory : Path) (words : Words) :
    (switches : List (Switch × Option String)) → Except Mistake Unit
  | [] => .ok ()
  | (switch, _) :: rest =>
    match switch.value, words.value? switch with
    | some rule, some text =>
      match rule.check tree directory text with
      | .error problem => .error (.badPath (switchPlace switch) rule problem text)
      | .ok _ => checkSwitches tree directory words rest
    | _, _ => checkSwitches tree directory words rest

/-- Checks operands. -/
def checkOperands (tree : FileTree) (directory : Path) (operand : Operand) :
    (operands : List String) → Except Mistake Unit
  | [] => .ok ()
  | text :: rest =>
    match operand.rule with
    | none => checkOperands tree directory operand rest
    | some rule =>
      match rule.check tree directory text with
      | .error problem => .error (.badPath ("'" ++ operand.name ++ "'") rule problem text)
      | .ok _ => checkOperands tree directory operand rest

/-- Checks the words for the operand of a command, and that no others follow. -/
def checkRest (tree : FileTree) (directory : Path) (interface : Interface) (words : Words) :
    Except Mistake Unit := do
  let extra ← match interface.operand with
    | none => .ok words.operands
    | some operand => do
      if words.operands.isEmpty then throw (.missingOperand operand.name)
      let taken := if operand.repeated then words.operands.length else 1
      checkOperands tree directory operand (words.operands.take taken)
      pure (words.operands.drop taken)
  if !extra.isEmpty then throw (.extraWords extra)

/-- The directory of the project, if it was given. -/
def project (words : Words) : Option Path :=
  (words.value? .project).map Path.ofString

/-- The command of a name, with the words behind it. -/
def command? (words : Words) (name : String) : Option Command :=
  let first := words.operands.headD ""
  let verbose := words.has .verbose
  match name with
  | "list" => some (.list words.project)
  | "expand" =>
    some (.expand (Path.ofString first) words.project (words.has .html)
      ((words.value? .output).map Path.ofString) verbose)
  | "check" => some (.check (words.operands.map Path.ofString) words.project verbose)
  | "eject" => some (.eject first words.project (words.has .force))
  | _ => none

end Words

namespace Request

/-- Reads the words behind the name of a command. -/
def readCommand (tree : FileTree) (directory : Path) (interface : Interface)
    (words : List String) : Except Mistake Request := do
  let words ← Words.read interface.switches true words
  if words.shown?.isSome then return .help interface
  words.checkSwitches tree directory words.switches
  words.checkRest tree directory interface
  match words.command? interface.words with
  | some command => return .run command
  | none => throw .missingCommand

/-- Reads the options of the program: what they show, or the words behind them. -/
def readProgram (words : List String) : Except Mistake (Request ⊕ List String) := do
  let words ← Words.read Interface.program.switches false words
  match words.shown? with
  | some switch =>
    return .inl (if switch.names == Switch.helpPage.names then .help .program else .version)
  | none => return .inr words.operands

/-- A word that starts like an option: with a character that is no letter and no digit. -/
def looksLikeOption (word : String) : Bool :=
  word.toList.head?.any fun char => !Text.isAlphanumeric char

/-- Reads the name of a command and the words behind it. -/
def readNamed (tree : FileTree) (directory : Path) (words : List String) :
    Except UsageError Request :=
  let ofProgram (mistake : Mistake) : UsageError := ⟨.program, mistake⟩
  match words with
  | [] => .error (ofProgram .missingCommand)
  | name :: rest =>
    match Interface.commands.find? fun interface => interface.words == name with
    | some interface =>
      (readCommand tree directory interface rest).mapError fun mistake => ⟨interface, mistake⟩
    | none =>
      let known := Interface.commands.map (·.words)
      let unknown := ofProgram (.unknownCommand name (Text.similarWords name known))
      if looksLikeOption name then
        match readProgram words with
        | .error mistake => .error (ofProgram mistake)
        | .ok (.inl request) => .ok request
        | .ok (.inr _) => .error unknown
      else .error unknown

/-- Reads the words on a command line. -/
def read (tree : FileTree) (directory : Path) (words : List String) :
    Except UsageError Request :=
  if words.isEmpty then .error ⟨.program, .noArguments⟩
  else match readProgram words with
    | .error mistake => .error ⟨.program, mistake⟩
    | .ok (.inl request) => .ok request
    | .ok (.inr words) => readNamed tree directory words

end Request

end Shortcode.CommandLine
