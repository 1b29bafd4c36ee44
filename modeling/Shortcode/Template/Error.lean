import Shortcode.Template.Engine
import Shortcode.Text.Quoted

/-!
# Errors of templates

A template whose text is wrong has one error: the line where reading stopped and its cause.  Using a
value in a way that it does not allow is a failure, while a template is rendered and also while
its constants are worked out.
-/

namespace Shortcode.Template

/-- What stands in quotes inside a message. -/
def quote (text : String) : String := String.ofList (Text.quoted text.toList)

/-- The tags that would close what is open. -/
structure OpenTags where
  /-- The tags that the innermost open statement waits for. -/
  awaited : List String
  /-- The tags that any open statement waits for. -/
  known : List String
  /-- The innermost open statement. -/
  innermost : Option String
deriving DecidableEq, Repr

/-- Why a template cannot be read. -/
inductive Cause where
  | unclosedComment
  | unclosedRaw
  | badName
  | unexpectedCharacter (char : Char) (offset : Nat)
  | unexpectedCloser (found : String)
  | mismatchedCloser (found expected : String)
  | badEscape (detail : String)
  | unexpectedToken (found : String)
  | expectedToken (expected found : String)
  | expectedBeforeEnd (expected : String)
  | expectedExpression (found : String)
  | expectedTagName
  | expectedNameOrNumber
  | chainedTests
  | badTarget (kind : String)
  | badArguments
  | loopTarget
  | hyphenInBlock
  | filledRequiredBlock
  | privateImport
  | defaultBeforeOthers
  | expectedCall
  | innerExtends
  | repeatedBlock (name : String)
  | unknownTag (name : String) (tags : OpenTags)
  | unclosedTag (tags : OpenTags)
  | unknownFilter (name : String)
  | unknownTest (name : String)
deriving DecidableEq, Repr

/-- The line and the cause. -/
structure Error where
  line : Nat
  cause : Cause
deriving DecidableEq, Repr

/-- The tags in quotes, with `or` between. -/
def OpenTags.listing (tags : OpenTags) : String :=
  " or ".intercalate (tags.awaited.map quote)

/-- What is said of the open statements; `found` is the tag that was met instead. -/
def OpenTags.hints (tags : OpenTags) (found : Option String) : List String :=
  let awaited :=
    if tags.awaited.isEmpty then []
    else if found.any tags.known.contains then
      ["You probably made a nesting mistake. Jinja is expecting this tag, but currently " ++
        "looking for " ++ tags.listing ++ "."]
    else ["Jinja was looking for the following tags: " ++ tags.listing ++ "."]
  let innermost := tags.innermost.toList.map fun name =>
    "The innermost block that needs to be closed is " ++ quote name ++ "."
  awaited ++ innermost

/-- The wording of a cause. -/
def Cause.message : Cause → String
  | .unclosedComment => "Missing end of comment tag"
  | .unclosedRaw => "Missing end of raw directive"
  | .badName => "Invalid character in identifier"
  | .unexpectedCharacter char offset =>
    "unexpected char " ++ quote (String.singleton char) ++ " at " ++ Nat.repr offset
  | .unexpectedCloser found => "unexpected '" ++ found ++ "'"
  | .mismatchedCloser found expected =>
    "unexpected '" ++ found ++ "', expected '" ++ expected ++ "'"
  | .badEscape detail => detail
  | .unexpectedToken found => "unexpected " ++ quote found
  | .expectedToken expected found =>
    "expected token " ++ quote expected ++ ", got " ++ quote found
  | .expectedBeforeEnd expected =>
    "unexpected end of template, expected " ++ quote expected ++ "."
  | .expectedExpression found => "Expected an expression, got " ++ quote found
  | .expectedTagName => "tag name expected"
  | .expectedNameOrNumber => "expected name or number"
  | .chainedTests => "You cannot chain multiple tests with is"
  | .badTarget kind => "can't assign to " ++ quote kind
  | .badArguments => "invalid syntax for function call expression"
  | .loopTarget => "Can't assign to special loop variable in for-loop target"
  | .hyphenInBlock =>
    "Block names in Jinja have to be valid Python identifiers and may not contain hyphens, use " ++
      "an underscore instead."
  | .filledRequiredBlock => "Required blocks can only contain comments or whitespace"
  | .privateImport => "names starting with an underline can not be imported"
  | .defaultBeforeOthers => "non-default argument follows default argument"
  | .expectedCall => "expected call"
  | .innerExtends => "cannot use extend from a non top-level scope"
  | .repeatedBlock name => "block " ++ quote name ++ " defined twice"
  | .unknownTag name tags =>
    " ".intercalate (("Encountered unknown tag " ++ quote name ++ ".") :: tags.hints (some name))
  | .unclosedTag tags => " ".intercalate ("Unexpected end of template." :: tags.hints none)
  | .unknownFilter name => "No filter named " ++ quote name ++ "."
  | .unknownTest name => "No test named " ++ quote name ++ "."

/-- The kinds of failure that a message names. -/
inductive FailureKind where
  | undefined
  | type
  | member
  | division
  | value
  | overflow
  | unboundName
  | template
  | literal
  | other (name : String)
deriving DecidableEq, Repr

/-- A value that does not allow what is done with it. -/
structure RenderError where
  kind : FailureKind
  detail : String
deriving DecidableEq, Repr

/-- The name of a kind of failure. -/
def FailureKind.word : FailureKind → String
  | .undefined => "UndefinedError"
  | .type => "TypeError"
  | .member => "AttributeError"
  | .division => "ZeroDivisionError"
  | .value => "ValueError"
  | .overflow => "OverflowError"
  | .unboundName => "NameError"
  | .template => "TemplateRuntimeError"
  | .literal => "SyntaxError"
  | .other name => name

/-- The failure as one of a package. -/
def RenderError.toPackageError (error : RenderError) : PackageError :=
  ⟨error.kind.word, error.detail⟩

/-- The wording of a failure. -/
def RenderError.message (error : RenderError) : String :=
  EngineError.message (.raised error.toPackageError)

/-- A failure of another package. -/
def RenderError.ofPackage (error : PackageError) : RenderError := ⟨.other error.kind, error.words⟩

/-- A value of the wrong type. -/
def RenderError.ofType (detail : String) : RenderError := ⟨.type, detail⟩

/-- Why a template cannot be read. -/
inductive ReadFailure where
  | malformed (error : Error)
  /-- A constant of the template cannot be worked out. -/
  | crashed (error : RenderError)
deriving DecidableEq, Repr

/-- The failure as one of an engine. -/
def ReadFailure.toEngineError : ReadFailure → EngineError
  | .malformed error => .malformed error.line error.cause.message
  | .crashed error => .raised error.toPackageError

end Shortcode.Template
