import Shortcode.Template.Filter

/-!
# Calls

What an operation of a value gives when it is called, and what the objects give that every template
knows by name.  Anything else cannot be called.
-/

namespace Shortcode.Template

/-! ## Parts of texts -/

/-- The parts of a text between separators, of which at most `limit` count. -/
def splitParts (separator : List Char) : (limit : Nat) → (text : List Char) → List (List Char)
  | 0, text => [text]
  | limit + 1, text =>
    match Text.splitAt? separator text with
    | none => [text]
    | some (before, after) => before :: splitParts separator limit after

/-- The words of a text, of which at most `limit` are split off; what is left comes last. -/
def splitWords : (limit : Nat) → (text : List Char) → List (List Char)
  | 0, text =>
    let rest := Text.trimStart text
    if rest.isEmpty then [] else [rest]
  | limit + 1, text =>
    let rest := Text.trimStart text
    let word := rest.takeWhile fun char => !Text.isBlank char
    if rest.isEmpty then [] else word :: splitWords limit (rest.drop word.length)

/-- A limit on parts: as many as there can be if it is negative or left out. -/
def partLimit (text : List Char) (limit : Option Value) : Except RenderError Nat :=
  match limit with
  | none => .ok (text.length + 1)
  | some given =>
    match given.int? with
    | some number => .ok (if number < 0 then text.length + 1 else number.toNat)
    | none => .error (.ofType
        ("'" ++ given.kindWord ++ "' object cannot be interpreted as an integer"))

/-- The parts of a text between separators, or its words. -/
def splitText (text : List Char) (separator limit : Option Value) :
    Except RenderError (List (List Char)) := do
  let limit ← partLimit text limit
  match separator.getD .null with
  | .null => return splitWords limit text
  | given =>
    match given.text? with
    | none => throw (.ofType ("must be str or None, not " ++ given.kindWord))
    | some "" => throw ⟨.value, "empty separator"⟩
    | some separator => return splitParts separator.toList limit text

/-- The text without certain characters at its ends; without blanks if none are named. -/
def stripped (name : String) (text : List Char) (given : Option Value) :
    Except RenderError (List Char) := do
  let member ← match given.getD .null with
    | .null => pure Text.isBlank
    | other =>
      match other.text? with
      | some characters => pure characters.toList.contains
      | none => throw (.ofType (name ++ " arg must be None or str"))
  return match name with
    | "lstrip" => text.dropWhile member
    | "rstrip" => Text.dropEndWhile member text
    | _ => Text.dropEndWhile member (text.dropWhile member)

/-! ## Operations of values -/

/-- The arguments of an operation that takes between `least` and `most` of them by position. -/
def counted (owner name : String) (least most : Nat) (given : Given) :
    Except RenderError (List Value) :=
  let full := owner ++ "." ++ name
  let count := given.positional.length
  if !given.keywords.isEmpty then .error (.ofType (full ++ "() takes no keyword arguments"))
  else if most == 0 && count > 0 then
    .error (.ofType (full ++ "() takes no arguments (" ++ Nat.repr count ++ " given)"))
  else if count < least then
    .error (.ofType (name ++ " expected at least " ++ Signature.counted least "argument" ++
      ", got " ++ Nat.repr count))
  else if count > most then
    .error (.ofType (name ++ " expected at most " ++ Signature.counted most "argument" ++
      ", got " ++ Nat.repr count))
  else .ok given.positional

/-- A text as an argument of an operation. -/
def textArgument (name : String) (place : Nat) (given : Value) : Except RenderError String :=
  match given.text? with
  | some content => .ok content
  | none => .error (.ofType
      (name ++ "() argument " ++ Nat.repr place ++ " must be str, not " ++ given.kindWord))

/-- An operation that rendering does not know. -/
def unknownOperation (name : String) : RenderError :=
  ⟨.template, "the operation " ++ quote name ++ " is not available"⟩

/-- What an operation of a text gives; `wrap` makes markup of it where the text is markup. -/
def textOperation (wrap : String → Value) (content name : String) (given : Given) :
    Except RenderError Value := do
  let text := content.toList
  let wrapped (characters : List Char) : Value := wrap (String.ofList characters)
  match name with
  | "upper" => let _ ← counted "str" name 0 0 given; return wrapped (Text.upper text)
  | "lower" => let _ ← counted "str" name 0 0 given; return wrapped (Text.lower text)
  | "capitalize" => let _ ← counted "str" name 0 0 given; return wrapped (Text.capitalize text)
  | "strip" | "lstrip" | "rstrip" =>
    let arguments ← counted "str" name 0 1 given
    return wrapped (← stripped name text arguments.head?)
  | "split" =>
    let arguments ← (Signature.plain "split" ["sep", "maxsplit"] 0).fill given
    let parts ← splitText text (arguments[0]?).join (arguments[1]?).join
    return .list (parts.map wrapped)
  | "replace" =>
    match ← counted "str" name 2 3 given with
    | old :: new :: limit =>
      let old ← textArgument name 1 old
      let new ← textArgument name 2 new
      let limit ← partLimit text limit.head?
      if old.isEmpty then throw (unknownOperation name)
      return wrapped (new.toList.intercalate (splitParts old.toList limit text))
    | _ => throw (unknownOperation name)
  | "startswith" | "endswith" =>
    match ← counted "str" name 1 1 given with
    | [lead] =>
      match lead.text? with
      | none => throw (.ofType
          (name ++ " first arg must be str or a tuple of str, not " ++ lead.kindWord))
      | some lead =>
        let flag := if name == "startswith" then lead.toList.isPrefixOf text
          else lead.toList.isSuffixOf text
        return .bool flag
    | _ => throw (unknownOperation name)
  | "join" =>
    match ← counted "str" name 1 1 given with
    | [subject] =>
      let items ← (← subject.present).itemsOr fun _ => "can only join an iterable"
      let texts ← items.zipIdx.mapM fun (item, place) =>
        match item.text? with
        | some content => Except.ok content
        | none => .error (RenderError.ofType ("sequence item " ++ Nat.repr place ++
            ": expected str instance, " ++ item.kindWord ++ " found"))
      return wrap (content.intercalate texts)
    | _ => throw (unknownOperation name)
  | _ => throw (unknownOperation name)

/-- A view of a mapping. -/
def viewOf (kind : String) (items : List Value) : Value :=
  .object kind (kind ++ "(" ++ (Value.list items).shown ++ ")") [] (some items)

/-- What an operation of a mapping gives. -/
def mapOperation (entries : List (Value × Value)) (name : String) (given : Given) :
    Except RenderError Value := do
  match name with
  | "items" =>
    let _ ← counted "dict" name 0 0 given
    return viewOf "dict_items" (entries.map fun (key, content) => .tuple [key, content])
  | "keys" =>
    let _ ← counted "dict" name 0 0 given
    return viewOf "dict_keys" (entries.map (·.1))
  | "values" =>
    let _ ← counted "dict" name 0 0 given
    return viewOf "dict_values" (entries.map (·.2))
  | "copy" =>
    let _ ← counted "dict" name 0 0 given
    return .map entries
  | "get" =>
    match ← counted "dict" name 1 2 given with
    | key :: other =>
      return (Value.find? (← key.asKey) entries).getD (other.headD .null)
    | [] => throw (unknownOperation name)
  | _ => throw (unknownOperation name)

/-- What an operation of a list gives. -/
def listOperation (owner : String) (items : List Value) (name : String) (given : Given) :
    Except RenderError Value := do
  match name, ← counted owner name 1 1 given with
  | "count", [subject] =>
    let found ← items.filterM fun item => isEqual item subject
    return .int found.length
  | "index", [subject] =>
    match ← items.zipIdx.filterM fun (item, _) => isEqual item subject with
    | (_, place) :: _ => return .int place
    | [] => throw ⟨.value, subject.shown ++ " is not in " ++ owner⟩
  | _, _ => throw (unknownOperation name)

/-- The argument whose turn it is in a round of a loop. -/
def cycled (members : List (String × Value)) (given : Given) : Except RenderError Value := do
  if !given.keywords.isEmpty then
    throw (.ofType "LoopContext.cycle() got an unexpected keyword argument")
  if given.positional.isEmpty then throw (.ofType "no items for cycling given")
  let round := ((members.lookup "index0").bind Value.int?).getD 0
  return given.positional.getD (round.toNat % given.positional.length) .null

/-- The whole numbers from one to another, in steps. -/
def rangeOf (given : Given) : Except RenderError Value := do
  if !given.keywords.isEmpty then throw (.ofType "range() takes no keyword arguments")
  let bounds ← given.positional.mapM fun bound => do
    match (← bound.present).int? with
    | some number => return number
    | none => throw (.ofType
        ("'" ++ bound.kindWord ++ "' object cannot be interpreted as an integer"))
  let (start, stop, step) ← match bounds with
    | [stop] => pure (0, stop, 1)
    | [start, stop] => pure (start, stop, 1)
    | [start, stop, step] => pure (start, stop, step)
    | [] => throw (.ofType "range expected at least 1 argument, got 0")
    | _ => throw (.ofType
        ("range expected at most 3 arguments, got " ++ Nat.repr bounds.length))
  if step == 0 then throw ⟨.value, "range() arg 3 must not be zero"⟩
  let count := (if step > 0 then (stop - start + step - 1) / step
    else (start - stop - step - 1) / (-step)).toNat
  let itemAt (place : Nat) : Value := .int (start + step * place)
  let items := (List.range count).map itemAt
  let shownStep := if step == 1 then "" else ", " ++ Int.repr step
  return .object "range"
    ("range(" ++ Int.repr start ++ ", " ++ Int.repr stop ++ shownStep ++ ")")
    [("start", .int start), ("stop", .int stop), ("step", .int step)] (some items)

/-- A mapping of the entries of another one, or of pairs, and of keywords. -/
def mappingOf (given : Given) : Except RenderError Value := do
  let keywords := given.keywords.map fun (name, content) => (Value.text name, content)
  match given.positional with
  | [] => return .map (Value.merge [] keywords)
  | [.map entries] => return .map (Value.merge entries keywords)
  | [other] =>
    let pairs ← (← other.items).mapM fun item => do
      match ← item.unpack 2 with
      | [key, content] => return (← key.asKey, content)
      | _ => return (item, item)
    return .map (Value.merge [] (pairs ++ keywords))
  | others => throw (.ofType
      ("dict expected at most 1 argument, got " ++ Nat.repr others.length))

/-! ## Calling -/

/-- The objects that every template knows by name. -/
def globals : List (String × Value) :=
  let kind (path : String) : Value := .object "type" ("<class '" ++ path ++ "'>") [] none
  [("range", kind "range"), ("dict", kind "dict"), ("cycler", kind "jinja2.utils.Cycler"),
    ("joiner", kind "jinja2.utils.Joiner"), ("namespace", kind "jinja2.utils.Namespace"),
    ("lipsum", .object "function" "<function generate_lorem_ipsum>" [] none)]

/-- What a value gives when it is called. -/
def call (subject : Value) (slots : List Slot) (arguments : List Value) :
    Except RenderError Value := do
  let subject ← subject.present
  let given ← Given.ofSlots "jinja2.runtime.Context.call" slots arguments
  match subject with
  | .operation (.text content) name => textOperation .text content name given
  | .operation (.markup content) name => textOperation .markup content name given
  | .operation (.map entries) name => mapOperation entries name given
  | .operation (.list items) name => listOperation "list" items name given
  | .operation (.tuple items) name => listOperation "tuple" items name given
  | .operation (.object "LoopContext" _ members _) "cycle" => cycled members given
  | .operation _ name => throw (unknownOperation name)
  | .object "type" "<class 'range'>" .. => rangeOf given
  | .object "type" "<class 'dict'>" .. => mappingOf given
  | .object "type" look .. => throw (unknownOperation look)
  | .object "function" look .. => throw (unknownOperation look)
  | .object "LoopContext" .. => throw (.ofType
      "The loop must have the 'recursive' marker to be called recursively.")
  | other => throw (.ofType ("'" ++ other.kindWord ++ "' object is not callable"))

end Shortcode.Template
