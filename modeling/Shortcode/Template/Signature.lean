import Shortcode.Template.Use
import Shortcode.Template.Tree

/-!
# Arguments and parameters

Arguments are given by position or under keywords, also as the items or the entries of a value.  A
signature names the parameters that they fill; a keyword that names none, a parameter that is filled
twice, an argument too many and a parameter left empty are errors, in this order.
-/

namespace Shortcode.Template

/-- The arguments of a call. -/
structure Given where
  positional : List Value
  keywords : List (String × Value)

/-- No arguments. -/
def Given.nothing : Given := ⟨[], []⟩

/-- The keywords that the entries of a mapping are. -/
def keywordsOf (entries : List (Value × Value)) : Except RenderError (List (String × Value)) :=
  entries.mapM fun (key, content) =>
    match key.text? with
    | some name => .ok (name, content)
    | none => .error (.ofType "keywords must be strings")

/-- Adds an argument to those given before it; `owner` is what is called. -/
def Given.add (owner : String) (given : Given) (slot : Slot) (argument : Value) :
    Except RenderError Given :=
  match slot, argument with
  | .position, _ => .ok { given with positional := given.positional ++ [argument] }
  | .keyword name, _ => .ok { given with keywords := given.keywords ++ [(name, argument)] }
  | .items, _ =>
    (argument.itemsOr fun kind =>
      owner ++ "() argument after * must be an iterable, not " ++ kind).map fun items =>
        { given with positional := given.positional ++ items }
  | .entries, .map entries => do
    let added ← keywordsOf entries
    match added.find? fun entry => (given.keywords.lookup entry.1).isSome with
    | some (name, _) => throw (.ofType
        (owner ++ "() got multiple values for keyword argument " ++ quote name))
    | none => return { given with keywords := given.keywords ++ added }
  | .entries, other =>
    .error (.ofType (owner ++ "() argument after ** must be a mapping, not " ++ other.kindWord))

/-- The arguments beside their slots. -/
def Given.ofSlots (owner : String) (slots : List Slot) (arguments : List Value) :
    Except RenderError Given :=
  (slots.zip arguments).foldlM (fun given (slot, argument) => given.add owner slot argument) .nothing

/-- What takes arguments: its name and its parameters, of which the first ones have to be filled. -/
structure Signature where
  name : String
  parameters : List String
  required : Nat
  /-- Parameters that are filled beforehand, but counted in messages. -/
  hidden : Nat

/-- A signature without hidden parameters. -/
def Signature.plain (name : String) (parameters : List String) (required : Nat) : Signature :=
  ⟨name, parameters, required, 0⟩

namespace Signature

/-- A message about a signature. -/
def error (signature : Signature) (detail : String) : RenderError :=
  .ofType (signature.name ++ "() " ++ detail)

/-- A number with a noun, which has an ending unless the number is one. -/
def counted (count : Nat) (noun : String) : String :=
  Nat.repr count ++ " " ++ noun ++ (if count == 1 then "" else "s")

/-- How many arguments a signature takes by position. -/
def capacity (signature : Signature) : String :=
  let most := signature.parameters.length + signature.hidden
  let least := signature.required + signature.hidden
  if least == most then counted most "positional argument"
  else "from " ++ Nat.repr least ++ " to " ++ Nat.repr most ++ " positional arguments"

/-- Names in quotes, with `and` before the last one. -/
def listing (names : List String) : String :=
  match names.reverse with
  | [] => ""
  | [only] => quote only
  | [last, first] => quote first ++ " and " ++ quote last
  | last :: others => ", ".intercalate (others.reverse.map quote) ++ ", and " ++ quote last

/-- The first keyword that fills no parameter, or one that a position fills or a keyword before. -/
def flaw? (signature : Signature) (filled : List String) :
    (keywords : List (String × Value)) → Option RenderError
  | [] => none
  | (name, _) :: rest =>
    if !signature.parameters.contains name then
      some (signature.error ("got an unexpected keyword argument " ++ quote name))
    else if filled.contains name then
      some (signature.error ("got multiple values for argument " ++ quote name))
    else flaw? signature (name :: filled) rest

/-- The argument of each parameter, where there is one. -/
def fill (signature : Signature) (given : Given) : Except RenderError (List (Option Value)) :=
  let count := given.positional.length
  let filled := signature.parameters.take count
  match signature.flaw? filled given.keywords with
  | some error => .error error
  | none =>
    if count > signature.parameters.length then
      let given := count + signature.hidden
      .error (signature.error ("takes " ++ signature.capacity ++ " but " ++ Nat.repr given ++
        (if given == 1 then " was" else " were") ++ " given"))
    else
      let contents := signature.parameters.zipIdx.map fun (name, place) =>
        (given.positional[place]?).or (given.keywords.lookup name)
      let missing := (signature.parameters.zip contents).take signature.required |>.filter
        (·.2.isNone) |>.map (·.1)
      if missing.isEmpty then .ok contents
      else .error (signature.error ("missing " ++
        counted missing.length "required positional argument" ++ ": " ++ listing missing))

end Signature

end Shortcode.Template
