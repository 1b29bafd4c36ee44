import Shortcode.Markdown
import Shortcode.Markdown.Code
import Shortcode.Template.Member
import Shortcode.Template.Operation
import Shortcode.Template.Signature
import Shortcode.Text.Case
import Shortcode.Text.Numeral

/-!
# Filters

A filter makes a value of another one and of its own arguments.  `default` accepts what is missing;
the others use the value and so refuse it.
-/

namespace Shortcode.Template

/-- The filters that a template may use, other names for the same filter included. -/
def filterNames : List String :=
  ["count", "d", "default", "dictsort", "e", "escape", "join", "length", "lower", "markdown",
    "string", "upper", "urlencode"]

/-- What a filter takes besides the value in front of it. -/
def filterSignature (name : String) : Signature :=
  match name with
  | "default" | "d" => .plain "do_default" ["value", "default_value", "boolean"] 1
  | "e" | "escape" => .plain "escape" ["s"] 1
  | "lower" => .plain "do_lower" ["s"] 1
  | "upper" => .plain "do_upper" ["s"] 1
  | "string" => .plain "soft_str" ["s"] 1
  | "urlencode" => .plain "do_urlencode" ["value"] 1
  | "join" => ⟨"sync_do_join", ["value", "d", "attribute"], 1, 1⟩
  | "dictsort" => .plain "do_dictsort" ["value", "case_sensitive", "by", "reverse"] 1
  | _ => .plain "render_markdown" ["text"] 1

/-- The value itself, or another one where it is missing, or empty if that is asked for. -/
def applyDefault (subject : Value) (other flag : Option Value) : Except RenderError Value := do
  let other := other.getD (.text "")
  match subject with
  | .missing _ => return other
  | _ =>
    if ← (flag.getD (.bool false)).condition then
      return if ← subject.condition then subject else other
    return subject

/-- The value as markup: a text is escaped, markup stays as it is. -/
def applyEscape (subject : Value) : Except RenderError Value :=
  match subject with
  | .markup content => .ok (.markup content)
  | other => other.print.map fun content => .markup (escape content)

/-- The text of the value, changed; markup stays markup. -/
def applyText (change : List Char → List Char) (subject : Value) : Except RenderError Value :=
  let changed (content : String) := String.ofList (change content.toList)
  match subject with
  | .markup content => .ok (.markup (changed content))
  | other => other.print.map fun content => .text (changed content)

/-- The number of items; there is nothing else to say. -/
def applyLength (subject : Value) (given : Given) : Except RenderError Value :=
  if !given.keywords.isEmpty then .error (.ofType "len() takes no keyword arguments")
  else if !given.positional.isEmpty then
    .error (.ofType ("len() takes exactly one argument (" ++
      Nat.repr (given.positional.length + 1) ++ " given)"))
  else subject.length.map fun length => .int length

/-- The keys of a path: the parts between points, those of digits alone as indices. -/
def pathKeys (path : Value) : List Value :=
  match path.text? with
  | none => [path]
  | some content => (Text.fields '.' content.toList).map fun part =>
    if !part.isEmpty && part.all Text.isDigit then .int (Text.valueIn 10 (Text.plainNumeral part))
    else .text (String.ofList part)

/-- The texts of the items, or of what a path leads to from each item, with a separator between. -/
def applyJoin (subject : Value) (separator path : Option Value) : Except RenderError Value := do
  let keys := match path.getD .null with
    | .null => []
    | path => pathKeys path
  unless keys.isEmpty do let _ ← subject.items
  let separator ← (separator.getD (.text "")).print
  let texts ← (← subject.items).mapM fun item => do (← keys.foldlM Value.item item).print
  return .text (separator.intercalate texts)

/-- A key or a value as a part of a query. -/
def queryPart (content : Value) : Except RenderError String := content.print.map queryEncode

/-- Pairs as a query. -/
def queryOf (pairs : List Value) : Except RenderError Value := do
  let texts ← pairs.mapM fun pair => do
    let parts ← (← pair.unpack 2).mapM queryPart
    return "=".intercalate parts
  return .text ("&".intercalate texts)

/-- The value as a part of an address; a mapping and a list of pairs become a query. -/
def applyPercent (subject : Value) : Except RenderError Value :=
  let plain := subject.print.map fun content => Value.text (percentEncode ['/'] content)
  match subject with
  | .text _ | .markup _ => plain
  | .map entries => queryOf (entries.map fun (key, content) => .tuple [key, content])
  | .missing _ => do queryOf (← subject.items)
  | _ => (subject.items?.map queryOf).getD plain

/-- The place of a value in a sorted list: in front of the first item that is greater.  Half of the
list is ruled out at each step, of which `fuel` bounds the number. -/
def sortedPlace (key : Value) (keys : Array Value) :
    (fuel low high : Nat) → Except RenderError Nat
  | 0, low, _ => .ok low
  | fuel + 1, low, high => do
    if low ≥ high then return low
    let middle := (low + high) / 2
    if ← Comparison.less.test key (keys.getD middle .null) then
      sortedPlace key keys fuel low middle
    else sortedPlace key keys fuel (middle + 1) high

/-- The length of the run at the start of a list in which each item is less than the one before, or
none is, as `falling` says. -/
def runLength (falling : Bool) : (keys : List Value) → Except RenderError Nat
  | first :: second :: rest => do
    if (← Comparison.less.test second first) == falling then
      return (← runLength falling (second :: rest)) + 1
    return 1
  | keys => .ok keys.length

/-- The items sorted by their keys; the order of equal keys is kept.  A run at the start is taken as
it is, or turned round; the items behind it are inserted one by one. -/
def sortedByKey (items : List (Value × α)) : Except RenderError (List (Value × α)) := do
  match items with
  | first :: second :: _ =>
    let falling ← Comparison.less.test second.1 first.1
    let length ← runLength falling (items.map (·.1))
    let run := items.take length
    let start := if falling then run.reverse else run
    (items.drop length).foldlM (fun sorted item => do
      let place ← sortedPlace item.1 (sorted.map (·.1)).toArray sorted.length 0 sorted.length
      return sorted.take place ++ item :: sorted.drop place) start
  | _ => return items

/-- What a value counts as where case makes no difference. -/
def withoutCase : Value → Value
  | .text content | .markup content => .text (String.ofList (Text.lower content.toList))
  | other => other

/-- A value that counts as a flag where a number is needed. -/
def numberFlag (subject : Value) : Except RenderError Bool :=
  match subject.int? with
  | some number => .ok (number != 0)
  | none => .error (.ofType
      ("'" ++ subject.kindWord ++ "' object cannot be interpreted as an integer"))

/-- The entries of a mapping as rows, sorted by the keys or the values, as `column` says. -/
def applySort (subject : Value) (sensitive column backwards : Option Value) :
    Except RenderError Value := do
  let column ← (column.getD (.text "key")).present
  let byKey := column.same (.text "key")
  unless byKey || column.same (.text "value") do
    throw ⟨.other "FilterArgumentError", "You can only sort by either \"key\" or \"value\""⟩
  match ← subject.present with
  | .map entries =>
    let backwards ← numberFlag (backwards.getD (.bool false))
    let sensitive ← (sensitive.getD (.bool false)).condition
    let keyed := entries.map fun (key, content) =>
      let sortKey := if byKey then key else content
      (if sensitive then sortKey else withoutCase sortKey, Value.tuple [key, content])
    let sorted ← sortedByKey (if backwards then keyed.reverse else keyed)
    let rows := sorted.map (·.2)
    return .list (if backwards then rows.reverse else rows)
  | other => throw ⟨.member, "'" ++ other.kindWord ++ "' object has no attribute 'items'"⟩

/-- A filter or a test that does not exist. -/
def unknownName (noun name : String) : RenderError :=
  ⟨.template, "No " ++ noun ++ " named " ++ quote name ++ " found."⟩

/-- Applies the filter of a name to the value and its other arguments. -/
def applyFilled (name : String) (arguments : List (Option Value)) : Except RenderError Value := do
  let argument (place : Nat) : Option Value := (arguments[place]?).join
  let subject := (argument 0).getD .null
  match name with
  | "default" | "d" => applyDefault subject (argument 1) (argument 2)
  | "e" | "escape" => applyEscape subject
  | "lower" => applyText Text.lower subject
  | "upper" => applyText Text.upper subject
  | "string" => applyText id subject
  | "urlencode" => applyPercent subject
  | "join" => applyJoin subject (argument 1) (argument 2)
  | "dictsort" => applySort subject (argument 1) (argument 2) (argument 3)
  | _ =>
    let content ← subject.print
    let markup := Markdown.render (codeBlock Markdown.highlightText) content
    return .markup (← markup.mapError .ofPackage)

/-- Applies the filter of a name. -/
def applyFilter (name : String) (subject : Value) (slots : List Slot) (arguments : List Value) :
    Except RenderError Value := do
  if !filterNames.contains name then throw (unknownName "filter" name)
  let signature := filterSignature name
  if name == "length" || name == "count" then
    applyLength subject (← Given.ofSlots "len" slots arguments)
  else
    let given ← Given.ofSlots ("jinja2.filters." ++ signature.name) slots arguments
    let arguments ← signature.fill { given with positional := subject :: given.positional }
    applyFilled name arguments

end Shortcode.Template
