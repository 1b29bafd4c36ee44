import Shortcode.Document.Calls

/-!
# Expansion

`Store.expand` replaces every call of a document by what the store renders for it.  Nothing is
rendered before the whole document is read and every name is known; the first call that fails ends
the expansion.  `Expansion` keeps, beside the outcome, the calls given to the store.
-/

namespace Shortcode

/-- The templates that calls may name. -/
structure Store where
  names : List String
  isKnown : String → Bool
  /-- The text of a call, given the values of its page and its site. -/
  render : (call : Call) → (page site : Value) → Except Fault String

/-- The calls that were given to a store, and what came of them. -/
structure Expansion where
  rendered : List Call
  outcome : Except Failure String

/-- Names in the order of their characters. -/
def sortNames (names : List String) : List String :=
  names.mergeSort fun left right => left < right || left == right

namespace Store

/-- The calls themselves, unless a name is unknown. -/
def validate (store : Store) (calls : List Call) : Except Failure (List Call) :=
  match calls.find? fun call => !store.isKnown call.name with
  | none => .ok calls
  | some call => .error (.fault ⟨call.line, .unknown call.name (sortNames store.names)⟩)

/-- The calls of a document, each with a known name. -/
def collect (store : Store) (document : List Char) : Except Failure (List Call) := do
  store.validate (← Shortcode.calls document)

/-- Renders the calls up to the first that fails: those given to the store, and the texts. -/
def renderAll (store : Store) (page site : Value) :
    (calls : List Call) → List Call × Except Failure (List (Call × String))
  | [] => ([], .ok [])
  | call :: rest =>
    match store.render call page site with
    | .error fault => ([call], .error (.fault fault))
    | .ok text =>
      let (rendered, texts) := renderAll store page site rest
      (call :: rendered, texts.map ((call, text) :: ·))

end Store

/-- Replaces the calls by their texts, from the last to the first. -/
def splice (document : List Char) (texts : List (Call × String)) : List Char :=
  texts.foldr (fun (call, text) document =>
    document.take call.start ++ text.toList ++ document.drop call.stop) document

/-- Replaces every call of a document. -/
def Store.expand (store : Store) (document : String) (page site : Value) : Expansion :=
  match store.collect document.toList with
  | .error failure => ⟨[], .error failure⟩
  | .ok calls =>
    let (rendered, texts) := store.renderAll page site calls
    ⟨rendered, texts.map fun texts => String.ofList (splice document.toList texts)⟩

end Shortcode
