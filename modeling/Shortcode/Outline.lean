import Shortcode.Expansion
import Shortcode.Value.Display

/-!
# The outline store

A store without templates, which shows a call as `[name:key=value,…|body]` and so makes the
structure of a document visible.  Chosen names may fail, and one text may stand for every call.
-/

namespace Shortcode

namespace Outline

/-- The outline of a call. -/
def ofCall (call : Call) : String :=
  let arguments := call.arguments.map fun (key, content) =>
    key ++ "=" ++ content.toValue.display
  let body := (call.body.map ("|" ++ ·)).getD ""
  "[" ++ call.name ++ ":" ++ ",".intercalate arguments ++ body ++ "]"

/-- The store with these names. -/
def store (names failing : List String) (echo : Option String) : Store where
  names := names
  isKnown := names.contains
  render call _ _ :=
    if failing.contains call.name then .error ⟨call.line, .render call.name "boom"⟩
    else .ok (echo.getD (ofCall call))

end Outline

end Shortcode
