import Shortcode.Package
import Shortcode.Value

/-!
# Loaders of YAML

What the program asks of a package for YAML: the value of a text, or the reason why there is none.
A text that is not YAML is told apart from one whose values cannot be made.
-/

namespace Shortcode.Yaml

/-- Why a text has no value. -/
inductive Flaw where
  /-- The text is not YAML, or holds what values cannot be made of. -/
  | malformed (words : String)
  | raised (error : PackageError)
deriving DecidableEq, Repr

/-- The value of a text; null for a text without a document. -/
abbrev Loader := (text : List Char) → Except Flaw Value

end Shortcode.Yaml
