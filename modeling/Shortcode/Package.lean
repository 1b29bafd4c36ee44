/-!
# Errors of packages

The program rests on packages that it takes as they are: one for YAML, one for templates, one for
Markdown and one that highlights code.  All that it learns of a failure in one of them is the name
of its kind and its words.
-/

namespace Shortcode

/-- A failure in a package: the name of its kind, and its words. -/
structure PackageError where
  kind : String
  words : String
deriving DecidableEq, Repr

end Shortcode
