import Shortcode.Renderer
import Shortcode.Template.Engine
import Shortcode.Yaml.Loader

/-!
# The packages of the program

What the program takes as it is.  The engine for templates has the filter `markdown` beside its own,
reports every name that is not bound, and escapes nothing by itself.
-/

namespace Shortcode

/-- The packages that the program rests on. -/
structure Packages where
  yaml : Yaml.Loader
  highlight : Highlighter
  markdown : MarkdownWriter
  templates : Template.Engine

/-- A Markdown text as markup. -/
def Packages.toMarkup (packages : Packages) (text : String) : Except PackageError String :=
  packages.markdown (codeBlock packages.highlight) text

end Shortcode
