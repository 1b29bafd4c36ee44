import Shortcode.Markdown
import Shortcode.Markdown.Code
import Shortcode.Packages
import Shortcode.Template.Interpreter
import Shortcode.Yaml.Load

/-!
# The packages of this library

The packages that the program is run with: `Yaml.loader`, `Markdown.render` and
`Template.interpreter`.  Each knows a part of its language.
-/

namespace Shortcode

/-- The packages of this library. -/
def Packages.standard : Packages where
  yaml := Yaml.loader
  highlight := Markdown.highlightText
  markdown := Markdown.render
  templates := Template.interpreter

end Shortcode
