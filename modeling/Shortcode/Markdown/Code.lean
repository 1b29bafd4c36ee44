import Shortcode.Markdown.Node
import Shortcode.Renderer

/-!
# Plain text as code

A highlighter that knows one language, plain text, in which there is nothing to highlight.
-/

namespace Shortcode.Markdown

/-- A code in plain text.  A mark of the byte order and the blanks around the code are dropped. -/
def plainCode (code : String) : String :=
  let chars := code.toList
  let chars := if chars.head? == some '\ufeff' then chars.drop 1 else chars
  let text := Text.trim (Text.unixLines chars)
  let escaped := text.flatMap fun char =>
    if char == '"' then "&quot;".toList
    else if char == '\'' then "&#39;".toList else escapeChar char
  "<div class=\"highlight\"><pre><span></span>" ++ String.ofList escaped ++ "\n</pre></div>\n"

/-- The markup of a code whose language is plain text. -/
def highlightText : Highlighter := fun language code =>
  .ok (if language.map Char.toLower == "text" then some (plainCode code) else none)

end Shortcode.Markdown
