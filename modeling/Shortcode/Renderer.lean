import Shortcode.Package
import Shortcode.Text.Blank
import Shortcode.Text.Search

/-!
# Markdown as markup

The program lets a package write Markdown as markup, and writes the blocks of code itself: with the
markup of a package that highlights code, or plainly in a language that this one does not know.
-/

namespace Shortcode

/-- The markup of a code in the language of a name, if the language is known. -/
abbrev Highlighter := (language code : String) → Except PackageError (Option String)

/-- The markup of a block of code; what stands behind its fence may name the language. -/
abbrev CodeWriter := (code : String) → (info : Option String) → Except PackageError String

/-- The markup of a Markdown text, given that of its blocks of code. -/
abbrev MarkdownWriter := CodeWriter → (text : String) → Except PackageError String

/-- What a character of code is written as. -/
def codeChar : Char → List Char
  | '&' => "&amp;".toList
  | '<' => "&lt;".toList
  | '>' => "&gt;".toList
  | char => [char]

/-- A block of code that is not highlighted. -/
def plainBlock (language : Option String) (code : String) : String :=
  let mark := (language.map fun language => " class=\"language-" ++ language ++ "\"").getD ""
  "<pre><code" ++ mark ++ ">" ++ String.ofList (code.toList.flatMap codeChar) ++ "</code></pre>\n"

/-- A block of code.  The first word behind its fence names the language, and there has to be one
unless nothing stands there. -/
def codeBlock (highlight : Highlighter) : CodeWriter := fun code info => do
  match info.filter (!·.isEmpty) with
  | none => return plainBlock none code
  | some info =>
    match Text.words info.toList with
    | [] => throw ⟨"IndexError", "list index out of range"⟩
    | word :: _ =>
      let language := String.ofList word
      match ← highlight language code with
      | some markup => return markup
      | none => return plainBlock (some language) code

end Shortcode
