import Shortcode.Text.Alphanumeric
import Shortcode.Text.Blank
import Shortcode.Text.Case
import Shortcode.Text.Search
import Shortcode.Value.Display
import Shortcode.Document.Cursor
import Shortcode.Argument
import Shortcode.Document.Calls
import Shortcode.Outline
import Shortcode.Page
import Shortcode.Template.Token
import Shortcode.Template.Check
import Shortcode.Template.Escape
import Shortcode.Markdown
import Shortcode.Template.Render
import Shortcode.Registry
import Shortcode.Yaml.Written
import Shortcode.Yaml.Token
import Shortcode.Yaml.Load
import Shortcode.Page.Frontmatter
import Shortcode.Configuration
import Shortcode.Content
import Shortcode.Text.Styled
import Shortcode.Text.Similar
import Shortcode.CommandLine.Interface
import Shortcode.CommandLine.Help
import Shortcode.CommandLine.Request
import Shortcode.CommandLine.Run
import Shortcode.Markdown.Reference
import Shortcode.Markdown.Node
import Shortcode.Markdown.Markup
import Shortcode.Markdown.Destination
import Shortcode.Markdown.Span
import Shortcode.Markdown.Line
import Shortcode.Markdown.Block
import Shortcode.Main
import Shortcode.Proofs.Text.Search
import Shortcode.Proofs.Document.Fence
import Shortcode.Proofs.Document.CodeSpan
import Shortcode.Proofs.Document.Cursor
import Shortcode.Proofs.Document.Segmentation
import Shortcode.Proofs.Document.Delimiters
import Shortcode.Proofs.Document.Invocation
import Shortcode.Proofs.Document.Spans
import Shortcode.Proofs.Expansion
import Shortcode.Proofs.Document.Search
import Shortcode.Proofs.Document.Printing
import Shortcode.Proofs.Document.Blocks
import Shortcode.Proofs.Document.Source
import Shortcode.Proofs.Expansion.Trace
import Shortcode.Proofs.Document.LineEnd
import Shortcode.Proofs.Document.Moves
import Shortcode.Proofs.Document.Shift
import Shortcode.Proofs.Expansion.Concatenation
import Shortcode.Proofs.Argument.Numeral
import Shortcode.Proofs.Argument.Reading
import Shortcode.Proofs.Document.Cut
import Shortcode.Proofs.Call
import Shortcode.Proofs.Document.Failure
import Shortcode.Proofs.Document.Blame
import Shortcode.Proofs.Document.Commands
import Shortcode.Proofs.Document.Coherence
import Shortcode.Proofs.Content
import Shortcode.Proofs.FileTree
import Shortcode.Proofs.Registry.Loading
import Shortcode.Proofs.FileTree.Growth
import Shortcode.Proofs.Registry.Copy
import Shortcode.Proofs.BuiltIn
import Shortcode.Proofs.Eject
import Shortcode.Proofs.Template.Comparison
import Shortcode.Proofs.Template.Run
import Shortcode.Proofs.ContactForm.Tree
import Shortcode.Proofs.Configuration
import Shortcode.Proofs.ContactForm
import Shortcode.Proofs.Argument.Grammar
import Shortcode.Proofs.Argument.Printing
import Shortcode.Proofs.Check
import Shortcode.Proofs.Writing
import Shortcode.Proofs.Document.EndTag
import Shortcode.Proofs.Content.Page
import Shortcode.Proofs.Template.Marks
import Shortcode.Proofs.Embed
import Shortcode.Proofs.Yaml.Place
import Shortcode.Proofs.Yaml.Written
import Shortcode.Proofs.Yaml.Layout
import Shortcode.Proofs.Yaml.FirstToken
import Shortcode.Proofs.Yaml.BlankLines
import Shortcode.Proofs.Yaml.BlankScalar
import Shortcode.Proofs.Yaml.BlankLoad
import Shortcode.Proofs.Content.Frontmatter
import Shortcode.Proofs.Page.Slug
import Shortcode.Proofs.Page.Spelling
import Shortcode.Proofs.Template.Names
import Shortcode.Proofs.Yaml.Keys
import Shortcode.Proofs.Configuration.Acceptance
