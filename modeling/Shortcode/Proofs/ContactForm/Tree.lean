import Shortcode.BuiltIn
import Shortcode.Proofs.Template.Comparison
import Shortcode.Proofs.Template.Run
import Shortcode.Template.Interpreter
import Shortcode.TemplateFolders

/-!
# The tree of the contact form

The built-in contact form as a tree without its texts: the settings it starts
with, and a body for each kind of provider.  `read_contactForm` says that this
is what the tree of its text comes to.
-/

namespace Shortcode.ContactForm

open Template

/-! ## Settings -/

/-- A member of what a name stands for, or a constant where it is not set. -/
def setting (line : Nat) (owner name : String) (default : Value) : Expression :=
  let found := Expression.member (.name owner) name
  .choice (.conjunction (.test line found "defined" [] []) found) found
    (.constant default)

/-- What the form takes from the site before it prints anything. -/
def settings : List Statement := [
  .assign (.single 1 "contact") (setting 1 "site" "contact" (.map [])),
  .assign (.single 2 "provider") (.filter 2
    (.filter 2 (setting 2 "contact" "provider" (.text "")) "string" [] [])
    "lower" [] []),
  .assign (.single 3 "endpoint") (setting 3 "contact" "endpoint" (.text "")),
  .assign (.single 4 "subject") (setting 4 "contact" "subject" (.text "")),
  .assign (.single 5 "redirect") (setting 5 "contact" "redirect" (.text "")),
  .assign (.single 6 "region") (setting 6 "contact" "region" (.text "na1"))]

/-! ## Bodies -/

/-- The provider has this name. -/
def providerIs (name : String) : Expression :=
  .comparison (.name "provider") [.equal] [.constant (.text name)]

/-- Prints a value as markup. -/
def escaped (line : Nat) (subject : Expression) : Statement :=
  .print (.filter line subject "e" [] [])

/-- The identifiers of a form are split off the endpoint. -/
def hubspot : List Statement := [
  .assign (.single 8 "parts")
    (.call (.member (.name "endpoint") "split") [.position]
      [.constant (.text "/")]),
  .print (.name "region"),
  .print (.item (.name "parts") (.constant (.int 0))),
  .print (.choice
    (.comparison (.filter 15 (.name "parts") "length" [] []) [.greater]
      [.constant (.int 1)])
    (.item (.name "parts") (.constant (.int 1))) (.constant (.text "")))]

def typeform : List Statement := [escaped 21 (.name "endpoint")]

/-- The address that the form is sent to. -/
def action : Statement :=
  .choose (providerIs "formspree")
    [.assign (.single 26 "action")
      (.concatenation
        [.constant (.text "https://formspree.io/f/"), .name "endpoint"])]
    [.choose (providerIs "web3forms")
      [.assign (.single 28 "action")
        (.constant (.text "https://api.web3forms.com/submit"))]
      [.assign (.single 30 "action") (.constant (.text ""))]]

/-- The head of the form. -/
def opening : List Statement := [
  .choose (.name "provider") [.print (.name "provider")] [],
  .choose (.name "action") [escaped 32 (.name "action")] [],
  .choose (providerIs "netlify") [escaped 32 (.name "endpoint")] []]

/-- The fields that no visitor sees. -/
def hidden : List Statement := [
  .choose (providerIs "netlify") [escaped 34 (.name "endpoint")]
    [.choose (providerIs "web3forms") [escaped 37 (.name "endpoint")] []],
  .choose (.name "subject") [escaped 40 (.name "subject")] [],
  .choose (.name "redirect")
    [.print (.choice (providerIs "formspree") (.constant (.text "_next"))
        (.constant (.text "redirect"))),
      escaped 43 (.name "redirect")] []]

/-- The caption of the button. -/
def caption : Statement :=
  escaped 51 (.filter 51 (.name "label") "default" [.position]
    [.constant (.text "Send")])

/-- The body that a provider gets. -/
def bodies : List Statement :=
  [.choose (providerIs "hubspot") hubspot
    [.choose (providerIs "typeform") typeform
      ([action] ++ opening ++ hidden ++ [caption])]]

/-- The contact form without its texts. -/
def core : List Statement := settings ++ bodies

/-! ## Its text -/

theorem read_contactForm :
    ∃ tree, Tree.read (templateFileName "contact_form")
      BuiltIn.contactForm = .ok tree ∧ coreOf tree = core := by
  have read : ((Tree.read (templateFileName "contact_form")
      BuiltIn.contactForm).toOption.any
        fun tree => (sameStatements? (coreOf tree) core).isSome) = true := by
    unfold Tree.read scan
    -- The characters of the text are laid open before the kernel reads them.
    simp only [BuiltIn.contactForm, BuiltIn.toList_ofLines, List.flatMap_cons,
      List.flatMap_nil, String.toList_append]
    repeat rw [String.toList_ofList]
    decide +kernel
  rw [Option.any_eq_true] at read
  obtain ⟨tree, answered, same⟩ := read
  exact ⟨tree, eq_ok_of_toOption answered, eq_of_sameStatements? same⟩

end Shortcode.ContactForm
