import Shortcode.Proofs.BuiltIn
import Shortcode.Proofs.Configuration
import Shortcode.Proofs.ContactForm.Tree
import Shortcode.Proofs.Document.Coherence
import Shortcode.Proofs.Registry.Ambient
import Shortcode.Proofs.Template.Run
import Shortcode.Yaml.Load

/-!
# The contact form of loaded settings

The settings of a project are checked when they are loaded, made into the site
when a page is expanded, and used by the template of the contact form.  The form
is printed for every provider, as long as its provider can split the endpoint
where it has to, and no whole number in what it prints is too long.
-/

namespace Shortcode

namespace ContactForm

open Template

variable {around : Surroundings} {scope : Scope} {provider : String}

/-! ## Taking settings from the site -/

/-- What a setting of the form comes to, which may count as not set. -/
def settingOf (entries : List (Value × Value)) (name : String)
    (default : Value) : Value :=
  if (Value.entryOf name entries).isTrue then Value.entryOf name entries
  else default

theorem eval_setting {line : Nat} {owner name : String}
    {entries : List (Value × Value)} {default : Value}
    (bound : scope owner = .map entries)
    (plain : (Value.map entries).attribute? name = none)
    (constant : constantValue default = .ok default) :
    (setting line owner name default).eval scope =
      .ok (settingOf entries name default) := by
  have member : (Expression.member (.name owner) name).eval scope =
      .ok ((Value.find? (.text name) entries).getD
        (.missing (.member "dict object" name))) := by
    rw [Expression.eval, Expression.eval, bound]
    exact Value.member_map plain
  have unset {what : Missing} (value : (Expression.member (.name owner)
      name).eval scope = .ok (.missing what)) :
      (setting line owner name default).eval scope = .ok default := by
    apply (eval_choice (decides_undefined value).conjunction_false).trans
    exact constant
  unfold settingOf Value.entryOf
  cases found : Value.find? (.text name) entries with
  | none =>
      rw [found] at member
      exact unset member
  | some content =>
      rw [found] at member
      by_cases present : content.IsPresent
      · have holds : Decides scope (.member (.name owner) name)
            content.isTrue := ⟨content, member, present.condition⟩
        apply (eval_choice
          ((decides_defined member present).conjunction holds)).trans
        rw [Option.getD_some]
        cases content.isTrue with
        | true => exact member
        | false => exact constant
      · cases content with
        | missing what => exact unset member
        | _ => exact absurd rfl present

theorem eval_lowered {line other : Nat} {subject : Expression} {content : String}
    (value : subject.eval scope = .ok (.text content)) :
    (Expression.filter line (.filter other subject "string" [] []) "lower" []
      []).eval scope = .ok (.text (String.ofList (Text.lower content.toList))) := by
  rw [Expression.eval, Expression.eval, value]
  change Except.ok (Value.text (String.ofList
    (Text.lower (String.ofList content.toList).toList))) = _
  rw [String.toList_ofList]

/-- The settings that the bodies use, beside the provider. -/
def fieldNames : List String := ["endpoint", "subject", "redirect", "region"]

/-- The names that the bodies of the form use. -/
def used : List String := "provider" :: "label" :: fieldNames

/-- The settings that the form of a provider prints. -/
def printed (provider : String) : List String :=
  if provider = "hubspot" then ["region"]
  else if provider = "typeform" then ["endpoint"]
  else ["endpoint", "subject", "redirect"]

theorem mem_fieldNames_of_mem_printed {name : String}
    (member : name ∈ printed provider) : name ∈ fieldNames := by
  unfold printed at member
  unfold fieldNames
  split at member
  · simp_all
  · split at member
    · simp_all
    · simp only [List.mem_cons] at member ⊢
      tauto

/-- What the bodies of the form find in a scope. -/
structure Ready (provider : String) (scope : Scope) : Prop where
  named : scope "provider" = .text provider
  present : ∀ name ∈ fieldNames, (scope name).IsPresent
  short : ∀ name ∈ printed provider, (scope name).exceeds digitLimit = false
  split : provider = "hubspot" → ∃ content, scope "endpoint" = .text content
  label : (scope "label").exceeds digitLimit = false

namespace Ready

theorem printable (ready : Ready provider scope) (name : String)
    (member : name ∈ printed provider) : (scope name).IsPrintable :=
  ⟨ready.present name (mem_fieldNames_of_mem_printed member),
    ready.short name member⟩

theorem set (ready : Ready provider scope) (name : String) (content : Value)
    (other : name ∉ used) : Ready provider (scope.set name content) := by
  have same : ∀ known ∈ used, scope.set name content known = scope known := by
    intro known member
    have different : known ≠ name := fun equal => other (equal ▸ member)
    simp [Scope.set, different]
  have inner : ∀ known ∈ fieldNames, known ∈ used := by
    intro known member
    exact List.mem_cons_of_mem _ (List.mem_cons_of_mem _ member)
  constructor
  · rw [same "provider" (by decide)]
    exact ready.named
  · intro known member
    rw [same known (inner known member)]
    exact ready.present known member
  · intro known member
    rw [same known (inner known (mem_fieldNames_of_mem_printed member))]
    exact ready.short known member
  · rw [same "endpoint" (by decide)]
    exact ready.split
  · rw [same "label" (by decide)]
    exact ready.label

end Ready

/-! ## The bodies of the providers -/

/-- The parts of an endpoint between slashes. -/
def partsOf (content : String) : List Value :=
  (splitParts ['/'] (content.toList.length + 1) content.toList).map
    fun part => .text (String.ofList part)

theorem exists_of_partsOf (content : String) :
    ∃ first rest, partsOf content = .text first :: rest := by
  unfold partsOf splitParts
  cases Text.splitAt? ['/'] content.toList with
  | none => exact ⟨_, _, rfl⟩
  | some parts => exact ⟨_, _, rfl⟩

theorem isPrintable_of_mem_partsOf {content : String} {part : Value}
    (member : part ∈ partsOf content) : part.IsPrintable := by
  obtain ⟨text, -, rfl⟩ := List.mem_map.mp member
  exact Value.isPrintable_text _

theorem prints_part (index : Nat) {content : String}
    (bound : scope "parts" = .list (partsOf content))
    (inside : index < (partsOf content).length) :
    Prints scope (.item (.name "parts") (.constant (.int index))) := by
  refine ⟨(partsOf content)[index], ?_,
    isPrintable_of_mem_partsOf (List.getElem_mem inside)⟩
  change (scope "parts").item (.int index) = _
  rw [bound]
  simp [Value.item, Value.present, Value.itemOf?, Value.int?, Value.itemAt?,
    List.getElem?_eq_getElem inside, bind, Except.bind, pure, Except.pure]

theorem exists_decides_longer {items : List Value}
    (bound : scope "parts" = .list items) :
    ∃ flag, Decides scope
      (.comparison (.filter 15 (.name "parts") "length" [] []) [.greater]
        [.constant (.int 1)]) flag ∧ (flag = true → 1 < items.length) := by
  refine ⟨compare (items.length : Int) 1 == .gt, decides_bool ?_, ?_⟩
  · rw [Expression.eval, Expression.eval, Expression.eval, bound]
    change (if compare (items.length : Int) 1 == .gt then
      Except.ok (Value.bool true) else Except.ok (Value.bool false)) = _
    cases compare (items.length : Int) 1 == .gt with
    | true => rfl
    | false => rfl
  · intro longer
    have greater := compare_gt_iff_gt.mp (eq_of_beq longer)
    omega

theorem runs_hubspot (ready : Ready "hubspot" scope) :
    Runs around scope hubspot fun _ => True := by
  obtain ⟨content, endpoint⟩ := ready.split rfl
  obtain ⟨first, rest, parts⟩ := exists_of_partsOf content
  have value : (Expression.call (.member (.name "endpoint") "split")
      [.position] [.constant (.text "/")]).eval scope =
        .ok (.list (partsOf content)) := by
    rw [Expression.eval, Expression.eval, Expression.eval, endpoint]
    rfl
  apply Runs.assign value
  have bound : scope.set "parts" (.list (partsOf content)) "parts" =
      .list (partsOf content) := rfl
  replace ready := ready.set "parts" (.list (partsOf content)) (by decide)
  obtain ⟨flag, decides, longer⟩ := exists_decides_longer bound
  apply Runs.print (prints_name (ready.printable _ (by decide)))
  apply Runs.print (prints_part 0 bound (by simp [parts]))
  apply Runs.print
  · apply Prints.choice decides
    · intro holds
      exact prints_part 1 bound (longer holds)
    · intro _
      exact prints_constant
  exact Runs.nil trivial

theorem runs_typeform (ready : Ready "typeform" scope) :
    Runs around scope typeform fun _ => True := by
  apply Runs.print (prints_name (ready.printable _ (by decide))).escape
  exact Runs.nil trivial

/-! ## The form of the other providers -/

/-- The provider has no body of its own. -/
def IsPlain (provider : String) : Prop :=
  provider ≠ "hubspot" ∧ provider ≠ "typeform"

theorem IsPlain.printed_eq (plain : IsPlain provider) :
    printed provider = ["endpoint", "subject", "redirect"] := by
  rw [printed, if_neg plain.1, if_neg plain.2]

theorem Ready.prints (ready : Ready provider scope) (plain : IsPlain provider)
    {name : String} (member : name ∈ ["endpoint", "subject", "redirect"]) :
    Prints scope (.name name) :=
  prints_name (ready.printable name (plain.printed_eq ▸ member))

theorem Ready.decides (ready : Ready provider scope) (name : String)
    (member : name ∈ fieldNames) : Decides scope (.name name) (scope name).isTrue :=
  decides_name (ready.present name member)

theorem Ready.decides_providerIs (ready : Ready provider scope)
    (name : String) : Decides scope (providerIs name) (provider == name) :=
  decides_equal ready.named

/-- What the head of the form finds in a scope. -/
structure Addressed (provider : String) (scope : Scope) : Prop
    extends Ready provider scope where
  action : (scope "action").IsPrintable

theorem Ready.setAction (ready : Ready provider scope) (address : String) :
    Addressed provider (scope.set "action" (.text address)) where
  toReady := ready.set _ _ (by decide)
  action := Value.isPrintable_text address

theorem runs_action (ready : Ready provider scope) (plain : IsPlain provider) :
    Runs around scope [action] (Addressed provider) := by
  apply Runs.choose (Addressed provider)
    (ready.decides_providerIs "formspree")
  · apply Runs.ite
    · intro _
      have endpoint := ready.printable "endpoint"
        (plain.printed_eq ▸ by decide)
      have value : (Expression.concatenation
          [.constant (.text "https://formspree.io/f/"),
            .name "endpoint"]).eval scope =
          .ok (.text (String.join
            ["https://formspree.io/f/", (scope "endpoint").display])) := by
        rw [Expression.eval]
        change joined [.text "https://formspree.io/f/", scope "endpoint"] = _
        rw [joined, List.mapM_cons, List.mapM_cons, endpoint.print]
        rfl
      exact Runs.assign value (Runs.nil (ready.setAction _))
    · intro _
      apply Runs.choose (Addressed provider)
        (ready.decides_providerIs "web3forms")
      · apply Runs.ite
        · intro _
          exact Runs.assign rfl (Runs.nil (ready.setAction _))
        · intro _
          exact Runs.assign rfl (Runs.nil (ready.setAction _))
      · intro after addressed
        exact Runs.nil addressed
  · intro after addressed
    exact Runs.nil addressed

theorem runs_opening (ready : Addressed provider scope)
    (plain : IsPlain provider) : Runs around scope opening (· = scope) := by
  have provided : (scope "provider").IsPrintable := by
    rw [ready.named]
    exact Value.isPrintable_text provider
  apply Runs.provided (decides_name provided.present)
  · intro _
    exact Runs.print (prints_name provided) (Runs.nil rfl)
  apply Runs.provided (decides_name ready.action.present)
  · intro _
    apply Runs.print (prints_name ready.action).escape
    exact Runs.nil rfl
  apply Runs.provided (ready.decides_providerIs "netlify")
  · intro _
    apply Runs.print (ready.prints plain (by decide)).escape
    exact Runs.nil rfl
  exact Runs.nil rfl

theorem runs_hidden (ready : Ready provider scope) (plain : IsPlain provider) :
    Runs around scope hidden (· = scope) := by
  apply Runs.optional (ready.decides_providerIs "netlify")
  · apply Runs.ite
    · intro _
      apply Runs.print (ready.prints plain (by decide)).escape
      exact Runs.nil rfl
    · intro _
      apply Runs.provided (ready.decides_providerIs "web3forms")
      · intro _
        apply Runs.print (ready.prints plain (by decide)).escape
        exact Runs.nil rfl
      exact Runs.nil rfl
  apply Runs.provided (ready.decides "subject" (by decide))
  · intro _
    apply Runs.print (ready.prints plain (by decide)).escape
    exact Runs.nil rfl
  apply Runs.provided (ready.decides "redirect" (by decide))
  · intro _
    apply Runs.print
    · apply Prints.choice (ready.decides_providerIs "formspree")
      · intro _
        exact prints_constant
      · intro _
        exact prints_constant
    apply Runs.print (ready.prints plain (by decide)).escape
    exact Runs.nil rfl
  exact Runs.nil rfl

theorem prints_label (short : (scope "label").exceeds digitLimit = false) :
    Prints scope (.filter 51 (.name "label") "default" [.position]
      [.constant (.text "Send")]) := by
  cases label : scope "label" with
  | missing what =>
      refine ⟨.text "Send", ?_, Value.isPrintable_text _⟩
      rw [Expression.eval, Expression.eval, label]
      rfl
  | _ =>
      refine ⟨scope "label", ?_, ?_, short⟩
      · rw [Expression.eval, Expression.eval, label]
        rfl
      · rw [label]
        rfl

theorem runs_caption (ready : Ready provider scope) :
    Runs around scope [caption] fun _ => True := by
  apply Runs.print (prints_label ready.label).escape
  exact Runs.nil trivial

theorem runs_form (ready : Ready provider scope) (plain : IsPlain provider) :
    Runs around scope ([action] ++ opening ++ hidden ++ [caption])
      fun _ => True := by
  apply Runs.append (Addressed provider)
  · apply Runs.append (Addressed provider)
    · apply Runs.append (Addressed provider) (runs_action ready plain)
      intro after addressed
      exact (runs_opening addressed plain).frame addressed
    · intro after addressed
      exact (runs_hidden addressed.toReady plain).frame addressed
  · intro after addressed
    exact runs_caption addressed.toReady

/-! ## The whole form -/

theorem runs_bodies (ready : Ready provider scope) :
    Runs around scope bodies fun _ => True := by
  apply Runs.choose (fun _ => True) (ready.decides_providerIs "hubspot")
  · apply Runs.ite
    · intro same
      obtain rfl := eq_of_beq same
      exact runs_hubspot ready
    · intro other
      apply Runs.choose (fun _ => True) (ready.decides_providerIs "typeform")
      · apply Runs.ite
        · intro same
          obtain rfl := eq_of_beq same
          exact runs_typeform ready
        · intro another
          exact runs_form ready ⟨ne_of_beq_false other, ne_of_beq_false another⟩
      · intro after _
        exact Runs.nil trivial
  · intro after _
    exact Runs.nil trivial

/-! ## From the settings of a project -/

/-- The scope behind the settings of the form. -/
def settled (scope : Scope) (entries : List (Value × Value))
    (provider : String) : Scope :=
  (((((scope.set "contact" (.map entries)).set "provider"
    (.text provider)).set "endpoint"
    (settingOf entries "endpoint" (.text ""))).set "subject"
    (settingOf entries "subject" (.text ""))).set "redirect"
    (settingOf entries "redirect" (.text ""))).set "region"
    (settingOf entries "region" (.text "na1"))

theorem runs_settings {site entries : List (Value × Value)} {given : String}
    (bound : scope "site" = .map site)
    (contact : settingOf site "contact" (.map []) = .map entries)
    (named : settingOf entries "provider" (.text "") = .text given) :
    Runs around scope settings
      (· = settled scope entries (String.ofList (Text.lower given.toList))) := by
  have first : (setting 1 "site" "contact" (.map [])).eval scope =
      .ok (.map entries) := by
    rw [← contact]
    exact eval_setting bound rfl rfl
  apply Runs.assign first
  have second : (setting 2 "contact" "provider" (.text "")).eval
      (scope.set "contact" (.map entries)) = .ok (.text given) := by
    rw [← named]
    exact eval_setting rfl rfl rfl
  apply Runs.assign (eval_lowered second)
  apply Runs.assign
  · exact eval_setting rfl rfl rfl
  apply Runs.assign
  · exact eval_setting rfl rfl rfl
  apply Runs.assign
  · exact eval_setting rfl rfl rfl
  apply Runs.assign
  · exact eval_setting rfl rfl rfl
  exact Runs.nil rfl

section Settled

variable {entries : List (Value × Value)} {name default : String}

theorem isPresent_settingOf :
    (settingOf entries name (.text default)).IsPresent := by
  unfold settingOf
  split
  · rename_i holds
    exact Value.isPresent_of_isTrue holds
  · rfl

theorem exceeds_settingOf
    (short : (Value.entryOf name entries).exceeds digitLimit = false) :
    (settingOf entries name (.text default)).exceeds digitLimit = false := by
  unfold settingOf
  split
  · exact short
  · rfl

theorem exists_text_of_settingOf
    (isText : (Value.entryOf name entries).isText = true) :
    ∃ content, settingOf entries name (.text default) = .text content := by
  unfold settingOf
  split
  · exact Value.exists_text_of_isText isText
  · exact ⟨default, rfl⟩

theorem exists_default {provider : String} (member : name ∈ fieldNames) :
    ∃ default, settled scope entries provider name =
      settingOf entries name (.text default) := by
  simp only [fieldNames, List.mem_cons, List.not_mem_nil, or_false] at member
  rcases member with rfl | rfl | rfl | rfl
  · exact ⟨"", rfl⟩
  · exact ⟨"", rfl⟩
  · exact ⟨"", rfl⟩
  · exact ⟨"na1", rfl⟩

theorem ready_settled
    (splits : provider = "hubspot" →
      (Value.entryOf "endpoint" entries).isText = true)
    (short : ∀ name ∈ printed provider,
      (Value.entryOf name entries).exceeds digitLimit = false)
    (label : (scope "label").exceeds digitLimit = false) :
    Ready provider (settled scope entries provider) := by
  constructor
  · rfl
  · intro name member
    obtain ⟨default, same⟩ := exists_default member
    rw [same]
    exact isPresent_settingOf
  · intro name member
    obtain ⟨default, same⟩ :=
      exists_default (mem_fieldNames_of_mem_printed member)
    rw [same]
    exact exceeds_settingOf (short name member)
  · intro hubspot
    exact exists_text_of_settingOf (splits hubspot)
  · exact label

end Settled

/-- The site tells the form of settings that its provider can use. -/
structure Usable (site : List (Value × Value)) : Prop where
  ready : ∃ entries given,
    settingOf site "contact" (.map []) = .map entries ∧
    settingOf entries "provider" (.text "") = .text given ∧
    ∀ scope : Scope, (scope "label").exceeds digitLimit = false →
      Ready (String.ofList (Text.lower given.toList))
        (settled scope entries (String.ofList (Text.lower given.toList)))

/-- What the form takes from outside is none of its own names. -/
theorem own_core : "site" ∉ (Names.ofBody [] core).own ∧
    "label" ∉ (Names.ofBody [] core).own := by
  decide +kernel

/-- The form without its texts runs from a scope. -/
def Completes (scope : Scope) : Prop :=
  Runs ⟨(Names.ofBody [] core).known, none⟩ (Tree.start core scope) core
    fun _ => True

theorem completes_of_usable {site : List (Value × Value)}
    (usable : Usable site) (bound : scope "site" = .map site)
    (label : (scope "label").exceeds digitLimit = false) : Completes scope := by
  obtain ⟨entries, given, contact, named, ready⟩ := usable.ready
  have siteStart : Tree.start core scope "site" = .map site :=
    (Tree.start_of_notMem own_core.1 scope).trans bound
  have labelStart := Tree.start_of_notMem own_core.2 scope
  apply Runs.append _ (runs_settings siteStart contact named)
  rintro after rfl
  apply runs_bodies
  apply ready
  rw [labelStart]
  exact label

/-- A known provider is written in lower case. -/
theorem lower_of_mem_contactProviders (known : provider ∈ contactProviders) :
    String.ofList (Text.lower provider.toList) = provider ∧
      provider.isEmpty = false := by
  revert provider
  decide +kernel

end ContactForm

namespace Configuration

variable {configuration : Configuration}

/-- The form of the provider can split the endpoint, if it has to, and print
what it prints. -/
def FitsForm (configuration : Configuration) : Prop :=
  ∀ provider ∈ (providerOf configuration.contactEntries).toOption,
    (provider = "hubspot" →
      (configuration.contactField "endpoint").isText = true) ∧
    ∀ name ∈ ContactForm.printed provider,
      (configuration.contactField name).exceeds digitLimit = false

instance : Decidable configuration.FitsForm :=
  inferInstanceAs (Decidable (∀ provider ∈ _, _ ∧ ∀ name ∈ _, _))

open ContactForm Template

theorem entryOf_contactRecord {name provider : String}
    (member : name ∈ fieldNames) :
    Value.entryOf name (configuration.contactRecord provider) =
      configuration.contactField name := by
  simp only [fieldNames, List.mem_cons, List.not_mem_nil, or_false] at member
  rcases member with rfl | rfl | rfl | rfl
  · rfl
  · rfl
  · rfl
  · rfl

theorem Checked.exists_site (checked : configuration.Checked)
    (fits : configuration.FitsForm) :
    ∃ site, configuration.siteContext = .ok (.map site) ∧ Usable site := by
  rcases checked.exists_contactContext with none | ⟨provider, isContact, some⟩
  · obtain ⟨site, made, contact⟩ := checked.exists_siteContext none
    refine ⟨site, made, [], "", ?_, rfl, ?_⟩
    · rw [settingOf, contact]
      rfl
    · intro scope label
      apply ready_settled
      · nofun
      · intro name _
        rfl
      · exact label
  · obtain ⟨site, made, contact⟩ := checked.exists_siteContext some
    obtain ⟨lower, nonempty⟩ := lower_of_mem_contactProviders isContact.known
    have fit := fits provider (by rw [isContact.named]; rfl)
    refine ⟨site, made, configuration.contactRecord provider, provider, ?_, ?_,
      ?_⟩
    · rw [settingOf, contact]
      rfl
    · change (if (Value.text provider).isTrue then Value.text provider
        else Value.text "") = _
      rw [Value.isTrue, nonempty]
      rfl
    · intro scope label
      rw [lower]
      apply ready_settled
      · exact fit.1
      · intro name member
        rw [entryOf_contactRecord (mem_fieldNames_of_mem_printed member)]
        exact fit.2 name member
      · exact label

end Configuration

/-! ## Calls -/

/-- The registry has the built-in contact form under its name. -/
def Registry.HasContactForm (registry : Registry Template.interpreter) : Prop :=
  ∃ template, registry.find? "contact_form" = some template ∧
    Template.interpreter.compile (templateFileName "contact_form")
      BuiltIn.contactForm = .ok template.compiled

/-- A registry has the contact form if its loader finds the built-in text. -/
theorem TemplateFolders.hasContactForm_of_load {folders : TemplateFolders}
    {registry : Registry Template.interpreter} {path : Path}
    (loaded : folders.load Template.interpreter = .ok registry)
    (found : folders.source? "contact_form" =
      some (path, Text.Utf8.encode BuiltIn.contactForm.toList)) :
    registry.HasContactForm := by
  have member : ("contact_form", BuiltIn.contactForm) ∈ BuiltIn.templates := by
    simp [BuiltIn.templates]
  exact exists_compile_of_load loaded member found

theorem Registry.HasContactForm.exists_render_iff
    {registry : Registry Template.interpreter}
    (hasForm : registry.HasContactForm) {call : Call}
    (named : call.name = "contact_form") {page site : Value} :
    (∃ text, registry.render call page site = .ok text) ↔
      ContactForm.Completes
        (call.scope (templateFileName "contact_form") page site) := by
  obtain ⟨template, found, compiled⟩ := hasForm
  obtain ⟨file, read⟩ := Template.compile_eq_ok_iff.mp compiled
  obtain ⟨tree, same, isForm⟩ := ContactForm.read_contactForm
  obtain rfl := Except.ok.inj (read.symm.trans same)
  rw [Registry.render_of_find?_interpreter (named ▸ found), file,
    ContactForm.Completes, ← isForm, ← Template.exists_render_iff]
  cases template.compiled.tree.render
      (call.scope (templateFileName "contact_form") page site) with
  | error error => simp [Except.mapError]
  | ok text => simp [Except.mapError]

namespace Call

variable {call : Call} {page site : Value} {file : String}

/-- The caption of the button is no whole number that is too long. -/
def LabelShort (call : Call) : Prop :=
  ∀ content, ("label", content) ∈ call.arguments →
    content.toValue.exceeds digitLimit = false

theorem exceeds_int {limit : Nat} (wide : 20 ≤ limit) {number : Int}
    (least : -2 ^ 63 ≤ number) (greatest : number ≤ 2 ^ 63 - 1) :
    (Value.int number).exceeds limit = false := by
  have enough : 10 ^ 20 ≤ 10 ^ limit := Nat.pow_le_pow_right (by decide) wide
  have small : ¬ 10 ^ limit ≤ number.natAbs := by omega
  exact decide_eq_false small

/-- The arguments of a call in a document have few digits. -/
theorem Coherent.labelShort {text : List Char}
    (coherent : call.Coherent text) : call.LabelShort := by
  intro content given
  cases content with
  | int number =>
      obtain ⟨least, greatest⟩ := coherent.ints _ number given
      exact exceeds_int (by decide) least greatest
  | _ => rfl

theorem exceeds_scope_label (short : call.LabelShort) :
    (call.scope file page site "label").exceeds digitLimit = false := by
  have around : (call.ambient page site).lookup "label" = none := by
    rw [lookup_ambient_eq_none_iff]
    exact fun member => absurd (mem_of_mem_ambientNames member) (by decide)
  rw [scope_eq, if_neg (by decide), around, Option.none_or]
  cases given : call.arguments.lookup "label" with
  | none => rfl
  | some content =>
      obtain ⟨lead, rest, same, -⟩ := List.lookup_eq_some_iff.mp given
      apply short content
      rw [same]
      simp

end Call

open ContactForm in
theorem Configuration.Checked.exists_rendered {configuration : Configuration}
    (checked : configuration.Checked) (fits : configuration.FitsForm) :
    ∃ site, configuration.siteContext = .ok site ∧
      ∀ (registry : Registry Template.interpreter) (call : Call) (page : Value),
        registry.HasContactForm → call.name = "contact_form" →
        call.LabelShort →
          ∃ text, registry.render call page site = .ok text := by
  obtain ⟨site, made, usable⟩ := checked.exists_site fits
  refine ⟨.map site, made, ?_⟩
  intro registry call page hasForm named short
  rw [hasForm.exists_render_iff named]
  exact completes_of_usable usable (call.sees_scope _ page _).site
    (Call.exceeds_scope_label short)

/-- A project whose settings are loaded can use the built-in contact form: the
site can be made, and every call of the form prints a text, whatever the page
and the arguments.  Two things are asked of the settings: a form of `hubspot`
splits its endpoint, which has to be a text, and no whole number in what is
printed may be too long to be written.  A call of a document meets what is asked
of its arguments. -/
theorem Configuration.form_rendered_of_load {loader : Yaml.Loader}
    {tree : FileTree} {directory root : Path} {configuration : Configuration}
    (loaded : load loader tree directory root = .ok configuration)
    (fits : configuration.FitsForm) :
    ∃ site, configuration.siteContext = .ok site ∧
      ∀ (registry : Registry Template.interpreter) (page : Value),
        registry.HasContactForm →
        (∀ call : Call, call.name = "contact_form" → call.LabelShort →
          ∃ text, registry.render call page site = .ok text) ∧
        ∀ document found, calls document = .ok found →
          ∀ call ∈ found, call.name = "contact_form" →
            ∃ text, registry.render call page site = .ok text := by
  obtain ⟨site, made, renders⟩ := (checked_of_load loaded).exists_rendered fits
  refine ⟨site, made, ?_⟩
  intro registry page hasForm
  constructor
  · intro call named short
    exact renders registry call page hasForm named short
  · intro document found read call member named
    have coherent := ((ascending_writtenIn_of_calls read).2 call member).coherent
    exact renders registry call page hasForm named coherent.labelShort

/-! ## Two projects -/

namespace ContactForm

/-- A project with these settings. -/
def project (settings : String) : FileTree :=
  FileTree.empty.addFile [Configuration.fileName]
    (Text.Utf8.encode settings.toList)

/-- The settings of a project with this contact. -/
def loadContact (contact : String) : Except ConfigurationFailure Configuration :=
  Configuration.load Yaml.loader (project contact) ⟨.root, []⟩ ⟨.here, []⟩

/-- A registry of the contact form alone. -/
def formRegistry (tree : Template.Tree) : Registry Template.interpreter where
  templates := [⟨"contact_form", .builtIn, ⟨.here, ["contact_form.html"]⟩,
    ⟨templateFileName "contact_form", tree⟩⟩]
  fetch name := .error (.raised (Template.interpreter.missing name []))

theorem hasContactForm_formRegistry {tree : Template.Tree}
    (read : Template.Tree.read (templateFileName "contact_form")
      BuiltIn.contactForm = .ok tree) : (formRegistry tree).HasContactForm :=
  ⟨_, rfl, Template.compile_eq_ok_iff.mpr ⟨rfl, read⟩⟩

def formCall : Call := ⟨⟨"contact_form", []⟩, .inline, none, 0, 24, 1⟩

def namedEndpoint : String :=
  "contact:
  provider: hubspot
  endpoint: 12/ab
"

/-- The endpoint is a whole number. -/
def numericEndpoint : String :=
  "contact:
  provider: hubspot
  endpoint: 12345
"

end ContactForm

open ContactForm

theorem Configuration.form_rendered_of_namedEndpoint :
    ∃ configuration site, ∃ registry : Registry Template.interpreter,
      loadContact namedEndpoint = .ok configuration ∧
      configuration.FitsForm ∧ configuration.siteContext = .ok site ∧
      registry.HasContactForm ∧
      ∃ text, registry.render formCall .null site = .ok text := by
  have fitting : ((loadContact namedEndpoint).toOption.any
      fun configuration => configuration.FitsForm) = true := by
    decide +kernel
  rw [Option.any_eq_true] at fitting
  obtain ⟨configuration, read, fits⟩ := fitting
  have loaded := eq_ok_of_toOption read
  replace fits := of_decide_eq_true fits
  obtain ⟨site, made, renders⟩ := form_rendered_of_load loaded fits
  obtain ⟨tree, read, -⟩ := read_contactForm
  have hasForm := hasContactForm_formRegistry read
  refine ⟨configuration, site, _, loaded, fits, made, hasForm, ?_⟩
  apply (renders _ .null hasForm).1 formCall rfl
  intro content given
  cases given

theorem Configuration.not_form_rendered_of_load :
    ¬ ∀ (loader : Yaml.Loader) (tree : FileTree) (directory root : Path)
      (configuration : Configuration),
      load loader tree directory root = .ok configuration →
        ∃ site, configuration.siteContext = .ok site ∧
          ∀ (registry : Registry Template.interpreter) (call : Call) (page : Value),
            registry.HasContactForm → call.name = "contact_form" →
              ∃ text, registry.render call page site = .ok text := by
  intro usable
  have loads : (loadContact numericEndpoint).toOption.isSome = true := by
    decide +kernel
  obtain ⟨configuration, loaded⟩ := Option.isSome_iff_exists.mp loads
  obtain ⟨site, made, renders⟩ := usable _ _ _ _ _ (eq_ok_of_toOption loaded)
  obtain ⟨tree, read, -⟩ := read_contactForm
  have hasForm := hasContactForm_formRegistry read
  have renders := renders _ formCall .null hasForm rfl
  obtain ⟨after, ended, -⟩ := (hasForm.exists_render_iff rfl).mp renders
  have fails : ((loadContact numericEndpoint).toOption.bind fun configuration =>
      configuration.siteContext.toOption.bind fun site =>
        (Template.endScope ⟨(Template.Names.ofBody [] core).known, none⟩
          (Template.Tree.start core
            (formCall.scope (templateFileName "contact_form") .null site))
          core).toOption).isNone = true := by
    decide +kernel
  rw [loaded, Option.bind_some, made] at fails
  change (Except.toOption (Template.endScope _ _ core)).isNone = true at fails
  rw [ended] at fails
  cases fails

end Shortcode
