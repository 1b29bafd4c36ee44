import Shortcode.Configuration
import Shortcode.Proofs.Outcome
import Shortcode.Proofs.Value.Mapping

/-!
# What loaded settings keep

Whatever the file of a project says, its site is a mapping, and its contact
setting is null or a mapping with a known provider and an endpoint.  So the site
that templates are told of can always be made.
-/

namespace Shortcode

namespace Configuration

variable {configuration : Configuration} {entries : List (Value × Value)}
  {contact : Value}

/-! ## The contact setting -/

/-- A mapping that names a known provider and has an endpoint. -/
structure IsContact (entries : List (Value × Value)) (provider : String) :
    Prop where
  named : providerOf entries = .ok provider
  known : provider ∈ contactProviders
  endpoint : (Value.entryOf "endpoint" entries).isTrue = true

theorem cases_of_checkContact (checked : checkContact contact = .ok ()) :
    contact = .null ∨
      ∃ entries provider, contact.opened = .map entries ∧
        IsContact entries provider := by
  unfold checkContact at checked
  generalize opened : contact.opened = inside at checked
  split at checked
  · exact .inl rfl
  · rename_i entries _
    obtain ⟨provider, found, checked⟩ := exists_of_bind_eq_ok checked
    split at checked
    · cases checked
    · rename_i known
      split at checked
      · rename_i endpoint
        refine .inr ⟨entries, provider, rfl, ?_, ?_, endpoint⟩
        · exact eq_ok_of_mapError found
        · simpa using known
      · cases checked
  · cases checked

/-! ## Loaded settings -/

/-- Settings that the loader has checked. -/
structure Checked (configuration : Configuration) : Prop where
  contact : checkContact (configuration.get "contact") = .ok ()
  site : ∃ entries, configuration.get "site" = .map entries

theorem checked_default : default.Checked :=
  ⟨rfl, defaultSite, rfl⟩

theorem checked_of_ofValue {loaded : Value}
    (made : ofValue loaded = .ok configuration) : configuration.Checked := by
  unfold ofValue at made
  split at made
  · rename_i own _
    dsimp only at made
    split at made
    · rename_i site _
      obtain ⟨⟨⟩, checked, made⟩ := exists_of_bind_eq_ok made
      cases made
      refine ⟨checked, Value.merge defaultSite site, ?_⟩
      rw [get, get?, Value.find?_merge_of_ne]
      · rfl
      · intro addition member named
        have other := (List.mem_filter.mp member).2
        rw [siteKey, Value.same_text_iff.mpr named] at other
        cases other
    · cases made
  · cases made

theorem checked_of_load {loader : Yaml.Loader} {tree : FileTree}
    {directory root : Path}
    (loaded : load loader tree directory root = .ok configuration) :
    configuration.Checked := by
  unfold load at loaded
  obtain ⟨⟨⟩, -, loaded⟩ := exists_of_bind_eq_ok loaded
  dsimp only at loaded
  split at loaded
  · cases loaded
    exact checked_default
  · obtain ⟨text, -, loaded⟩ := exists_of_bind_eq_ok loaded
    split at loaded
    · cases loaded
    · cases loaded
    · exact checked_of_ofValue (eq_ok_of_mapError loaded)

/-! ## The site -/

/-- The entries of the contact setting, none if it is not set. -/
def contactEntries (configuration : Configuration) : List (Value × Value) :=
  (entries? (configuration.get "contact")).getD []

/-- A setting of the contact form. -/
def contactField (configuration : Configuration) (name : String) : Value :=
  Value.entryOf name configuration.contactEntries

/-- What templates are told of a contact form with a provider. -/
def contactRecord (configuration : Configuration) (provider : String) :
    List (Value × Value) :=
  [(.text "provider", .text provider),
    (.text "endpoint", configuration.contactField "endpoint"),
    (.text "region", configuration.contactField "region"),
    (.text "redirect", configuration.contactField "redirect"),
    (.text "subject", configuration.contactField "subject")]

/-- The contact setting of checked settings is left out, or it is one that
templates can be told of. -/
theorem Checked.contact_cases (checked : configuration.Checked) :
    fieldsOf (configuration.get "contact") = .ok configuration.contactEntries ∧
      (configuration.contactEntries = [] ∨
        ∃ provider, IsContact configuration.contactEntries provider) := by
  rcases cases_of_checkContact checked.contact with
    null | ⟨entries, provider, opened, isContact⟩
  · have none : entries? (configuration.get "contact") = some [] := by
      rw [null]
      rfl
    simp [fieldsOf, contactEntries, none]
  · have found : entries? (configuration.get "contact") = some entries := by
      rw [entries?, opened]
    have same : configuration.contactEntries = entries := by
      rw [contactEntries, found]
      rfl
    rw [same]
    refine ⟨?_, .inr ⟨provider, isContact⟩⟩
    rw [fieldsOf, found]

theorem contactContext_of_isContact {provider : String}
    (isContact : IsContact configuration.contactEntries provider) :
    contactContext configuration.contactEntries =
      .ok (.map (configuration.contactRecord provider)) := by
  have nonempty : configuration.contactEntries.isEmpty = false := by
    cases same : configuration.contactEntries with
    | nil =>
        have endpoint := isContact.endpoint
        rw [same] at endpoint
        cases endpoint
    | cons entry rest => rfl
  unfold contactContext
  rw [nonempty, isContact.named]
  rfl

theorem Checked.exists_contactContext (checked : configuration.Checked) :
    contactContext configuration.contactEntries = .ok .null ∨
      ∃ provider, IsContact configuration.contactEntries provider ∧
        contactContext configuration.contactEntries =
          .ok (.map (configuration.contactRecord provider)) := by
  rcases checked.contact_cases.2 with none | ⟨provider, isContact⟩
  · rw [none]
    exact .inl rfl
  · exact .inr ⟨provider, isContact, contactContext_of_isContact isContact⟩

/-- The site of checked settings, with the contact form that is in it. -/
theorem Checked.exists_siteContext (checked : configuration.Checked)
    {contact : Value}
    (context : contactContext configuration.contactEntries = .ok contact) :
    ∃ site, configuration.siteContext = .ok (.map site) ∧
      Value.entryOf "contact" site = contact := by
  obtain ⟨entries, site⟩ := checked.site
  unfold siteContext
  rw [checked.contact_cases.1]
  change ∃ made, (contactContext configuration.contactEntries >>= _) = _ ∧ _
  rw [context, site]
  exact ⟨_, rfl, rfl⟩

end Configuration

end Shortcode
