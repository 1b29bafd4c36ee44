import Shortcode.Proofs.Configuration
import Shortcode.Proofs.Yaml.Keys

/-!
# Which settings are accepted

The value of a file of settings is accepted if it is a mapping or counts as not
set, if this holds of its site, and if its contact setting is null or a mapping
with a known provider and an endpoint.  Otherwise the first of these conditions
that fails is the error.  Accepted settings lie over the defaults, those of the
site over its defaults, and templates can be told of them.
-/

namespace Shortcode

namespace Configuration

open Value

variable {configuration : Configuration} {content contact loaded : Value}
  {entries given site : List (Value × Value)} {name provider : String}
  {problem : ConfigurationFlaw ⊕ TooLong}

/-! ## Mappings that may be left out -/

/-- The entries of a value where a mapping is asked for: there are none if it
counts as not set. -/
inductive Gives : Value → List (Value × Value) → Prop
  | mapping {content : Value} {entries : List (Value × Value)}
      (opened : content.opened = .map entries) : Gives content entries
  | unset {content : Value} (falsy : content.isTrue = false) : Gives content []

/-- The value is set, and no mapping. -/
structure IsForeign (content : Value) : Prop where
  isSet : content.isTrue = true
  noMapping : ∀ entries, content.opened ≠ .map entries

theorem entries?_of_unset (falsy : content.isTrue = false) :
    entries? content = some [] := by
  cases content with
  | map entries =>
      cases entries with
      | nil => rfl
      | cons entry rest => cases falsy
  | cycle bodies place => cases falsy
  | _ =>
      unfold entries?
      rw [falsy]
      rfl

theorem entries?_eq_some_iff : entries? content = some entries ↔ Gives content entries := by
  constructor
  · intro found
    unfold entries? at found
    split at found
    · rename_i inside opened
      cases found
      exact .mapping opened
    · split at found
      · cases found
      · rename_i falsy
        cases found
        exact .unset (Bool.eq_false_iff.mpr falsy)
  · rintro (opened | falsy)
    · rw [entries?, opened]
    · exact entries?_of_unset falsy

theorem entries?_eq_none_iff : entries? content = none ↔ IsForeign content := by
  constructor
  · intro absent
    unfold entries? at absent
    split at absent
    · cases absent
    · rename_i noMapping
      split at absent
      · rename_i isSet
        exact ⟨isSet, noMapping⟩
      · cases absent
  · rintro ⟨isSet, noMapping⟩
    unfold entries?
    split
    · rename_i inside opened
      exact absurd opened (noMapping inside)
    · rw [if_pos isSet]

/-! ## The contact setting -/

/-- The contact setting is null, or a mapping with a known provider and an
endpoint. -/
def AcceptsContact (contact : Value) : Prop :=
  contact = .null ∨
    ∃ entries provider, contact.opened = .map entries ∧ IsContact entries provider

/-- The first condition that a contact setting breaks.  A provider that cannot be
written is none. -/
inductive BreaksContact (contact : Value) : ConfigurationFlaw ⊕ TooLong → Prop
  | shape (isSet : contact ≠ .null) (noMapping : ∀ entries, contact.opened ≠ .map entries) :
      BreaksContact contact (.inl .contactNotMapping)
  | tooLong {entries : List (Value × Value)} {what : TooLong}
      (opened : contact.opened = .map entries) (named : providerOf entries = .error what) :
      BreaksContact contact (.inr what)
  | provider {entries : List (Value × Value)} {provider : String}
      (opened : contact.opened = .map entries) (named : providerOf entries = .ok provider)
      (unknown : provider ∉ contactProviders) :
      BreaksContact contact (.inl (.unknownProvider (entryOf "provider" entries).display))
  | endpoint {entries : List (Value × Value)} {provider : String}
      (opened : contact.opened = .map entries) (named : providerOf entries = .ok provider)
      (known : provider ∈ contactProviders)
      (unset : (entryOf "endpoint" entries).isTrue = false) :
      BreaksContact contact (.inl .missingEndpoint)

theorem checkContact_of_opened (opened : contact.opened = .map entries) :
    checkContact contact =
      ((providerOf entries).mapError .inr).bind fun provider =>
        if !contactProviders.contains provider then
          .error (.inl (.unknownProvider (entryOf "provider" entries).display))
        else if (entryOf "endpoint" entries).isTrue then .ok ()
        else .error (.inl .missingEndpoint) := by
  unfold checkContact
  rw [opened]
  cases contact with
  | null => cases opened
  | _ => rfl

theorem checkContact_of_shape (isSet : contact ≠ .null)
    (noMapping : ∀ entries, contact.opened ≠ .map entries) :
    checkContact contact = .error (.inl .contactNotMapping) := by
  unfold checkContact
  split
  · exact absurd rfl isSet
  · rename_i entries _ opened
    exact absurd opened (noMapping entries)
  · rfl

theorem checkContact_eq_ok_iff : checkContact contact = .ok () ↔ AcceptsContact contact := by
  constructor
  · exact cases_of_checkContact
  · rintro (rfl | ⟨entries, provider, opened, isContact⟩)
    · rfl
    · have known : contactProviders.contains provider = true :=
        List.contains_iff_mem.mpr isContact.known
      rw [checkContact_of_opened opened, isContact.named]
      dsimp only [Except.mapError, Except.bind]
      rw [known, isContact.endpoint]
      rfl

theorem checkContact_eq_error_iff :
    checkContact contact = .error problem ↔ BreaksContact contact problem := by
  constructor
  · intro failed
    by_cases noMapping : ∀ entries, contact.opened ≠ .map entries
    · have isSet : contact ≠ .null := by
        rintro rfl
        cases failed
      rw [checkContact_of_shape isSet noMapping] at failed
      cases failed
      exact .shape isSet noMapping
    · push Not at noMapping
      obtain ⟨entries, opened⟩ := noMapping
      rw [checkContact_of_opened opened] at failed
      cases named : providerOf entries with
      | error what =>
          rw [named] at failed
          cases failed
          exact .tooLong opened named
      | ok provider =>
          rw [named] at failed
          dsimp only [Except.mapError, Except.bind] at failed
          split at failed
          · rename_i unknown
            cases failed
            exact .provider opened named (by simpa using unknown)
          · rename_i known
            split at failed
            · cases failed
            · rename_i unset
              cases failed
              exact .endpoint opened named (by simpa using known) (by simpa using unset)
  · rintro (⟨isSet, noMapping⟩ | ⟨opened, named⟩ | ⟨opened, named, unknown⟩ |
      ⟨opened, named, known, unset⟩)
    · exact checkContact_of_shape isSet noMapping
    · rw [checkContact_of_opened opened, named]
      rfl
    · rw [checkContact_of_opened opened, named]
      simp [Except.mapError, Except.bind, unknown]
    · rw [checkContact_of_opened opened, named]
      simp [Except.mapError, Except.bind, known, unset]

/-! ## The settings of a file -/

/-- The settings of a file other than the site. -/
def otherSettings (given : List (Value × Value)) : List (Value × Value) :=
  (ownSettings given).filter fun entry => !siteKey.same entry.1

theorem isRecord_defaultSite : IsRecord defaultSite where
  named := by
    simp only [Configuration.defaultSite, List.forall_mem_cons]
    exact ⟨⟨_, rfl⟩, ⟨_, rfl⟩, ⟨_, rfl⟩, List.forall_mem_nil _⟩
  distinct := by
    simp [Configuration.defaultSite, Value.text?]

theorem isRecord_withSite (site : List (Value × Value)) : IsRecord (withSite site) where
  named := by
    simp only [Configuration.withSite, List.forall_mem_cons]
    exact ⟨⟨_, rfl⟩, ⟨_, rfl⟩, ⟨_, rfl⟩, ⟨_, rfl⟩, List.forall_mem_nil _⟩
  distinct := by
    simp [Configuration.withSite, Value.text?]

theorem wellKeyed_of_gives (keyed : content.WellKeyed) (gives : Gives content entries) :
    (Value.map entries).WellKeyed := by
  cases gives with
  | mapping opened => exact opened ▸ keyed.opened
  | unset falsy => exact .map .nil (List.forall_mem_nil _)

theorem wellKeyed_withoutSite (keyed : content.WellKeyed) :
    (withoutSite content).WellKeyed := by
  unfold Configuration.withoutSite
  split
  · rename_i root inside others place
    cases keyed with
    | alone plain => cases plain
    | cycle bodies =>
        rw [List.forall_mem_cons] at bodies
        apply wellKeyed_ofPlace
        rw [List.forall_mem_cons]
        refine ⟨?_, bodies.2⟩
        cases bodies.1 with
        | alone plain => cases plain
        | map distinct contents =>
            exact .map (distinct.filter _)
              fun entry member => contents entry (List.mem_filter.mp member).1
  · exact keyed

theorem wellKeyed_ownSettings (keyed : (Value.map given).WellKeyed) :
    (Value.map (ownSettings given)).WellKeyed := by
  cases keyed with
  | alone plain => cases plain
  | map distinct contents =>
      refine .map ?_ ?_
      · have keys : (ownSettings given).map (·.1) = given.map (·.1) := by
          unfold ownSettings
          rw [List.map_map]
          rfl
        rw [distinctKeys_iff, keys, ← distinctKeys_iff]
        exact distinct
      · unfold ownSettings
        rw [List.forall_mem_map]
        exact fun entry member => wellKeyed_withoutSite (contents entry member)

theorem wellKeyed_entryOf (keyed : (Value.map entries).WellKeyed) (name : String) :
    (entryOf name entries).WellKeyed := by
  unfold entryOf find?
  cases found : entries.find? fun entry => (Value.text name).same entry.1 with
  | none => exact .alone rfl
  | some entry =>
      cases keyed with
      | alone plain => cases plain
      | map distinct contents => exact contents entry (List.mem_of_find?_eq_some found)

/-- The settings of a file over the defaults. -/
def overDefaults (given site : List (Value × Value)) : Configuration :=
  ⟨overlay (withSite (overlay defaultSite site)) (otherSettings given)⟩

theorem find?_otherSettings (other : name ≠ "site") :
    find? (.text name) (otherSettings given) = find? (.text name) (ownSettings given) := by
  unfold otherSettings find?
  rw [List.find?_filter]
  congr 2
  funext entry
  rw [Bool.eq_iff_iff, decide_eq_true_iff, and_iff_right_iff_imp]
  intro same
  rw [Bool.not_eq_true', Bool.eq_false_iff, siteKey, Ne, same_text_iff,
    same_text_iff.mp same, Option.some.injEq]
  exact other

theorem find?_site_otherSettings :
    find? (.text "site") (otherSettings given) = none := by
  unfold otherSettings find?
  rw [List.find?_filter, Option.map_eq_none_iff, List.find?_eq_none]
  intro entry _
  simp [siteKey]

theorem get_overDefaults (name : String) :
    (overDefaults given site).get name =
      ((find? (.text name) (otherSettings given)).or
        (find? (.text name) (withSite (overlay defaultSite site)))).getD .null := by
  rw [get, get?, overDefaults, find?_overlay (isRecord_withSite _)]

theorem get_contact_overDefaults :
    (overDefaults given site).get "contact" = entryOf "contact" (ownSettings given) := by
  have unset : find? (.text "contact") (withSite (overlay defaultSite site)) =
      some .null := rfl
  rw [get_overDefaults, unset, find?_otherSettings (by decide), entryOf]
  cases find? (.text "contact") (ownSettings given) with
  | none => rfl
  | some contact => rfl

theorem get_site_overDefaults :
    (overDefaults given site).get "site" = .map (overlay defaultSite site) := by
  rw [get_overDefaults, find?_site_otherSettings]
  rfl

theorem ofValue_of_gives (keyed : loaded.WellKeyed) (top : Gives loaded given)
    (isSite : Gives (entryOf "site" (ownSettings given)) site) :
    ofValue loaded =
      (checkContact (entryOf "contact" (ownSettings given))).map fun _ =>
        overDefaults given site := by
  have own := wellKeyed_ownSettings (wellKeyed_of_gives keyed top)
  have siteKeyed := wellKeyed_of_gives (wellKeyed_entryOf own "site") isSite
  have siteMerged : merge defaultSite site = overlay defaultSite site := by
    cases siteKeyed with
    | alone plain => cases plain
    | map distinct contents => exact merge_eq_overlay isRecord_defaultSite distinct
  have merged : (⟨merge (withSite (merge defaultSite site)) (otherSettings given)⟩ :
      Configuration) = overDefaults given site := by
    rw [siteMerged]
    cases own with
    | alone plain => cases plain
    | map distinct contents =>
        have othersDistinct : DistinctKeys (otherSettings given) := distinct.filter _
        rw [merge_eq_overlay (isRecord_withSite _) othersDistinct]
        rfl
  have found : entries? ((find? siteKey (ownSettings given)).getD .null) = some site :=
    entries?_eq_some_iff.mpr isSite
  have contact := @get_contact_overDefaults given site
  rw [← merged] at contact ⊢
  unfold ofValue
  rw [entries?_eq_some_iff.mpr top]
  dsimp only
  rw [found, ← contact]
  dsimp only [otherSettings]
  cases checkContact _ with
  | error problem => rfl
  | ok checked => rfl

theorem ofValue_of_foreign (top : IsForeign loaded) :
    ofValue loaded = .error (.inl .notMapping) := by
  unfold ofValue
  rw [entries?_eq_none_iff.mpr top]
  rfl

theorem ofValue_of_foreignSite (top : Gives loaded given)
    (isForeign : IsForeign (entryOf "site" (ownSettings given))) :
    ofValue loaded = .error (.inl .siteNotMapping) := by
  have absent : entries? ((find? siteKey (ownSettings given)).getD .null) = none :=
    entries?_eq_none_iff.mpr isForeign
  unfold ofValue
  rw [entries?_eq_some_iff.mpr top]
  dsimp only
  rw [absent]
  rfl

/-! ## What is accepted -/

/-- The value of a file is accepted: its settings, and those of its site. -/
structure Accepts (loaded : Value) (given site : List (Value × Value)) : Prop where
  top : Gives loaded given
  site : Gives (entryOf "site" (ownSettings given)) site
  contact : AcceptsContact (entryOf "contact" (ownSettings given))

/-- The first condition that the value of a file breaks. -/
inductive Breaks (loaded : Value) : ConfigurationFlaw ⊕ TooLong → Prop
  | top (isForeign : IsForeign loaded) : Breaks loaded (.inl .notMapping)
  | site {given : List (Value × Value)} (top : Gives loaded given)
      (isForeign : IsForeign (entryOf "site" (ownSettings given))) :
      Breaks loaded (.inl .siteNotMapping)
  | contact {given site : List (Value × Value)} {problem : ConfigurationFlaw ⊕ TooLong}
      (top : Gives loaded given) (isSite : Gives (entryOf "site" (ownSettings given)) site)
      (breaks : BreaksContact (entryOf "contact" (ownSettings given)) problem) :
      Breaks loaded problem

theorem gives_or_isForeign (content : Value) :
    (∃ entries, Gives content entries) ∨ IsForeign content := by
  cases found : entries? content with
  | none => exact .inr (entries?_eq_none_iff.mp found)
  | some entries => exact .inl ⟨entries, entries?_eq_some_iff.mp found⟩

theorem ofValue_eq_ok_iff (keyed : loaded.WellKeyed) :
    ofValue loaded = .ok configuration ↔
      ∃ given site, Accepts loaded given site ∧
        configuration = overDefaults given site := by
  constructor
  · intro made
    rcases gives_or_isForeign loaded with ⟨given, top⟩ | top
    · rcases gives_or_isForeign (entryOf "site" (ownSettings given)) with
        ⟨site, isSite⟩ | isForeign
      · rw [ofValue_of_gives keyed top isSite] at made
        obtain ⟨⟨⟩, checked, rfl⟩ := exists_of_map_eq_ok made
        exact ⟨given, site, ⟨top, isSite, checkContact_eq_ok_iff.mp checked⟩, rfl⟩
      · rw [ofValue_of_foreignSite top isForeign] at made
        cases made
    · rw [ofValue_of_foreign top] at made
      cases made
  · rintro ⟨given, site, ⟨top, isSite, contact⟩, rfl⟩
    rw [ofValue_of_gives keyed top isSite, checkContact_eq_ok_iff.mpr contact]
    rfl

theorem ofValue_eq_error_iff (keyed : loaded.WellKeyed) :
    ofValue loaded = .error problem ↔ Breaks loaded problem := by
  constructor
  · intro failed
    rcases gives_or_isForeign loaded with ⟨given, top⟩ | top
    · rcases gives_or_isForeign (entryOf "site" (ownSettings given)) with
        ⟨site, isSite⟩ | isForeign
      · rw [ofValue_of_gives keyed top isSite] at failed
        have broken := eq_error_of_map_eq_error failed
        exact .contact top isSite (checkContact_eq_error_iff.mp broken)
      · rw [ofValue_of_foreignSite top isForeign] at failed
        cases failed
        exact .site top isForeign
    · rw [ofValue_of_foreign top] at failed
      cases failed
      exact .top top
  · rintro (isForeign | ⟨top, isForeign⟩ | ⟨top, isSite, breaks⟩)
    · exact ofValue_of_foreign isForeign
    · exact ofValue_of_foreignSite top isForeign
    · rw [ofValue_of_gives keyed top isSite, checkContact_eq_error_iff.mpr breaks]
      rfl

/-! ## What templates are told -/

/-- What templates are told of a contact setting: nothing of null, otherwise a known
provider and the endpoint. -/
structure Tells (contact told : Value) : Prop where
  null_iff : told = .null ↔ contact = .null
  form : contact ≠ .null → ∃ entries answer provider, contact.opened = .map entries ∧
    told = .map answer ∧ provider ∈ contactProviders ∧
    entryOf "provider" answer = .text provider ∧
    entryOf "endpoint" answer = entryOf "endpoint" entries ∧
    (entryOf "endpoint" entries).isTrue = true

theorem checked_overDefaults
    (accepts : AcceptsContact (entryOf "contact" (ownSettings given))) :
    (overDefaults given site).Checked where
  contact := by rwa [get_contact_overDefaults, checkContact_eq_ok_iff]
  site := ⟨_, get_site_overDefaults⟩

theorem exists_contactContext_of_accepts
    (accepts : AcceptsContact (configuration.get "contact")) :
    ∃ told, contactContext configuration.contactEntries = .ok told ∧
      Tells (configuration.get "contact") told := by
  rcases accepts with null | ⟨entries, provider, opened, isContact⟩
  · have none : configuration.contactEntries = [] := by
      rw [contactEntries, null]
      rfl
    refine ⟨.null, ?_, iff_of_true rfl null, fun isSet => absurd null isSet⟩
    rw [none]
    rfl
  · have isSet : configuration.get "contact" ≠ .null := by
      intro null
      rw [null] at opened
      cases opened
    have same : configuration.contactEntries = entries := by
      rw [contactEntries, entries?_eq_some_iff.mpr (.mapping opened), Option.getD_some]
    refine ⟨_, contactContext_of_isContact (same ▸ isContact), ?_⟩
    refine ⟨iff_of_false Value.noConfusion isSet, ?_⟩
    intro _
    refine ⟨entries, _, provider, opened, rfl, isContact.known, rfl, ?_,
      isContact.endpoint⟩
    rw [← same]
    rfl

theorem exists_siteContext_overDefaults
    (accepts : AcceptsContact (entryOf "contact" (ownSettings given))) :
    ∃ fields, (overDefaults given site).siteContext = .ok (.map fields) ∧
      Tells (entryOf "contact" (ownSettings given)) (entryOf "contact" fields) := by
  have checked := @checked_overDefaults given site accepts
  rw [← @get_contact_overDefaults given site] at accepts ⊢
  obtain ⟨told, context, tells⟩ := exists_contactContext_of_accepts accepts
  obtain ⟨fields, made, named⟩ := checked.exists_siteContext context
  exact ⟨fields, made, named ▸ tells⟩

/-! ## Loading -/

/-- The file of settings of a project has a value. -/
structure HasSettings (loader : Yaml.Loader) (tree : FileTree) (directory root : Path)
    (loaded : Value) : Prop where
  found : tree.checkLookup directory (root.child fileName) = .ok ()
  present : tree.contains directory (root.child fileName) = true
  readable : ∃ text, tree.readPieces directory (root.child fileName) = .ok text ∧
    loader text = .ok loaded

variable {loader : Yaml.Loader} {tree : FileTree} {directory root : Path}

theorem HasSettings.load_eq (settings : HasSettings loader tree directory root loaded) :
    load loader tree directory root = (ofValue loaded).mapError
      (Sum.elim (fun flaw => .flawed ⟨root.child fileName, flaw⟩) .tooLong) := by
  obtain ⟨found, present, text, read, described⟩ := settings
  unfold load
  dsimp only
  rw [found, present, read]
  dsimp only [Except.mapError, bind, Except.bind]
  rw [described]
  rfl

/-- Whatever loads the file of settings, its value decides whether it is accepted, as
long as no mapping in it has a key twice.  If it is not accepted, the first condition
that it breaks is told of, or that the provider is too long to be written.  If it is,
its settings lie over the defaults, those of the site over the default ones, and
templates can be told of them. -/
theorem load_iff_accepts_and_told
    (settings : HasSettings loader tree directory root loaded) (keyed : loaded.WellKeyed) :
    ((∃ configuration, load loader tree directory root = .ok configuration) ↔
      ∃ given site, Accepts loaded given site) ∧
    (∀ failure, load loader tree directory root = .error failure ↔
      (∃ flaw, Breaks loaded (.inl flaw) ∧
        failure = .flawed ⟨root.child fileName, flaw⟩) ∨
      ∃ what, Breaks loaded (.inr what) ∧ failure = .tooLong what) ∧
    ∀ configuration, load loader tree directory root = .ok configuration →
      ∃ given site, Accepts loaded given site ∧
        configuration.settings =
          overlay (withSite (overlay defaultSite site)) (otherSettings given) ∧
        ∃ fields, configuration.siteContext = .ok (.map fields) ∧
          Tells (entryOf "contact" (ownSettings given)) (entryOf "contact" fields) := by
  rw [settings.load_eq]
  refine ⟨?_, ?_, ?_⟩
  · constructor
    · rintro ⟨configuration, made⟩
      obtain ⟨given, site, accepts, -⟩ :=
        (ofValue_eq_ok_iff keyed).mp (eq_ok_of_mapError made)
      exact ⟨given, site, accepts⟩
    · rintro ⟨given, site, accepts⟩
      have made := (ofValue_eq_ok_iff keyed).mpr ⟨given, site, accepts, rfl⟩
      rw [made]
      exact ⟨_, rfl⟩
  · intro failure
    constructor
    · intro failed
      cases made : ofValue loaded with
      | ok configuration =>
          rw [made] at failed
          cases failed
      | error problem =>
          rw [made] at failed
          cases failed
          have breaks := (ofValue_eq_error_iff keyed).mp made
          cases problem with
          | inl flaw => exact .inl ⟨flaw, breaks, rfl⟩
          | inr what => exact .inr ⟨what, breaks, rfl⟩
    · rintro (⟨flaw, breaks, rfl⟩ | ⟨what, breaks, rfl⟩)
      · rw [(ofValue_eq_error_iff keyed).mpr breaks]
        rfl
      · rw [(ofValue_eq_error_iff keyed).mpr breaks]
        rfl
  · intro configuration made
    obtain ⟨given, site, accepts, rfl⟩ :=
      (ofValue_eq_ok_iff keyed).mp (eq_ok_of_mapError made)
    exact ⟨given, site, accepts, rfl, exists_siteContext_overDefaults accepts.contact⟩

/-- A project with a file of settings. -/
def settingsTree (text : List Char) : FileTree :=
  FileTree.empty.addFile [fileName] (Text.Utf8.encode text)

/-- Settings with a site and a contact form. -/
def namedSettings : List Char :=
  "site: \x7btitle: Blog, 1: a\x7d\ncontact: \x7bprovider: Netlify, endpoint: e\x7d\n".toList

/-- What these settings come to over the defaults. -/
def namedSettingsShown : String :=
  "\x7b'shortcodes_dir': 'templates/shortcodes', 'content_dir': 'content', " ++
    "'site': \x7b'title': 'Blog', 'base_url': '', 'language': 'en', 1: 'a'\x7d, " ++
    "'contact': \x7b'provider': 'Netlify', 'endpoint': 'e'\x7d\x7d"

theorem load_iff_accepts_and_told_namedSettings :
    ∃ loaded configuration given site fields,
      HasSettings Yaml.loader (settingsTree namedSettings) ⟨.root, []⟩ ⟨.here, []⟩ loaded ∧
      loaded.WellKeyed ∧
      load Yaml.loader (settingsTree namedSettings) ⟨.root, []⟩ ⟨.here, []⟩ =
        .ok configuration ∧
      (Value.map configuration.settings).display = namedSettingsShown ∧
      Accepts loaded given site ∧
      configuration.siteContext = .ok (.map fields) ∧
      Tells (entryOf "contact" (ownSettings given)) (entryOf "contact" fields) := by
  have shown : (load Yaml.loader (settingsTree namedSettings) ⟨.root, []⟩
        ⟨.here, []⟩).toOption.map
          (fun configuration => (Value.map configuration.settings).display) =
            some namedSettingsShown ∧
      (Yaml.loader namedSettings).toOption.isSome = true ∧
      ((settingsTree namedSettings).readPieces ⟨.root, []⟩
        ⟨.here, [fileName]⟩).toOption = some namedSettings := by
    decide +kernel
  obtain ⟨report, described, read⟩ := shown
  obtain ⟨configuration, made, display⟩ := Option.map_eq_some_iff.mp report
  obtain ⟨loaded, isLoaded⟩ := Option.isSome_iff_exists.mp described
  replace isLoaded := eq_ok_of_toOption isLoaded
  have settings : HasSettings Yaml.loader (settingsTree namedSettings) ⟨.root, []⟩
      ⟨.here, []⟩ loaded :=
    ⟨rfl, rfl, namedSettings, eq_ok_of_toOption read, isLoaded⟩
  have keyed := Yaml.wellKeyed_of_loader isLoaded
  replace made := eq_ok_of_toOption made
  obtain ⟨given, site, accepts, -, fields, context, tells⟩ :=
    (load_iff_accepts_and_told settings keyed).2.2 configuration made
  exact ⟨loaded, configuration, given, site, fields, settings, keyed, made, display,
    accepts, context, tells⟩

/-- Settings whose provider is a whole number. -/
def numericProvider (number : Int) : Value :=
  .record [("contact", .record [("provider", .int number), ("endpoint", .text "x")])]

theorem wellKeyed_numericProvider (number : Int) : (numericProvider number).WellKeyed := by
  refine .map (List.pairwise_singleton _ _) ?_
  rw [List.map_singleton, List.forall_mem_singleton]
  refine .map (by simp [DistinctKeys, sameKey, same, sameScalar, isNotNumber, int?, text?]) ?_
  rw [List.map_cons, List.map_singleton, List.forall_mem_cons, List.forall_mem_singleton]
  exact ⟨.alone rfl, .alone rfl⟩

/-- A whole number of more digits than are written is no provider, but no flaw tells
of it. -/
theorem not_flawed_of_not_accepts :
    ¬ ∀ loaded : Value, loaded.WellKeyed →
      (¬ ∃ given site, Accepts loaded given site) →
        ∃ flaw, ofValue loaded = .error (.inl flaw) := by
  intro flawed
  have keyed := wellKeyed_numericProvider (16 ^ 3600)
  have failed : ofValue (numericProvider (16 ^ 3600)) = .error (.inr .number) := by
    apply eq_error_of_failure?
    decide +kernel
  have rejected : ¬ ∃ given site, Accepts (numericProvider (16 ^ 3600)) given site := by
    rintro ⟨given, site, accepts⟩
    have made := (ofValue_eq_ok_iff keyed).mpr ⟨given, site, accepts, rfl⟩
    rw [failed] at made
    cases made
  obtain ⟨flaw, broken⟩ := flawed _ keyed rejected
  rw [failed] at broken
  cases broken

end Configuration

end Shortcode
