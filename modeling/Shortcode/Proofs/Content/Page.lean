import Shortcode.Proofs.Content

/-!
# Pages of content files

When the page value of a content file exists and what it says of the file.  The
head has to give tags that have items, and no whole number in its slug or its
tags may be too long; nothing else that a head can hold stands in the way.  With
a page, only a call that cannot be rendered keeps a file from being expanded
that has passed its check.
-/

namespace Shortcode

namespace Page

variable {head : List (Value × Value)} {name : String} {content : Value}
  {directory file : Path} {root : Option Path}

theorem written_eq_ok_iff {text : String} :
    written content = .ok text ↔
      content.exceeds digitLimit = false ∧ content.display = text := by
  unfold written Value.written
  cases content.exceeds digitLimit with
  | true => simp [Except.mapError]
  | false => simp [Except.mapError]

theorem mapM_written_eq_ok_iff {items : List Value} {texts : List String} :
    items.mapM written = .ok texts ↔
      (∀ item ∈ items, item.exceeds digitLimit = false) ∧
        texts = items.map Value.display := by
  rw [mapM_eq_ok_iff]
  induction items generalizing texts with
  | nil => simp
  | cons item rest induction =>
      rw [List.forall₂_cons_left_iff, List.forall_mem_cons, List.map_cons]
      constructor
      · rintro ⟨text, others, first, later, rfl⟩
        obtain ⟨short, rfl⟩ := written_eq_ok_iff.mp first
        obtain ⟨allShort, rfl⟩ := induction.mp later
        exact ⟨⟨short, allShort⟩, rfl⟩
      · rintro ⟨⟨short, allShort⟩, rfl⟩
        refine ⟨_, _, written_eq_ok_iff.mpr ⟨short, rfl⟩, ?_, rfl⟩
        exact induction.mpr ⟨allShort, rfl⟩

/-- The values that tags are the texts of: a text is one tag. -/
def tagItems? : Value → Option (List Value)
  | .text tag => some [.text tag]
  | other => other.items?

/-- The values that the tags of a head are the texts of. -/
def tagValues (head : List (Value × Value)) : List Value :=
  ((set? head "tags").bind tagItems?).getD []

/-- The head has what a page takes from it in a form that a page can take. -/
structure Describable (head : List (Value × Value)) : Prop where
  iterable : ∀ tags ∈ set? head "tags", (tagItems? tags).isSome = true
  shortTags : ∀ tag ∈ tagValues head, tag.exceeds digitLimit = false
  shortSlug : ∀ slug ∈ set? head "slug", slug.exceeds digitLimit = false

theorem tags_of_set? (given : set? head "tags" = some content) :
    tags head = match tagItems? content with
      | some items => items.mapM written
      | none => .error (.notIterable content.kindWord) := by
  unfold tags
  rw [given]
  cases content with
  | text tag => rfl
  | _ => rfl

theorem tags_eq_ok_iff {texts : List String} :
    tags head = .ok texts ↔
      (∀ tags ∈ set? head "tags", (tagItems? tags).isSome = true) ∧
        (∀ tag ∈ tagValues head, tag.exceeds digitLimit = false) ∧
          texts = (tagValues head).map Value.display := by
  unfold tagValues
  cases given : set? head "tags" with
  | none =>
      have untagged : tags head = .ok [] := by
        unfold tags
        rw [given]
      rw [untagged, Except.ok.injEq, eq_comm]
      simp
  | some content =>
      rw [tags_of_set? given, Option.bind_some]
      cases items : tagItems? content with
      | none => simp [items]
      | some values =>
          dsimp only
          rw [mapM_written_eq_ok_iff]
          simp [items]

theorem slug_eq_ok_iff {text : String} :
    slug name head = .ok text ↔
      (∀ slug ∈ set? head "slug", slug.exceeds digitLimit = false) ∧
        text = (set? head "slug").elim (slugify name) Value.display := by
  unfold slug
  cases set? head "slug" with
  | none => simp [@eq_comm _ text]
  | some given =>
      dsimp only
      rw [written_eq_ok_iff]
      simp [@eq_comm _ text]

/-- What the page value of a file says. -/
def entries (directory file : Path) (root : Option Path)
    (head : List (Value × Value)) : List (String × Value) := [
  ("title", (set? head "title").getD (.text (titleize file.name))),
  ("slug", .text ((set? head "slug").elim (slugify file.stem) Value.display)),
  ("collection", .text (collection directory file root)),
  ("tags", .list ((tagValues head).map fun tag => .text tag.display))]

theorem context_eq_ok_iff {page : Value} :
    context directory file root head = .ok page ↔
      Describable head ∧ page = Value.record (entries directory file root head) := by
  have steps : context directory file root head =
      (slug file.stem head).bind fun slug => (tags head).bind fun tags =>
        .ok (Value.record [
          ("title", (set? head "title").getD (.text (titleize file.name))),
          ("slug", .text slug),
          ("collection", .text (collection directory file root)),
          ("tags", .list (tags.map .text))]) := rfl
  rw [steps]
  constructor
  · intro made
    obtain ⟨text, isSlug, made⟩ := exists_of_bind_eq_ok made
    obtain ⟨texts, isTags, made⟩ := exists_of_bind_eq_ok made
    obtain ⟨shortSlug, rfl⟩ := slug_eq_ok_iff.mp isSlug
    obtain ⟨iterable, shortTags, rfl⟩ := tags_eq_ok_iff.mp isTags
    refine ⟨⟨iterable, shortTags, shortSlug⟩, ?_⟩
    rw [← Except.ok.inj made, List.map_map]
    rfl
  · rintro ⟨describable, rfl⟩
    have isSlug : slug file.stem head = .ok _ :=
      slug_eq_ok_iff.mpr ⟨describable.shortSlug, rfl⟩
    have isTags : tags head = .ok _ :=
      tags_eq_ok_iff.mpr ⟨describable.iterable, describable.shortTags, rfl⟩
    rw [isSlug, isTags]
    change Except.ok _ = Except.ok _
    rw [List.map_map]
    rfl

end Page

/-! ## Loading -/

/-- The text between the fences has a value or is malformed. -/
def Frontmatter.Answered (loader : Yaml.Loader) (text : List Char) : Prop :=
  ∀ inner body, split? text = some (inner, body) →
    ∀ error, loader inner ≠ .error (.raised error)

theorem Frontmatter.Answered.exists_read {loader : Yaml.Loader}
    {text : List Char} (answered : Answered loader text) :
    ∃ head body, read loader text = .ok (head, body) := by
  unfold read
  cases parts : split? text with
  | none => exact ⟨_, _, rfl⟩
  | some parted =>
      obtain ⟨inner, body⟩ := parted
      have total := answered inner body parts
      dsimp only
      cases loaded : loader inner with
      | error flaw =>
          cases flaw with
          | malformed words => exact ⟨_, _, rfl⟩
          | raised error => exact absurd loaded (total error)
      | ok value =>
          cases value with
          | map entries => exact ⟨_, _, rfl⟩
          | _ => exact ⟨_, _, rfl⟩

namespace ContentFile

variable {loader : Yaml.Loader} {file : ContentFile} {store : Store}
  {directory path : Path} {root : Option Path} {page site : Value}

theorem exists_load_of_answered {tree : FileTree} {text : List Char}
    (read : tree.readText directory path = .ok text)
    (answered : Frontmatter.Answered loader text) :
    ∃ file, load loader tree directory path = .ok file ∧ file.path = path := by
  obtain ⟨head, body, parted⟩ := answered.exists_read
  obtain ⟨file, made⟩ : ∃ file, ofText loader path text = .ok file := by
    unfold ofText
    rw [parted]
    exact ⟨_, rfl⟩
  refine ⟨file, ?_, (exists_lead_of_ofText made).1⟩
  unfold load
  rw [read]
  change (ofText loader path text).mapError ContentFailure.yaml = _
  rw [made]
  rfl

theorem page_eq_ok_iff :
    file.page directory root = .ok page ↔
      Page.Describable file.frontmatter ∧ page = Value.record
        (Page.entries directory file.path root file.frontmatter) := by
  rw [← Page.context_eq_ok_iff, ContentFile.page]
  cases Page.context directory file.path root file.frontmatter with
  | error failure => simp [Except.mapError]
  | ok value => simp [Except.mapError]

/-- With a page, only a call that cannot be rendered keeps a file from being
expanded that has passed its check. -/
theorem expand_of_check {found : List Call}
    (paged : file.page directory root = .ok page)
    (checked : file.check store = .ok found) :
    (∃ result, file.expand store directory root site = .ok result) ∨
      ∃ call ∈ found, ∃ fault, store.render call page site = .error fault ∧
        file.expand store directory root site =
          .error (file.fail (.fault fault)) := by
  have body : (String.ofList file.body).toList = file.body :=
    String.toList_ofList
  have collected : store.collect file.body = .ok found :=
    eq_ok_of_mapError checked
  have isFound := Store.calls_of_collect collected
  rw [expand_of_page paged]
  obtain ⟨expansion, trace⟩ :=
    Trace.exists_trace store (String.ofList file.body) page site
  rw [trace.expand_eq]
  cases trace with
  | malformed read =>
      rw [body, isFound] at read
      cases read
  | unknown read early unknown =>
      rw [Store.collect_of_unknown (body ▸ read) early unknown] at collected
      cases collected
  | failed read allKnown rendered failing =>
      rw [body, isFound] at read
      cases read
      exact .inr ⟨_, by simp, _, failing, rfl⟩
  | rendered => exact .inl ⟨_, rfl⟩

/-- Without a page nothing is rendered. -/
theorem expand_of_not_describable
    (hidden : ¬ Page.Describable file.frontmatter) :
    ∃ error, file.expand store directory root site = .error (.page error) := by
  unfold expand ContentFile.page
  cases made : Page.context directory file.path root file.frontmatter with
  | error error => exact ⟨error, rfl⟩
  | ok page => exact absurd (Page.context_eq_ok_iff.mp made).1 hidden

/-- Every file with a text can be loaded, if there is an answer to the YAML of its
frontmatter, and its page exists exactly if the frontmatter can describe one: the
tags, if any are set, are a text or have items, and no whole number in tags and
slug is too long to be written.  The page takes title and slug from the
frontmatter or else from the file's name, and its tags are texts.  When such a
file passes its check, nothing but a call that cannot be rendered makes its
expansion fail; without a page it fails before any call is rendered. -/
theorem page_and_expand_of_readText {tree : FileTree} {text : List Char}
    (read : tree.readText directory path = .ok text)
    (answered : Frontmatter.Answered loader text) :
    ∃ file, load loader tree directory path = .ok file ∧ ∀ root : Option Path,
      (∀ page, file.page directory root = .ok page ↔
        Page.Describable file.frontmatter ∧ page = Value.record
          (Page.entries directory path root file.frontmatter)) ∧
      ∀ (store : Store) (site : Value) (found : List Call),
        file.check store = .ok found →
        (∀ page, file.page directory root = .ok page →
          (∃ result, file.expand store directory root site = .ok result) ∨
            ∃ call ∈ found, ∃ fault,
              store.render call page site = .error fault ∧
              file.expand store directory root site =
                .error (file.fail (.fault fault))) ∧
        (¬ Page.Describable file.frontmatter → ∃ error,
          file.expand store directory root site = .error (.page error)) := by
  obtain ⟨file, loaded, named⟩ := exists_load_of_answered read answered
  refine ⟨file, loaded, ?_⟩
  intro root
  constructor
  · intro page
    rw [page_eq_ok_iff, named]
  · intro store site found checked
    constructor
    · intro page paged
      exact expand_of_check paged checked
    · exact expand_of_not_describable

/-- A project with a text as its only page. -/
def pageTree (text : List Char) : FileTree :=
  FileTree.empty.addFile ["2024-01-15-my-page.md"] (Text.Utf8.encode text)

def pagePath : Path := ⟨.here, ["2024-01-15-my-page.md"]⟩

/-- The text is read back, and the YAML in it has a value. -/
def isAnswered (text : List Char) : Bool :=
  ((pageTree text).readText ⟨.root, []⟩ pagePath).toOption == some text &&
    (Frontmatter.split? text).all fun parts =>
      (Yaml.loader parts.1).toOption.isSome

/-- The page value as a text, and the names of the calls. -/
def pageReport (text : List Char) (store : Store) :
    Option (Option String × Option (List String)) :=
  (load Yaml.loader (pageTree text) ⟨.root, []⟩ pagePath).toOption.map fun file =>
    ((file.page ⟨.root, []⟩ none).toOption.map Value.display,
      (file.check store).toOption.map fun found => found.map fun call => call.name)

theorem readText_and_answered_of_isAnswered {text : List Char}
    (sound : isAnswered text = true) :
    (pageTree text).readText ⟨.root, []⟩ pagePath = .ok text ∧
      Frontmatter.Answered Yaml.loader text := by
  unfold isAnswered at sound
  rw [Bool.and_eq_true] at sound
  refine ⟨eq_ok_of_toOption (eq_of_beq sound.1), ?_⟩
  intro inner body parts error failed
  have total := sound.2
  rw [parts, Option.all_some, failed] at total
  cases total

/-- Tags that are a mapping, and a slug that is a whole number. -/
def mappedTags : List Char :=
  "---\ntags: \x7bb: 1, 2: null\x7d\nslug: 0x10\n---\n\x7b\x7b< b() >\x7d\x7d\n".toList

/-- What the page of these tags shows. -/
def mappedTagsPage : String :=
  "\x7b'title': 'My Page', 'slug': '16', 'collection': '', " ++
    "'tags': ['b', '2']\x7d"

theorem page_and_expand_of_mappedTags :
    ∃ file page found result,
      (pageTree mappedTags).readText ⟨.root, []⟩ pagePath = .ok mappedTags ∧
      Frontmatter.Answered Yaml.loader mappedTags ∧
      load Yaml.loader (pageTree mappedTags) ⟨.root, []⟩ pagePath = .ok file ∧
      file.page ⟨.root, []⟩ none = .ok page ∧
      page.display = mappedTagsPage ∧
      file.check (Outline.store ["b"] [] none) = .ok found ∧
      found.map (fun call => call.name) = ["b"] ∧
      file.expand (Outline.store ["b"] [] none) ⟨.root, []⟩ none .null =
        .ok result := by
  have shown : isAnswered mappedTags = true ∧
      pageReport mappedTags (Outline.store ["b"] [] none) =
        some (some mappedTagsPage, some ["b"]) := by
    decide +kernel
  obtain ⟨read, answered⟩ := readText_and_answered_of_isAnswered shown.1
  obtain ⟨file, loaded, described⟩ := page_and_expand_of_readText read answered
  have report := shown.2
  rw [pageReport, loaded, Except.toOption, Option.map_some, Option.some.injEq,
    Prod.mk.injEq] at report
  obtain ⟨page, paged, display⟩ := Option.map_eq_some_iff.mp report.1
  obtain ⟨found, checked, names⟩ := Option.map_eq_some_iff.mp report.2
  replace paged := eq_ok_of_toOption paged
  replace checked := eq_ok_of_toOption checked
  have outcome := ((described none).2 _ .null found checked).1 page paged
  rcases outcome with ⟨result, expanded⟩ | ⟨call, -, fault, failed, -⟩
  · exact ⟨file, page, found, result, read, answered, loaded, paged, display,
      checked, names, expanded⟩
  · simp [Outline.store] at failed

/-- Tags that are a whole number. -/
def numericTags : List Char := "---\ntags: 5\n---\nx\n".toList

theorem not_exists_page_of_check :
    ¬ ∀ (loader : Yaml.Loader) (tree : FileTree) (directory path : Path)
      (text : List Char) (file : ContentFile) (store : Store)
      (found : List Call), tree.readText directory path = .ok text →
        Frontmatter.Answered loader text →
        load loader tree directory path = .ok file →
        file.check store = .ok found →
          ∃ page, file.page directory none = .ok page := by
  intro pages
  have shown : isAnswered numericTags = true ∧
      pageReport numericTags (Outline.store [] [] none) =
        some (none, some []) := by
    decide +kernel
  obtain ⟨read, answered⟩ := readText_and_answered_of_isAnswered shown.1
  obtain ⟨file, loaded, -⟩ := exists_load_of_answered read answered
  have report := shown.2
  rw [pageReport, loaded, Except.toOption, Option.map_some, Option.some.injEq,
    Prod.mk.injEq] at report
  obtain ⟨found, checked, -⟩ := Option.map_eq_some_iff.mp report.2
  replace checked := eq_ok_of_toOption checked
  obtain ⟨page, paged⟩ := pages _ _ _ _ _ _ _ _ read answered loaded checked
  have hidden := report.1
  rw [paged] at hidden
  cases hidden

end ContentFile

end Shortcode
