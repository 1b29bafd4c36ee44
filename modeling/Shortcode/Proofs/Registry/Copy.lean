import Shortcode.Proofs.Registry.Loading

/-!
# A copy of a built-in template

When the project has a copy of a built-in template, the templates are those
before, but for the origin and the path of that one.  No call can tell the
difference, unless a template is rendered differently with what it can fetch.
-/

namespace Shortcode

open Template (Engine Fetch)

variable {engine : Engine} {name : String} {path : Path} {bytes : List UInt8}

/-! ## Templates that move to the project -/

/-- The file, if it has the name, as one of the project. -/
def TemplateFile.moved (name : String) (path : Path) (file : TemplateFile) :
    TemplateFile :=
  if file.name = name then { file with origin := .user, path } else file

/-- The template, if it has the name, as one of the project. -/
def RegisteredTemplate.moved (name : String) (path : Path)
    (template : RegisteredTemplate engine) : RegisteredTemplate engine :=
  if template.name = name then { template with origin := .user, path }
  else template

/-- The registry with the template of a name as one of the project, and with
another way to fetch templates. -/
def Registry.moved (name : String) (path : Path) (fetch : Fetch)
    (registry : Registry engine) : Registry engine :=
  ⟨registry.templates.map (.moved name path), fetch⟩

@[simp]
theorem TemplateFile.name_moved (file : TemplateFile) :
    (file.moved name path).name = file.name := by
  unfold moved
  split <;> rfl

@[simp]
theorem RegisteredTemplate.name_moved (template : RegisteredTemplate engine) :
    (template.moved name path).name = template.name := by
  unfold moved
  split <;> rfl

@[simp]
theorem RegisteredTemplate.compiled_moved
    (template : RegisteredTemplate engine) :
    (template.moved name path).compiled = template.compiled := by
  unfold moved
  split <;> rfl

namespace Registry

variable {registry : Registry engine} {fetch : Fetch}

theorem names_moved :
    (registry.moved name path fetch).names = registry.names := by
  simp [names, moved, Function.comp_def]

theorem find?_moved (label : String) :
    (registry.moved name path fetch).find? label =
      (registry.find? label).map (.moved name path) := by
  have named : (fun template => template.name == label) ∘
      RegisteredTemplate.moved name path =
        fun template : RegisteredTemplate engine => template.name == label := by
    funext template
    exact congrArg (· == label) template.name_moved
  rw [find?, moved, List.find?_map, named]
  rfl

theorem origin_moved {template : RegisteredTemplate engine}
    (found : registry.find? name = some template) :
    ((registry.moved name path fetch).find? name).map (·.origin) =
      some .user := by
  have named : template.name = name := by simpa using List.find?_some found
  rw [find?_moved, found, Option.map_some, Option.map_some,
    RegisteredTemplate.moved, if_pos named]

theorem origin_moved_of_ne {label : String} (different : label ≠ name) :
    ((registry.moved name path fetch).find? label).map (·.origin) =
      (registry.find? label).map (·.origin) := by
  rw [find?_moved]
  cases found : registry.find? label with
  | none => rfl
  | some template =>
      have named : template.name = label := by
        simpa using List.find?_some found
      rw [Option.map_some, Option.map_some, RegisteredTemplate.moved, named,
        if_neg different]
      rfl

/-- The templates of a registry are rendered alike with another way to fetch
templates. -/
def RendersAlike (registry : Registry engine) (fetch : Fetch) : Prop :=
  ∀ label template, registry.find? label = some template → ∀ context,
    engine.render fetch template.compiled context =
      engine.render registry.fetch template.compiled context

theorem render_moved (alike : registry.RendersAlike fetch) (call : Call)
    (page site : Value) :
    (registry.moved name path fetch).render call page site =
      registry.render call page site := by
  rw [render, render, renderNamed, renderNamed, find?_moved, names_moved]
  cases found : registry.find? call.name with
  | none => rfl
  | some template =>
      dsimp only [Option.map_some, moved]
      rw [RegisteredTemplate.compiled_moved, alike _ _ found]

/-- Templates that move are rendered as before. -/
theorem store_moved (alike : registry.RendersAlike fetch) :
    (registry.moved name path fetch).store = registry.store := by
  unfold store
  congr 1
  · exact names_moved
  · funext label
    rw [find?_moved, Option.isSome_map]
  · funext call page site
    exact render_moved alike call page site

end Registry

/-! ## The folders with the copy -/

namespace TemplateFolders

/-- The project has a copy of a built-in template, where it had no template of
the name, and all other template files are as before. -/
structure Copies (folders : TemplateFolders) (after : FileTree) (folder : Path)
    (name : String) (bytes : List UInt8) : Prop where
  named : IsTemplateName name
  user : folders.user = some folder
  builtIn : folders.tree.bytes? folders.directory
    (folders.builtIn.child (templateFileName name)) = some bytes
  absent : folders.tree.bytes? folders.directory
    (folder.child (templateFileName name)) = none
  own : ∀ label content, after.bytes? folders.directory
      (folder.child (templateFileName label)) = some content ↔
    (label = name ∧ content = bytes) ∨
      folders.tree.bytes? folders.directory
        (folder.child (templateFileName label)) = some content
  others : ∀ label content, after.bytes? folders.directory
      (folders.builtIn.child (templateFileName label)) = some content ↔
    folders.tree.bytes? folders.directory
      (folders.builtIn.child (templateFileName label)) = some content
  lookups : ∀ place ∈ folders.all,
    after.lookupError? folders.directory place =
      folders.tree.lookupError? folders.directory place

variable {folders : TemplateFolders} {after : FileTree} {folder : Path}

namespace Copies

variable (copies : folders.Copies after folder name bytes)

include copies

theorem overrides_iff {label : String} :
    Overrides { folders with tree := after } label ↔
      label = name ∨ folders.Overrides label := by
  unfold Overrides FileTree.isFile
  rw [copies.user]
  simp only [Option.mem_some_iff, exists_eq_left', Option.isSome_iff_exists,
    copies.own]
  constructor
  · rintro ⟨content, ⟨same, -⟩ | found⟩
    · exact .inl same
    · exact .inr ⟨content, found⟩
  · rintro (same | ⟨content, found⟩)
    · exact ⟨bytes, .inl ⟨same, rfl⟩⟩
    · exact ⟨content, .inr found⟩

theorem not_overrides : ¬ folders.Overrides name := by
  rintro ⟨place, isUser, stands⟩
  cases copies.user.symm.trans isUser
  rw [FileTree.isFile, copies.absent] at stands
  cases stands

theorem source?_name :
    source? { folders with tree := after } name =
      some (folder.child (templateFileName name), bytes) := by
  rw [source?_eq_some_iff]
  exact .inl ⟨folder, copies.user, rfl, (copies.own _ _).mpr (.inl ⟨rfl, rfl⟩)⟩

theorem source?_of_ne {label : String} (different : label ≠ name) :
    source? { folders with tree := after } label = folders.source? label := by
  apply Option.ext
  rintro ⟨path, content⟩
  rw [source?_eq_some_iff, source?_eq_some_iff]
  apply or_congr
  · apply exists_congr
    intro place
    apply and_congr_right
    intro isUser
    cases copies.user.symm.trans isUser
    apply and_congr_right
    rintro rfl
    rw [copies.own]
    simp [different]
  · rw [copies.overrides_iff]
    apply and_congr
    · simp [different]
    · apply and_congr_right
      rintro rfl
      exact copies.others label content

theorem source?_before :
    folders.source? name =
      some (folders.builtIn.child (templateFileName name), bytes) :=
  source?_eq_some_iff.mpr (.inr ⟨copies.not_overrides, rfl, copies.builtIn⟩)

theorem mem_files_iff {file : TemplateFile} (same : file.name = name) :
    file ∈ folders.files ↔ file =
      ⟨name, .builtIn, folders.builtIn.child (templateFileName name)⟩ := by
  refine mem_files_iff_eq copies.named copies.source?_before ?_ same
  exact iff_of_false Origin.noConfusion copies.not_overrides

theorem mem_files_after_iff {file : TemplateFile} (same : file.name = name) :
    file ∈ files { folders with tree := after } ↔
      file = ⟨name, .user, folder.child (templateFileName name)⟩ := by
  refine mem_files_iff_eq copies.named copies.source?_name ?_ same
  exact iff_of_true rfl (copies.overrides_iff.mpr (.inl rfl))

theorem files_eq :
    files { folders with tree := after } = folders.files.map
      (.moved name (folder.child (templateFileName name))) := by
  apply eq_of_pairwise_of_mem_iff (files_pairwise _)
  · rw [List.pairwise_map]
    simpa using folders.files_pairwise
  · intro file
    rw [List.mem_map]
    by_cases same : file.name = name
    · rw [copies.mem_files_after_iff same]
      constructor
      · rintro rfl
        exact ⟨_, (copies.mem_files_iff rfl).mpr rfl, if_pos rfl⟩
      · rintro ⟨old, member, rfl⟩
        rw [TemplateFile.name_moved] at same
        rw [copies.mem_files_iff same] at member
        rw [member]
        exact if_pos rfl
    · rw [TemplateFolders.mem_files_iff, copies.source?_of_ne same,
        copies.overrides_iff]
      simp only [same, false_or]
      rw [← TemplateFolders.mem_files_iff]
      constructor
      · intro member
        exact ⟨file, member, if_neg same⟩
      · rintro ⟨old, member, rfl⟩
        rw [TemplateFile.name_moved] at same
        rwa [TemplateFile.moved, if_neg same]

theorem compile_moved (compiles : ∃ compiled, CompilesTo engine name bytes compiled)
    {file : TemplateFile} (member : file ∈ folders.files) :
    compile { folders with tree := after } engine
        (file.moved name (folder.child (templateFileName name))) =
      (folders.compile engine file).map
        (.moved name (folder.child (templateFileName name))) := by
  by_cases same : file.name = name
  · obtain ⟨compiled, read⟩ := compiles
    have single := copies.named.single
    rw [copies.mem_files_iff same] at member
    subst member
    have before := compile_eq_ok
      ⟨name, .builtIn, folders.builtIn.child (templateFileName name)⟩ single
      copies.source?_before read
    have afterwards := compile_eq_ok
      ⟨name, .user, folder.child (templateFileName name)⟩ single
      copies.source?_name read
    rw [TemplateFile.moved, if_pos rfl, before, afterwards, Except.map,
      RegisteredTemplate.moved, if_pos rfl]
  · obtain ⟨named, ⟨content, found⟩, -⟩ :=
      TemplateFolders.mem_files_iff.mp member
    have unmoved : compile { folders with tree := after } engine file =
        folders.compile engine file := by
      rw [compile_of_source? named.single found, compile_of_source? named.single
        ((copies.source?_of_ne same).trans found)]
    rw [TemplateFile.moved, if_neg same, unmoved]
    cases made : folders.compile engine file with
    | error failure => rfl
    | ok template =>
        have own := name_of_compile made
        rw [Except.map, RegisteredTemplate.moved, own, if_neg same]

/-- With the copy the templates are those before, but for the one that has moved
to the project. -/
theorem load_eq (compiles : ∃ compiled, CompilesTo engine name bytes compiled) :
    load { folders with tree := after } engine = (folders.load engine).map
      (.moved name (folder.child (templateFileName name))
        (fetch { folders with tree := after } engine)) := by
  have lookups : folders.all.findSome?
      (after.lookupError? folders.directory) =
        folders.all.findSome? (folders.tree.lookupError? folders.directory) :=
    findSome?_congr copies.lookups
  rw [TemplateFolders.load_eq, TemplateFolders.load_eq, copies.files_eq,
    mapM_map_eq fun _ => copies.compile_moved compiles]
  dsimp only
  rw [show all { folders with tree := after } = folders.all from rfl, lookups]
  split
  · rfl
  · cases folders.files.mapM (folders.compile engine) with
    | error failure => rfl
    | ok templates => rfl

theorem exists_find?_name {registry : Registry engine}
    (loaded : folders.load engine = .ok registry) :
    ∃ template, registry.find? name = some template := by
  apply exists_find?_of_isFile loaded _ copies.named
  · rw [FileTree.isFile, copies.builtIn]
    rfl
  · simp [all]

end Copies

end TemplateFolders

end Shortcode
