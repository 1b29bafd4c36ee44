import Shortcode.Proofs.Registry.Selection
import Shortcode.Template.Interpreter

/-!
# Loading the registry

The registry is made of the files that the loader finds first, in the order of
their names.  If it cannot be made, the least name whose file cannot be compiled
is the one to blame.
-/

namespace Shortcode

open Template (Engine EngineError interpreter)

variable {engine : Engine} {file : TemplateFile}

/-- The engine compiles a template with these bytes. -/
def CompilesTo (engine : Engine) (name : String) (bytes : List UInt8)
    (compiled : engine.Compiled) : Prop :=
  ∃ text, Text.Utf8.decode bytes = .ok text ∧
    engine.compile (templateFileName name)
      (String.ofList (Text.unixLines text)) = .ok compiled

/-- The engine fails at a template with these bytes, after they are decoded. -/
def FailsWith (engine : Engine) (name : String) (bytes : List UInt8)
    (error : EngineError) : Prop :=
  ∃ text, Text.Utf8.decode bytes = .ok text ∧
    engine.compile (templateFileName name)
      (String.ofList (Text.unixLines text)) = .error error

/-- Why the bytes of a template are no text, or no template. -/
inductive HasFlaw (engine : Engine) (name : String) (bytes : List UInt8) :
    EngineError → Prop where
  | undecodable {error : Text.Utf8.Error} :
      Text.Utf8.decode bytes = .error error →
      HasFlaw engine name bytes (.raised ⟨"UnicodeDecodeError", error.message⟩)
  | malformed {line : Nat} {words : String} :
      FailsWith engine name bytes (.malformed line words) →
      HasFlaw engine name bytes (.malformed line words)
  /-- The engine itself raises the error of a text that cannot be decoded. -/
  | raised {words : String} :
      FailsWith engine name bytes (.raised ⟨"UnicodeDecodeError", words⟩) →
      HasFlaw engine name bytes (.raised ⟨"UnicodeDecodeError", words⟩)

/-- The engine fails in a way that tells of no template. -/
def Crashes (engine : Engine) (name : String) (bytes : List UInt8)
    (error : PackageError) : Prop :=
  error.kind ≠ "UnicodeDecodeError" ∧
    FailsWith engine name bytes (.raised error)

/-! ## Compiling one file -/

theorem fail_of_undecodable (file : TemplateFile) (words : String) :
    file.fail (.raised ⟨"UnicodeDecodeError", words⟩) =
      .flawed ⟨file.name, file.path, .raised ⟨"UnicodeDecodeError", words⟩⟩ := by
  rw [TemplateFile.fail, if_pos rfl]

theorem fail_of_failsWith {bytes : List UInt8} {error : EngineError}
    (failed : FailsWith engine file.name bytes error) :
    (∃ flaw, file.fail error = .flawed ⟨file.name, file.path, flaw⟩ ∧
      HasFlaw engine file.name bytes flaw) ∨
    ∃ crash, file.fail error = .crashed crash ∧
      Crashes engine file.name bytes crash := by
  cases error with
  | malformed line words => exact .inl ⟨_, rfl, .malformed failed⟩
  | raised raised =>
      obtain ⟨kind, words⟩ := raised
      by_cases undecodable : kind = "UnicodeDecodeError"
      · subst undecodable
        exact .inl ⟨_, fail_of_undecodable file words, .raised failed⟩
      · exact .inr ⟨_, if_neg undecodable, undecodable, failed⟩

namespace TemplateFolders

variable {folders : TemplateFolders} {bytes : List UInt8}

theorem fetch_of_source? {name : String} {path : Path}
    (single : '/' ∉ name.toList)
    (found : folders.source? name = some (path, bytes)) :
    folders.fetch engine (templateFileName name) = templateText bytes := by
  unfold source? at found
  unfold fetch
  rw [templateParts?_templateFileName single]
  dsimp only
  rw [found]

theorem compile_of_source? {path : Path} (single : '/' ∉ file.name.toList)
    (found : folders.source? file.name = some (path, bytes)) :
    folders.compile engine file =
      match templateText bytes >>= engine.compile (templateFileName file.name) with
      | .ok compiled => .ok ⟨file.name, file.origin, file.path, compiled⟩
      | .error error => .error (file.fail error) := by
  rw [← fetch_of_source? single found]
  rfl

theorem compile_eq_ok_iff {path : Path} {template : RegisteredTemplate engine}
    (single : '/' ∉ file.name.toList)
    (found : folders.source? file.name = some (path, bytes)) :
    folders.compile engine file = .ok template ↔
      template.name = file.name ∧ template.origin = file.origin ∧
        template.path = file.path ∧
        CompilesTo engine file.name bytes template.compiled := by
  rw [compile_of_source? single found]
  unfold CompilesTo templateText
  cases decoded : Text.Utf8.decode bytes with
  | error error => simp [bind, Except.bind]
  | ok text =>
      cases compiled : engine.compile (templateFileName file.name)
          (String.ofList (Text.unixLines text)) with
      | error error => simp [bind, Except.bind, compiled]
      | ok made =>
          obtain ⟨name, origin, path, own⟩ := template
          simp [bind, Except.bind, compiled, eq_comm]

/-- A file whose bytes are compiled is a template. -/
theorem compile_eq_ok (file : TemplateFile) {path : Path}
    {compiled : engine.Compiled} (single : '/' ∉ file.name.toList)
    (found : folders.source? file.name = some (path, bytes))
    (read : CompilesTo engine file.name bytes compiled) :
    folders.compile engine file =
      .ok ⟨file.name, file.origin, file.path, compiled⟩ :=
  (compile_eq_ok_iff single found).mpr ⟨rfl, rfl, rfl, read⟩

theorem failure_of_compile {path : Path} {failure : RegistryFailure}
    (single : '/' ∉ file.name.toList)
    (found : folders.source? file.name = some (path, bytes))
    (failed : folders.compile engine file = .error failure) :
    (∃ flaw, failure = .flawed ⟨file.name, file.path, flaw⟩ ∧
      HasFlaw engine file.name bytes flaw) ∨
    ∃ error, failure = .crashed error ∧
      Crashes engine file.name bytes error := by
  rw [compile_of_source? single found] at failed
  unfold templateText at failed
  cases decoded : Text.Utf8.decode bytes with
  | error error =>
      rw [decoded] at failed
      cases failed
      exact .inl ⟨_, fail_of_undecodable file _, .undecodable decoded⟩
  | ok text =>
      rw [decoded] at failed
      dsimp only [bind, Except.bind] at failed
      cases compiled : engine.compile (templateFileName file.name)
          (String.ofList (Text.unixLines text)) with
      | ok made =>
          rw [compiled] at failed
          cases failed
      | error error =>
          rw [compiled] at failed
          cases failed
          exact fail_of_failsWith ⟨text, decoded, compiled⟩

/-! ## What a registry is made of -/

/-- The file of a name that the loader finds has a defect, and those of all
smaller names have none. -/
structure FailsFirstAt (folders : TemplateFolders) (engine : Engine)
    (defective : (bytes : List UInt8) → Prop) (name : String) (path : Path) :
    Prop where
  named : IsTemplateName name
  found : ∃ bytes, folders.source? name = some (path, bytes) ∧ defective bytes
  earlier : ∀ smaller path bytes, smaller < name → IsTemplateName smaller →
    folders.source? smaller = some (path, bytes) →
      ∃ compiled, CompilesTo engine smaller bytes compiled

/-- A failure is that of the first folder that cannot be looked up, or of the
least name whose file has a defect. -/
def Explains (folders : TemplateFolders) (engine : Engine) :
    RegistryFailure → Prop
  | .file error => ∃ folder ∈ folders.all,
      folders.tree.lookupError? folders.directory folder = some error
  | .flawed error => folders.FailsFirstAt engine
      (fun bytes => HasFlaw engine error.name bytes error.flaw)
      error.name error.path
  | .crashed error => ∃ name path, folders.FailsFirstAt engine
      (fun bytes => Crashes engine name bytes error) name path

end TemplateFolders

/-- What the template of a call is rendered with. -/
def Call.context (call : Call) (page site : Value) : Template.Context :=
  let arguments :=
    call.arguments.map fun (name, content) => (name, content.toValue)
  contextOf arguments call.body page site

theorem Registry.render_of_find? {registry : Registry engine} {call : Call}
    {template : RegisteredTemplate engine}
    (found : registry.find? call.name = some template) (page site : Value) :
    registry.render call page site =
      (engine.render registry.fetch template.compiled
        (call.context page site)).mapError
          fun error => ⟨call.line, .render call.name error.message⟩ := by
  rw [Registry.render, Registry.renderNamed, found]
  dsimp only [Call.context]
  cases engine.render registry.fetch template.compiled _ with
  | ok text => rfl
  | error error => rfl

/-- A template of a registry is compiled from the file that the loader finds,
which is the project's if the project has one. -/
structure RegisteredTemplate.ServedFrom (template : RegisteredTemplate engine)
    (folders : TemplateFolders) (name : String) : Prop where
  origin : template.origin = .user ↔ folders.Overrides name
  user : template.origin = .user → ∃ folder ∈ folders.user,
    template.path = folder.child (templateFileName name)
  builtIn : template.origin = .builtIn →
    template.path = folders.builtIn.child (templateFileName name)
  source : ∃ bytes, folders.source? name = some (template.path, bytes) ∧
    CompilesTo engine name bytes template.compiled

/-- A registry of the files that the loader finds. -/
structure Registry.MadeFrom (registry : Registry engine)
    (folders : TemplateFolders) : Prop where
  increasing : registry.names.Pairwise (· < ·)
  mem_names_iff : ∀ name, name ∈ registry.names ↔
    ∃ folder ∈ folders.all, ∃ file,
      folders.tree.isFile folders.directory (folder.child file) = true ∧
      '/' ∉ file.toList ∧ (folder.child file).stem = name ∧
      (folder.child file).suffix = templateSuffix
  known : ∀ name, name ∈ registry.names ↔
    ∃ template, registry.find? name = some template
  served : ∀ name template, registry.find? name = some template →
    template.ServedFrom folders name
  fetches : registry.fetch = folders.fetch engine
  rendered : ∀ call template page site,
    registry.find? call.name = some template →
      registry.render call page site =
        (engine.render registry.fetch template.compiled
          (call.context page site)).mapError
            fun error => ⟨call.line, .render call.name error.message⟩

namespace TemplateFolders

variable {folders : TemplateFolders}

theorem explains_of_load {failure : RegistryFailure}
    (failed : folders.load engine = .error failure) :
    folders.Explains engine failure := by
  rw [load_eq] at failed
  split at failed
  · rename_i error lookup
    cases failed
    obtain ⟨folder, member, found⟩ := List.exists_of_findSome?_eq_some lookup
    exact ⟨folder, member, found⟩
  · obtain ⟨lead, file, rest, files, unread, earlier⟩ :=
      exists_of_mapM_eq_error (eq_error_of_map_eq_error failed)
    have member : file ∈ folders.files := by simp [files]
    obtain ⟨named, ⟨bytes, found⟩, -⟩ := mem_files_iff.mp member
    have first : ∀ smaller path bytes, smaller < file.name →
        IsTemplateName smaller →
        folders.source? smaller = some (path, bytes) →
          ∃ compiled, CompilesTo engine smaller bytes compiled := by
      intro smaller path bytes less smallerNamed found
      obtain ⟨other, listed, rfl, rfl⟩ :=
        exists_mem_files_of_source? smallerNamed found
      have ordered := folders.files_pairwise
      rw [files, List.pairwise_append, List.pairwise_cons] at ordered
      rw [files, List.mem_append, List.mem_cons] at listed
      rcases listed with before | rfl | behind
      · obtain ⟨template, read⟩ := earlier _ before
        have made := (compile_eq_ok_iff smallerNamed.single found).mp read
        exact ⟨template.compiled, made.2.2.2⟩
      · exact absurd less (lt_irrefl _)
      · exact absurd less (lt_asymm (ordered.2.1.1 _ behind))
    rcases failure_of_compile named.single found unread with
      ⟨flaw, rfl, defect⟩ | ⟨error, rfl, defect⟩
    · exact ⟨named, ⟨bytes, found, defect⟩, first⟩
    · exact ⟨file.name, file.path, named, ⟨bytes, found, defect⟩, first⟩

theorem servedFrom_of_compile {template : RegisteredTemplate engine}
    (member : file ∈ folders.files)
    (read : folders.compile engine file = .ok template) :
    template.ServedFrom folders file.name := by
  obtain ⟨named, ⟨bytes, source⟩, user⟩ := mem_files_iff.mp member
  obtain ⟨-, origin, path, compiled⟩ :=
    (compile_eq_ok_iff named.single source).mp read
  rw [← origin] at user
  rw [← path] at source
  refine ⟨user, ?_, ?_, bytes, source, compiled⟩
  · intro isUser
    exact (overrides_iff_of_source? source).mp (user.mp isUser)
  · intro isBuiltIn
    have stays : ¬ folders.Overrides file.name := by
      rw [← user, isBuiltIn]
      exact Origin.noConfusion
    rcases source?_eq_some_iff.mp source with
      ⟨folder, isUser, same, _⟩ | ⟨_, same, _⟩
    · exact absurd ((overrides_iff_of_source? source).mpr
        ⟨folder, isUser, same⟩) stays
    · exact same

theorem name_of_compile {template : RegisteredTemplate engine}
    (read : folders.compile engine file = .ok template) :
    template.name = file.name := by
  unfold compile at read
  dsimp only at read
  split at read
  · cases read
    rfl
  · cases read

theorem madeFrom_of_load {registry : Registry engine}
    (loaded : folders.load engine = .ok registry) :
    registry.MadeFrom folders := by
  rw [load_eq] at loaded
  split at loaded
  · cases loaded
  · obtain ⟨templates, read, rfl⟩ := exists_of_map_eq_ok loaded
    have names : templates.map (·.name) = folders.files.map (·.name) :=
      map_eq_of_mapM read fun file template => name_of_compile
    have known : ∀ name, name ∈ templates.map (·.name) ↔ ∃ template,
        Registry.find? ⟨templates, folders.fetch engine⟩ name =
          some template := by
      intro name
      simp [Registry.find?, ← Option.isSome_iff_exists, List.find?_isSome]
    refine ⟨?_, ?_, known, ?_, rfl, ?_⟩
    · rw [Registry.names, names, List.pairwise_map]
      exact folders.files_pairwise
    · intro name
      rw [Registry.names, names, mem_names_files_iff, exists_source?_iff]
      constructor
      · rintro ⟨named, folder, member, stands⟩
        have parts := splitSuffix_eq_templateSuffix_iff.mpr
          ⟨rfl, named.nonempty⟩
        refine ⟨folder, member, _, stands, ?_, ?_, ?_⟩
        · exact mt slash_mem_templateFileName.mp named.single
        · rw [Path.stem, Path.name_child, parts]
        · rw [Path.suffix, Path.name_child, parts]
      · rintro ⟨folder, member, file, stands, single, rfl, suffix⟩
        rw [Path.suffix, Path.name_child] at suffix
        rw [Path.stem, Path.name_child]
        have parts : Path.splitSuffix file =
            ((Path.splitSuffix file).1, templateSuffix) := by
          rw [← suffix]
        obtain ⟨same, nonempty⟩ := splitSuffix_eq_templateSuffix_iff.mp parts
        have named : IsTemplateName (Path.splitSuffix file).1 := by
          refine ⟨nonempty, ?_⟩
          rwa [← slash_mem_templateFileName, ← same]
        exact ⟨named, folder, member, same ▸ stands⟩
    · intro name template found
      obtain ⟨file, member, same⟩ := exists_item_of_mapM read
        (List.mem_of_find?_eq_some found)
      have isName := List.find?_some found
      have named : file.name = name := by
        simpa [name_of_compile same] using isName
      exact named ▸ servedFrom_of_compile member same
    · intro call template page site found
      exact Registry.render_of_find? found page site

theorem exists_find?_of_isFile {registry : Registry engine} {folder : Path}
    {name : String} (loaded : folders.load engine = .ok registry)
    (member : folder ∈ folders.all) (named : IsTemplateName name)
    (stands : folders.tree.isFile folders.directory
      (folder.child (templateFileName name)) = true) :
    ∃ template, registry.find? name = some template := by
  have made := madeFrom_of_load loaded
  have parts := splitSuffix_eq_templateSuffix_iff.mpr ⟨rfl, named.nonempty⟩
  rw [← made.known, made.mem_names_iff]
  refine ⟨folder, member, templateFileName name, stands, ?_, ?_, ?_⟩
  · exact mt slash_mem_templateFileName.mp named.single
  · rw [Path.stem, Path.name_child, parts]
  · rw [Path.suffix, Path.name_child, parts]

/-- The loader finds the same file of a template in another tree, if the tree
has the same files under its name. -/
theorem source?_congr {tree : FileTree} {name : String}
    (own : ∀ folder ∈ folders.user,
      tree.bytes? folders.directory (folder.child (templateFileName name)) =
        folders.tree.bytes? folders.directory
          (folder.child (templateFileName name)))
    (others : ¬ folders.Overrides name →
      tree.bytes? folders.directory
          (folders.builtIn.child (templateFileName name)) =
        folders.tree.bytes? folders.directory
          (folders.builtIn.child (templateFileName name))) :
    source? { folders with tree } name = folders.source? name ∧
      (Overrides { folders with tree } name ↔ folders.Overrides name) := by
  have overrides : Overrides { folders with tree } name ↔
      folders.Overrides name := by
    unfold Overrides FileTree.isFile
    apply exists_congr
    intro folder
    apply and_congr_right
    intro isUser
    rw [own folder isUser]
  refine ⟨?_, overrides⟩
  apply Option.ext
  rintro ⟨path, bytes⟩
  rw [source?_eq_some_iff, source?_eq_some_iff, overrides]
  apply or_congr
  · apply exists_congr
    intro folder
    apply and_congr_right
    intro isUser
    apply and_congr_right
    rintro rfl
    rw [own folder isUser]
  · apply and_congr_right
    intro stays
    apply and_congr_right
    rintro rfl
    rw [others stays]

/-- The templates depend on the files that the loader finds under their names. -/
theorem map_templates_load_congr {tree : FileTree}
    (lookups : ∀ folder ∈ folders.all,
      tree.lookupError? folders.directory folder =
        folders.tree.lookupError? folders.directory folder)
    (sources : ∀ name, IsTemplateName name →
      source? { folders with tree } name = folders.source? name ∧
        (Overrides { folders with tree } name ↔ folders.Overrides name)) :
    (load { folders with tree } engine).map Registry.templates =
      (folders.load engine).map Registry.templates := by
  have files : files { folders with tree } = folders.files := by
    apply eq_of_pairwise_of_mem_iff (files_pairwise _) (files_pairwise _)
    intro file
    rw [mem_files_iff, mem_files_iff]
    apply and_congr_right
    intro named
    obtain ⟨source, overrides⟩ := sources file.name named
    rw [source, overrides]
  have compiles : ∀ file ∈ folders.files,
      compile { folders with tree } engine file =
        folders.compile engine file := by
    intro file member
    obtain ⟨named, ⟨bytes, found⟩, -⟩ := mem_files_iff.mp member
    have other := (sources file.name named).1.trans found
    rw [compile_of_source? named.single other,
      compile_of_source? named.single found]
  have found : folders.all.findSome? (tree.lookupError? folders.directory) =
      folders.all.findSome? (folders.tree.lookupError? folders.directory) :=
    findSome?_congr lookups
  have sameAll : all { folders with tree } = folders.all := rfl
  rw [load_eq, load_eq, files, sameAll, found,
    mapM_congr_of_forall₂ (List.forall₂_same.mpr compiles) fun _ _ same => same]
  split
  · rfl
  · cases folders.files.mapM (folders.compile engine) with
    | error failure => rfl
    | ok templates => rfl

/-- Loading the templates of a project gives a registry of the files that the
loader finds, or tells of the least name whose file has a defect.  Nothing else
in the folders decides which templates there are and what they are compiled to:
no built-in file that the project replaces, no directory, no file further down
and none with another suffix. -/
theorem registry_from_first_files (engine : Engine)
    (folders : TemplateFolders) :
    (∀ registry, folders.load engine = .ok registry →
      registry.MadeFrom folders) ∧
    (∀ failure, folders.load engine = .error failure →
      folders.Explains engine failure) ∧
    ∀ tree : FileTree,
      (∀ folder ∈ folders.all,
        tree.lookupError? folders.directory folder =
          folders.tree.lookupError? folders.directory folder) →
      (∀ folder ∈ folders.user, ∀ name, IsTemplateName name →
        tree.bytes? folders.directory (folder.child (templateFileName name)) =
          folders.tree.bytes? folders.directory
            (folder.child (templateFileName name))) →
      (∀ name, IsTemplateName name → ¬ folders.Overrides name →
        tree.bytes? folders.directory
            (folders.builtIn.child (templateFileName name)) =
          folders.tree.bytes? folders.directory
            (folders.builtIn.child (templateFileName name))) →
      (load { folders with tree } engine).map Registry.templates =
        (folders.load engine).map Registry.templates := by
  refine ⟨fun _ => madeFrom_of_load, fun _ => explains_of_load, ?_⟩
  intro tree lookups own others
  apply map_templates_load_congr lookups
  intro name named
  exact source?_congr (fun folder isUser => own folder isUser name named)
    (others name named)

/-- A template in the folder of the project, and a built-in one of its name. -/
def shadowed : TemplateFolders where
  tree := (FileTree.empty.addFile ["b", "a.html"] [66]).addFile
    ["t", "a.html"] [65]
  directory := ⟨.root, []⟩
  user := some ⟨.here, ["t"]⟩
  builtIn := ⟨.here, ["b"]⟩

/-- The shadowed template is no template any more. -/
def brokenTree : FileTree := shadowed.tree.write ["b", "a.html"] [123, 123]

theorem registry_of_shadowed :
    ∃ registry, shadowed.load interpreter = .ok registry ∧
      registry.MadeFrom shadowed ∧
      ∃ other, load { shadowed with tree := brokenTree } interpreter =
          .ok other ∧ other.templates = registry.templates := by
  have loads : (shadowed.load interpreter).toOption.isSome = true := by
    decide +kernel
  have free : shadowed.tree.canHold ["b", "a.html"] = true := by
    decide +kernel
  obtain ⟨registry, read⟩ := Option.isSome_iff_exists.mp loads
  have loaded := eq_ok_of_toOption read
  obtain ⟨made, -, same⟩ := registry_from_first_files interpreter shadowed
  refine ⟨registry, loaded, made registry loaded, ?_⟩
  apply exists_of_map_eq_ok
  change (load { shadowed with tree := brokenTree } interpreter).map _ =
    (Except.ok registry).map _
  rw [← loaded]
  apply same
  · intro folder _
    exact FileTree.lookupError?_congr (FileTree.hasDirectory_write free _)
      _ folder
  · rintro folder ⟨rfl⟩ name _
    apply FileTree.bytes?_write_of_ne free
    have located : shadowed.tree.locate? shadowed.directory
        ⟨.here, ["t"]⟩ = some ["t"] := by
      decide +kernel
    rw [FileTree.locate?_child (templateFileName_ne name), located,
      Option.bind_some]
    split
    · simp
    · simp
  · intro name _ stays
    apply FileTree.bytes?_write_of_ne free
    have located : shadowed.tree.locate? shadowed.directory
        shadowed.builtIn = some ["b"] := by
      decide +kernel
    have overrides : shadowed.Overrides "a" :=
      ⟨⟨.here, ["t"]⟩, rfl, by decide +kernel⟩
    rw [FileTree.locate?_child (templateFileName_ne name), located,
      Option.bind_some]
    have different : templateFileName name ≠ "a.html" := by
      intro same
      have named : name = "a" := templateFileName_inj.mp same
      exact stays (named ▸ overrides)
    split
    · simpa using different
    · simp

/-- A template with a number that is too long to be written. -/
def steep : TemplateFolders where
  tree := FileTree.empty.addFile ["t", "x.html"]
    (Text.Utf8.encode "\x7b\x7b10**5000\x7d\x7d".toList)
  directory := ⟨.root, []⟩
  user := some ⟨.here, ["t"]⟩
  builtIn := ⟨.here, ["b"]⟩

theorem not_flawed_failures :
    ¬ ∀ (engine : Engine) (folders : TemplateFolders)
      (failure : RegistryFailure), folders.load engine = .error failure →
        ∃ error, failure = .flawed error ∧
          folders.FailsFirstAt engine
            (fun bytes => ¬ ∃ compiled,
              CompilesTo engine error.name bytes compiled)
            error.name error.path := by
  intro told
  have crashes : failure? (steep.load interpreter) =
      some (.crashed tooLong.toPackageError) := by
    decide +kernel
  have failed := eq_error_of_failure? crashes
  obtain ⟨error, same, -⟩ := told interpreter steep _ failed
  cases same

end TemplateFolders

end Shortcode
