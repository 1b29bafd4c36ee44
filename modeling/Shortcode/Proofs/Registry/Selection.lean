import Shortcode.Proofs.Expansion.Trace
import Shortcode.Proofs.FileTree
import Shortcode.Proofs.Outcome
import Shortcode.Proofs.Text.Fields
import Shortcode.Registry

/-!
# The templates of a project

The listings of two folders decide which templates there are, and the loader
goes through the folders to find the text of each.  Both select the same files.
-/

namespace Shortcode

variable {tree : FileTree} {directory folder builtIn : Path}
  {userFolder : Option Path} {origin : Origin} {file : TemplateFile}

/-! ## Template files -/

theorem templateFileName_ne (name : String) : templateFileName name ≠ ".." := by
  intro same
  have last := congrArg (fun text : String => text.toList.getLast?) same
  simp [templateFileName, templateSuffix] at last

theorem templateFileName_inj {name other : String} :
    templateFileName name = templateFileName other ↔ name = other := by
  simp [templateFileName, ← String.toList_inj]

/-- A name that the file of a template may have. -/
structure IsTemplateName (name : String) : Prop where
  nonempty : name ≠ ""
  single : '/' ∉ name.toList

theorem slash_mem_templateFileName {name : String} :
    '/' ∈ (templateFileName name).toList ↔ '/' ∈ name.toList := by
  have suffix : '/' ∉ templateSuffix.toList := by decide
  rw [templateFileName, String.toList_append, List.mem_append]
  exact or_iff_left suffix

/-- The loader takes the name of a template's file as it is. -/
theorem templateParts?_templateFileName {name : String}
    (single : '/' ∉ name.toList) :
    templateParts? (templateFileName name) = some [templateFileName name] := by
  have whole : Text.fields '/' (templateFileName name).toList =
      [(templateFileName name).toList] :=
    Text.fields_of_notMem (mt slash_mem_templateFileName.mp single)
  have long : 2 ≤ (templateFileName name).toList.length := by
    simp [templateFileName, templateSuffix]
  have isName : Path.isName (templateFileName name).toList = true := by
    unfold Path.isName
    cases shown : (templateFileName name).toList with
    | nil => simp [shown] at long
    | cons char rest =>
        cases rest with
        | nil => simp [shown] at long
        | cons other more => simp
  have names : (Path.ofString (templateFileName name)).names =
      [templateFileName name] := by
    simp [Path.ofString, whole, isName]
  unfold templateParts?
  rw [names]
  simp [(templateFileName_ne name).symm]

theorem dots_notMem_of_templateParts? {name : String} {parts : List String}
    (parted : templateParts? name = some parts) : ".." ∉ parts := by
  unfold templateParts? at parted
  dsimp only at parted
  split at parted
  · cases parted
  · rename_i plain
    cases parted
    simpa using plain

theorem splitSuffix_eq_templateSuffix_iff {fileName name : String} :
    Path.splitSuffix fileName = (name, templateSuffix) ↔
      fileName = templateFileName name ∧ name ≠ "" := by
  have absent : '.' ∉ "html".toList := by decide
  exact Path.splitSuffix_eq_iff absent (by decide)

theorem ofFile?_eq_some_iff {fileName : String} :
    TemplateFile.ofFile? origin folder fileName = some file ↔
      fileName = templateFileName file.name ∧ IsTemplateName file.name ∧
        file.origin = origin ∧ file.path = folder.child fileName := by
  obtain ⟨name, own, path⟩ := file
  have parts : fileName = templateFileName name ∧ IsTemplateName name ↔
      Path.splitSuffix fileName = (name, templateSuffix) ∧
        '/' ∉ fileName.toList := by
    rw [splitSuffix_eq_templateSuffix_iff, and_assoc]
    apply and_congr_right
    rintro rfl
    rw [slash_mem_templateFileName]
    constructor
    · rintro ⟨nonempty, single⟩
      exact ⟨nonempty, single⟩
    · rintro ⟨nonempty, single⟩
      exact ⟨nonempty, single⟩
  rw [← and_assoc, parts]
  unfold TemplateFile.ofFile?
  generalize Path.splitSuffix fileName = split
  obtain ⟨stem, suffix⟩ := split
  by_cases same : suffix = templateSuffix
  · by_cases slash : '/' ∈ fileName.toList
    · simp [same, slash]
    · simp [same, slash, eq_comm]
  · simp [same]

theorem mem_templateFiles_iff :
    file ∈ templateFiles tree directory origin folder ↔
      IsTemplateName file.name ∧ file.origin = origin ∧
        file.path = folder.child (templateFileName file.name) ∧
        tree.isFile directory file.path = true := by
  unfold templateFiles
  constructor
  · intro member
    cases located : tree.locate? directory folder with
    | none => simp [located] at member
    | some location =>
        rw [located] at member
        dsimp only at member
        split at member
        · obtain ⟨⟨fileName, bytes⟩, listed, made⟩ :=
            List.mem_filterMap.mp member
          obtain ⟨rfl, named, own, path⟩ := ofFile?_eq_some_iff.mp made
          refine ⟨named, own, path, Option.isSome_iff_exists.mpr ⟨bytes, ?_⟩⟩
          rw [path, FileTree.bytes?_child_eq_some_iff (templateFileName_ne _)]
          exact ⟨location, located, FileTree.mem_filesIn_iff.mp listed⟩
        · cases member
  · rintro ⟨named, own, path, found⟩
    obtain ⟨bytes, found⟩ := Option.isSome_iff_exists.mp found
    rw [path, FileTree.bytes?_child_eq_some_iff (templateFileName_ne _)]
      at found
    obtain ⟨location, located, stands⟩ := found
    rw [located]
    dsimp only
    rw [if_pos (FileTree.hasDirectory_of_entry stands), List.mem_filterMap]
    exact ⟨_, FileTree.mem_filesIn_iff.mpr stands,
      ofFile?_eq_some_iff.mpr ⟨rfl, named, own, path⟩⟩

theorem nodup_templateFiles :
    ((templateFiles tree directory origin folder).map (·.name)).Nodup := by
  unfold templateFiles
  cases tree.locate? directory folder with
  | none => simp
  | some location =>
      dsimp only
      split
      · rw [List.Nodup, List.pairwise_map, List.pairwise_filterMap]
        have names := tree.nodup_filesIn location
        rw [List.Nodup, List.pairwise_map] at names
        refine names.imp ?_
        rintro ⟨first, bytes⟩ ⟨second, others⟩ different file made other again
          same
        have left := (ofFile?_eq_some_iff.mp made).1
        have right := (ofFile?_eq_some_iff.mp again).1
        exact different (by rw [left, right, same])
      · simp

/-! ## Selected files -/

theorem mem_selectFiles_iff {user others : List TemplateFile} :
    file ∈ selectFiles user others ↔
      file ∈ user ∨
        file ∈ others ∧ ∀ other ∈ user, other.name ≠ file.name := by
  rw [selectFiles, List.mem_mergeSort]
  simp

theorem nodup_selectFiles {user others : List TemplateFile}
    (distinct : (user.map (·.name)).Nodup)
    (othersDistinct : (others.map (·.name)).Nodup) :
    ((selectFiles user others).map (·.name)).Nodup := by
  rw [selectFiles, ((List.mergeSort_perm _ _).map _).nodup_iff,
    List.map_append, List.nodup_append]
  refine ⟨distinct, ?_, ?_⟩
  · exact othersDistinct.sublist (List.filter_sublist.map _)
  · intro name used other kept same
    obtain ⟨mine, member, rfl⟩ := List.mem_map.mp used
    obtain ⟨theirs, unused, rfl⟩ := List.mem_map.mp kept
    have absent := (List.mem_filter.mp unused).2
    simp only [Bool.not_eq_true', List.any_eq_false] at absent
    exact absent mine member (by simpa using same)

/-- The names of the selected files increase. -/
theorem selectFiles_pairwise {user others : List TemplateFile}
    (distinct : (user.map (·.name)).Nodup)
    (othersDistinct : (others.map (·.name)).Nodup) :
    (selectFiles user others).Pairwise (·.name < ·.name) := by
  have ordered : (selectFiles user others).Pairwise (·.name ≤ ·.name) :=
    mergeSort_pairwise TemplateFile.name _
  have different := nodup_selectFiles distinct othersDistinct
  rw [List.Nodup, List.pairwise_map] at different
  exact ordered.imp₂ (fun _ _ => lt_of_le_of_ne) different

/-! ## What the loader finds -/

namespace TemplateFolders

variable {folders : TemplateFolders} {name : String} {path : Path}
  {bytes : List UInt8} {engine : Template.Engine}

/-- The first file of a template along the search path. -/
def source? (folders : TemplateFolders) (name : String) :
    Option (Path × List UInt8) :=
  folders.find? [templateFileName name]

/-- The project has a file of the template. -/
def Overrides (folders : TemplateFolders) (name : String) : Prop :=
  ∃ folder ∈ folders.user, folders.tree.isFile folders.directory
    (folder.child (templateFileName name)) = true

theorem isDirectory_of_bytes?_child {folder : Path}
    (found : folders.tree.bytes? folders.directory
      (folder.child (templateFileName name)) = some bytes) :
    folders.tree.isDirectory folders.directory folder = true := by
  rw [FileTree.bytes?_child_eq_some_iff (templateFileName_ne name)] at found
  obtain ⟨location, located, stands⟩ := found
  exact FileTree.isDirectory_of_locate? located
    (FileTree.hasDirectory_of_entry stands)

theorem searchPath_of_isDirectory {folder : Path}
    (isUser : folders.user = some folder)
    (stands : folders.tree.isDirectory folders.directory folder = true) :
    folders.searchPath = [folder, folders.builtIn] := by
  simp [searchPath, isUser, stands]

theorem source?_eq_some_iff :
    folders.source? name = some (path, bytes) ↔
      (∃ folder ∈ folders.user, path = folder.child (templateFileName name) ∧
        folders.tree.bytes? folders.directory path = some bytes) ∨
      (¬ folders.Overrides name ∧
        path = folders.builtIn.child (templateFileName name) ∧
        folders.tree.bytes? folders.directory path = some bytes) := by
  have child : ∀ folder : Path,
      folder.join ⟨.here, [templateFileName name]⟩ =
        folder.child (templateFileName name) := fun _ => rfl
  have present : ∀ folder : Path,
      (folders.tree.bytes? folders.directory
        (folder.child (templateFileName name))).map
          (folder.child (templateFileName name), ·) = some (path, bytes) ↔
        path = folder.child (templateFileName name) ∧
          folders.tree.bytes? folders.directory path = some bytes := by
    intro folder
    constructor
    · intro found
      obtain ⟨content, stands, same⟩ := Option.map_eq_some_iff.mp found
      cases same
      exact ⟨rfl, stands⟩
    · rintro ⟨rfl, stands⟩
      rw [stands]
      rfl
  unfold source? find? searchPath Overrides FileTree.isFile
  simp only [child]
  cases folders.user with
  | none => simp [present]
  | some folder =>
      cases own : folders.tree.bytes? folders.directory
          (folder.child (templateFileName name)) with
      | some content =>
          have searched := isDirectory_of_bytes?_child own
          simp [searched, own, ← present, and_comm]
      | none =>
          have absent : ¬ (path = folder.child (templateFileName name) ∧
              folders.tree.bytes? folders.directory path = some bytes) := by
            rintro ⟨rfl, found⟩
            rw [own] at found
            cases found
          by_cases searched :
              folders.tree.isDirectory folders.directory folder = true
          · simp [searched, own, present, absent]
          · simp [searched, own, present, absent]

theorem mem_userFiles_iff :
    file ∈ (folders.user.map
        (templateFiles folders.tree folders.directory .user)).getD [] ↔
      ∃ folder ∈ folders.user,
        file ∈ templateFiles folders.tree folders.directory .user folder := by
  cases folders.user with
  | none => simp
  | some folder => simp

theorem overrides_iff (named : IsTemplateName name) :
    folders.Overrides name ↔
      ∃ file ∈ (folders.user.map
        (templateFiles folders.tree folders.directory .user)).getD [],
        file.name = name := by
  constructor
  · rintro ⟨folder, isUser, stands⟩
    let file : TemplateFile :=
      ⟨name, .user, folder.child (templateFileName name)⟩
    have listed : file ∈
        templateFiles folders.tree folders.directory .user folder :=
      mem_templateFiles_iff.mpr ⟨named, rfl, rfl, stands⟩
    exact ⟨file, mem_userFiles_iff.mpr ⟨folder, isUser, listed⟩, rfl⟩
  · rintro ⟨file, member, rfl⟩
    obtain ⟨folder, isUser, listed⟩ := mem_userFiles_iff.mp member
    obtain ⟨-, -, path, found⟩ := mem_templateFiles_iff.mp listed
    exact ⟨folder, isUser, path ▸ found⟩

/-- The files that the listings select are those that the loader finds. -/
theorem mem_files_iff :
    file ∈ folders.files ↔
      IsTemplateName file.name ∧
        (∃ bytes, folders.source? file.name = some (file.path, bytes)) ∧
        (file.origin = .user ↔ folders.Overrides file.name) := by
  rw [files, mem_selectFiles_iff]
  simp only [source?_eq_some_iff]
  constructor
  · rintro (member | ⟨member, unused⟩)
    · obtain ⟨folder, isUser, listed⟩ := mem_userFiles_iff.mp member
      obtain ⟨named, own, path, found⟩ := mem_templateFiles_iff.mp listed
      obtain ⟨bytes, found⟩ := Option.isSome_iff_exists.mp found
      have overrides := (overrides_iff named).mpr ⟨file, member, rfl⟩
      exact ⟨named, ⟨bytes, .inl ⟨folder, isUser, path, found⟩⟩,
        by simp [own, overrides]⟩
    · obtain ⟨named, own, path, found⟩ := mem_templateFiles_iff.mp member
      obtain ⟨bytes, found⟩ := Option.isSome_iff_exists.mp found
      have stays : ¬ folders.Overrides file.name := by
        rw [overrides_iff named]
        rintro ⟨other, mine, same⟩
        exact unused other mine same
      exact ⟨named, ⟨bytes, .inr ⟨stays, path, found⟩⟩, by simp [own, stays]⟩
  · rintro ⟨named, ⟨bytes, ⟨folder, isUser, path, found⟩ |
      ⟨stays, path, found⟩⟩, own⟩
    · have stands : folders.tree.isFile folders.directory file.path = true :=
        Option.isSome_iff_exists.mpr ⟨bytes, found⟩
      have overrides : folders.Overrides file.name :=
        ⟨folder, isUser, path ▸ stands⟩
      left
      refine mem_userFiles_iff.mpr ⟨folder, isUser, ?_⟩
      exact mem_templateFiles_iff.mpr
        ⟨named, own.mpr overrides, path, stands⟩
    · right
      constructor
      · refine mem_templateFiles_iff.mpr
          ⟨named, ?_, path, Option.isSome_iff_exists.mpr ⟨bytes, found⟩⟩
        cases origin : file.origin with
        | builtIn => rfl
        | user => exact absurd (own.mp origin) stays
      · intro other mine same
        exact stays ((overrides_iff named).mpr ⟨other, mine, same⟩)

theorem Origin.eq_of_eq_user_iff {origin other : Origin}
    (same : origin = .user ↔ other = .user) : origin = other := by
  cases origin <;> cases other <;> simp_all

/-- The file of a name is the one that the loader finds. -/
theorem mem_files_iff_eq (named : IsTemplateName name)
    (found : folders.source? name = some (path, bytes))
    (own : origin = .user ↔ folders.Overrides name)
    (same : file.name = name) :
    file ∈ folders.files ↔ file = ⟨name, origin, path⟩ := by
  subst same
  rw [mem_files_iff, found]
  constructor
  · rintro ⟨-, ⟨content, source⟩, user⟩
    cases source
    have origins : file.origin = origin :=
      Origin.eq_of_eq_user_iff (user.trans own.symm)
    subst origins
    rfl
  · intro same
    rw [same]
    exact ⟨named, ⟨bytes, rfl⟩, own⟩

theorem exists_mem_files_of_source? (named : IsTemplateName name)
    (found : folders.source? name = some (path, bytes)) :
    ∃ file ∈ folders.files, file.name = name ∧ file.path = path := by
  by_cases overrides : folders.Overrides name
  · exact ⟨⟨name, .user, path⟩,
      mem_files_iff.mpr ⟨named, ⟨bytes, found⟩, by simp [overrides]⟩, rfl, rfl⟩
  · exact ⟨⟨name, .builtIn, path⟩,
      mem_files_iff.mpr ⟨named, ⟨bytes, found⟩, by simp [overrides]⟩, rfl, rfl⟩

theorem exists_source?_iff :
    (∃ path bytes, folders.source? name = some (path, bytes)) ↔
      ∃ folder ∈ folders.all, folders.tree.isFile folders.directory
        (folder.child (templateFileName name)) = true := by
  simp only [source?_eq_some_iff, all, List.mem_append, Option.mem_toList,
    List.mem_singleton, FileTree.isFile, Option.isSome_iff_exists]
  constructor
  · rintro ⟨path, bytes, ⟨folder, isUser, rfl, found⟩ | ⟨-, rfl, found⟩⟩
    · exact ⟨folder, .inl isUser, bytes, found⟩
    · exact ⟨folders.builtIn, .inr rfl, bytes, found⟩
  · rintro ⟨folder, member, bytes, found⟩
    by_cases overrides : folders.Overrides name
    · obtain ⟨own, isUser, stands⟩ := overrides
      obtain ⟨content, here⟩ := Option.isSome_iff_exists.mp stands
      exact ⟨_, content, .inl ⟨own, isUser, rfl, here⟩⟩
    · rcases member with isUser | rfl
      · exact absurd ⟨folder, isUser, by rw [FileTree.isFile, found]; rfl⟩
          overrides
      · exact ⟨_, bytes, .inr ⟨overrides, rfl, found⟩⟩

theorem mem_names_files_iff :
    name ∈ folders.files.map (·.name) ↔ IsTemplateName name ∧
      ∃ path bytes, folders.source? name = some (path, bytes) := by
  rw [List.mem_map]
  constructor
  · rintro ⟨file, member, rfl⟩
    obtain ⟨named, ⟨bytes, found⟩, -⟩ := mem_files_iff.mp member
    exact ⟨named, file.path, bytes, found⟩
  · rintro ⟨named, path, bytes, found⟩
    obtain ⟨file, member, same, -⟩ := exists_mem_files_of_source? named found
    exact ⟨file, member, same⟩

theorem files_pairwise (folders : TemplateFolders) :
    folders.files.Pairwise (·.name < ·.name) := by
  refine selectFiles_pairwise ?_ nodup_templateFiles
  cases folders.user with
  | none => simp
  | some folder => exact nodup_templateFiles

/-- Lists of template files whose names increase are equal if they have the
same members. -/
theorem eq_of_pairwise_of_mem_iff {left right : List TemplateFile}
    (leftPairwise : left.Pairwise (·.name < ·.name))
    (rightPairwise : right.Pairwise (·.name < ·.name))
    (members : ∀ file, file ∈ left ↔ file ∈ right) : left = right := by
  let before : TemplateFile → TemplateFile → Prop := (·.name < ·.name)
  have : Std.Irrefl before := ⟨fun file => lt_irrefl file.name⟩
  have : Std.Antisymm before :=
    ⟨fun first second early late => absurd early (lt_asymm late)⟩
  exact leftPairwise.eq_of_mem_iff rightPairwise members

/-- Where the project's template of a name would be is told by the path that
the loader finds. -/
theorem overrides_iff_of_source? (found : folders.source? name =
    some (path, bytes)) :
    folders.Overrides name ↔
      ∃ folder ∈ folders.user,
        path = folder.child (templateFileName name) := by
  rcases source?_eq_some_iff.mp found with
    ⟨folder, isUser, rfl, stands⟩ | ⟨stays, rfl, stands⟩
  · have overrides : folders.Overrides name :=
      ⟨folder, isUser, by rw [FileTree.isFile, stands]; rfl⟩
    exact iff_of_true overrides ⟨folder, isUser, rfl⟩
  · refine iff_of_false stays ?_
    rintro ⟨folder, isUser, same⟩
    refine stays ⟨folder, isUser, ?_⟩
    rw [FileTree.isFile, ← same, stands]
    rfl

/-! ## Compiling the selected files -/

theorem forIn_checkLookup (tree : FileTree) (directory : Path) (paths : List Path) :
    (forIn paths PUnit.unit fun path _ => do
      (tree.checkLookup directory path).mapError RegistryFailure.file
      pure (ForInStep.yield PUnit.unit)) =
      match paths.findSome? (tree.lookupError? directory) with
      | some error => .error (.file error)
      | none => .ok PUnit.unit := by
  induction paths with
  | nil => rfl
  | cons path rest induction =>
      rw [List.forIn_cons, List.findSome?_cons, FileTree.checkLookup]
      cases tree.lookupError? directory path with
      | some error => rfl
      | none => exact induction

theorem load_eq (folders : TemplateFolders) (engine : Template.Engine) :
    folders.load engine =
      match folders.all.findSome?
        (folders.tree.lookupError? folders.directory) with
      | some error => .error (.file error)
      | none => (folders.files.mapM (folders.compile engine)).map
          (⟨·, folders.fetch engine⟩) := by
  unfold load
  rw [forIn_checkLookup]
  split
  · rfl
  · dsimp only [bind, Except.bind]
    split
    · rename_i failed
      rw [failed]
      rfl
    · rename_i read
      rw [read]
      rfl

end TemplateFolders

end Shortcode
