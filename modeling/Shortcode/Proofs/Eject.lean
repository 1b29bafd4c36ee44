import Shortcode.CommandLine.Run
import Shortcode.Packages.Standard
import Shortcode.Proofs.BuiltIn
import Shortcode.Proofs.FileTree.Growth
import Shortcode.Proofs.Path
import Shortcode.Proofs.Registry.Copy

/-!
# Ejecting changes no page

Ejecting puts a copy of a built-in template where the project had none.  The
files and the settings stay as they are, and so does what any call comes to.
-/

namespace Shortcode.CommandLine.Setting

open Template (Engine)

variable {setting : Setting} {name : String} {project : Option Path}
  {root folder path : Path} {after : FileTree}

/-! ## What a copy comes to -/

/-- What ejecting comes to when it succeeds, be it by force or not. -/
theorem exists_of_exit {force : Bool}
    (done : (setting.eject name project force).exit = 0) :
    ∃ folder file bytes,
      setting.toEject name (setting.root project) force =
        .ok (folder, file, bytes) ∧
      setting.copyInto folder file bytes =
        .ok (setting.eject name project force).tree ∧
      (setting.eject name project force).output =
        "Created " ++ (setting.shownPath (setting.root project)
          (folder.child file)).toString ++ "\n" := by
  unfold eject at done ⊢
  dsimp only at done ⊢
  cases chosen : setting.toEject name (setting.root project) force with
  | error stop =>
      rw [chosen] at done
      cases done
  | ok copy =>
      obtain ⟨folder, file, bytes⟩ := copy
      rw [chosen] at done
      dsimp only at done ⊢
      cases copied : setting.copyInto folder file bytes with
      | error failed =>
          rw [copied] at done
          cases done
      | ok tree => exact ⟨folder, file, bytes, rfl, copied, rfl⟩

theorem exists_of_toEject {force : Bool} {file : String} {bytes : List UInt8}
    (chosen : setting.toEject name root force = .ok (folder, file, bytes)) :
    ∃ source, source = setting.builtIn.join
        (Path.ofString (name ++ templateSuffix)) ∧
      setting.tree.bytes? setting.directory source = some bytes ∧
      file = source.name ∧ setting.targetFolder root = .ok folder ∧
      (force = false → setting.tree.contains setting.directory
        (folder.child file) = false) := by
  refine ⟨_, rfl, ?_⟩
  unfold toEject at chosen
  dsimp only at chosen
  generalize setting.builtIn.join (Path.ofString (name ++ templateSuffix)) =
    source at chosen ⊢
  obtain ⟨_, _, rest⟩ := exists_of_bind_eq_ok chosen
  cases found : setting.tree.bytes? setting.directory source with
  | none =>
      rw [found] at rest
      obtain ⟨names, -, rest⟩ := exists_of_bind_eq_ok rest
      cases rest
  | some content =>
      rw [found] at rest
      dsimp only at rest
      obtain ⟨target, isTarget, rest⟩ := exists_of_bind_eq_ok rest
      obtain ⟨_, _, rest⟩ := exists_of_bind_eq_ok rest
      split at rest
      · cases rest
      · rename_i free
        cases rest
        refine ⟨rfl, rfl, isTarget, ?_⟩
        rintro rfl
        simpa using free

/-- A copy is the only new file, in the folder that the path leads to now. -/
structure CopiedTo (setting : Setting) (folder : Path) (file : String)
    (bytes : List UInt8) (after : FileTree) (location : Location) : Prop where
  gains : setting.tree.Gains after location file bytes
  located : after.locate? setting.directory folder = some location
  before : setting.tree.hasDirectory location = true →
    setting.tree.locate? setting.directory folder = some location
  openBefore : setting.tree.checkAccess setting.directory folder = .ok ()
  openAfter : after.checkAccess setting.directory folder = .ok ()

/-- A path that leads to a directory, once the directories behind its last two
dots are there. -/
theorem locate?_of_split {tree : FileTree} {directory : Path}
    {lead rest : List String} {base : Location}
    (names : (directory.join folder).names = lead ++ rest)
    (plain : ".." ∉ rest) (walked : tree.walk [] lead = some base)
    (stands : tree.hasDirectory (base ++ rest) = true) :
    tree.locate? directory folder = some (base ++ rest) := by
  rw [FileTree.locate?, names, FileTree.walk_append, walked, Option.bind_some]
  exact FileTree.walk_of_hasDirectory plain stands

theorem absent_of_not_contains {tree : FileTree} {directory : Path}
    {file : String} {location : Location} (plain : file ≠ "..")
    (located : tree.hasDirectory location = true →
      tree.locate? directory folder = some location)
    (free : tree.contains directory (folder.child file) = false) :
    tree.entry? (location ++ [file]) = none := by
  cases found : tree.entry? (location ++ [file]) with
  | none => rfl
  | some entry =>
      have stands := FileTree.hasDirectory_of_entry found
      have there : tree.contains directory (folder.child file) = true := by
        rw [FileTree.contains, FileTree.find?, FileTree.locate?_child plain,
          located stands, Option.bind_some, if_pos stands, Option.bind_some,
          found]
        rfl
      rw [free] at there
      cases there

theorem eq_write_of_writeBytes {tree : FileTree} {directory : Path}
    {bytes : List UInt8} {location : Location}
    (located : tree.locate? directory path = some location)
    (nothing : tree.entry? location = none)
    (written : tree.writeBytes directory path bytes = .ok after) :
    tree.checkAccess directory path = .ok () ∧
      after = tree.write location bytes := by
  obtain ⟨_, access, put⟩ := exists_of_bind_eq_ok written
  have notDirectory : tree.hasDirectory location = false := by
    rw [FileTree.hasDirectory, nothing]
    rfl
  rw [located] at put
  dsimp only at put
  rw [notDirectory] at put
  exact ⟨access, (Except.ok.inj put).symm⟩

theorem exists_of_copyInto {file : String} {bytes : List UInt8}
    (plain : file ≠ "..")
    (dots : setting.tree.DotsLeaveDirectories
      (setting.directory.join folder).names)
    (free : setting.tree.contains setting.directory (folder.child file) = false)
    (copied : setting.copyInto folder file bytes = .ok after) :
    ∃ location, setting.CopiedTo folder file bytes after location := by
  obtain ⟨lead, rest, base, names, plainRest, walked, stands⟩ := dots
  obtain ⟨grown, made, written⟩ := exists_of_bind_eq_ok copied
  obtain ⟨_, accessed, along⟩ := exists_of_bind_eq_ok made
  have access := eq_ok_of_mapError accessed
  rw [names, FileTree.makeAlong_of_walk walked stands] at along
  have grew := FileTree.grownTo_of_makeAlong stands plainRest along
  have before := locate?_of_split names plainRest walked
  have absent := absent_of_not_contains plain before free
  have gains := grew.gains absent bytes
  -- The new file changes no directory, so paths lead where they led before it.
  have same := FileTree.hasDirectory_write (grew.canHold absent) bytes
  have isDirectory := gains.hasDirectory_iff.mpr (.inl List.prefix_rfl)
  have located := locate?_of_split names plainRest
    (gains.walk_of_walk walked) isDirectory
  have target : grown.locate? setting.directory (folder.child file) =
      some (base ++ rest ++ [file]) := by
    rw [FileTree.locate?_child plain, ← FileTree.locate?_congr same, located,
      Option.bind_some, if_pos (same _ ▸ isDirectory)]
  have nothing : grown.entry? (base ++ rest ++ [file]) = none := by
    rw [grew.entry_child, absent]
  have notDirectory : grown.isDirectory setting.directory
      (folder.child file) = false := by
    rw [FileTree.isDirectory, FileTree.find?, target, Option.bind_some,
      nothing]
    rfl
  dsimp only at written
  rw [notDirectory] at written
  obtain ⟨accessTarget, rfl⟩ :=
    eq_write_of_writeBytes target nothing (eq_ok_of_mapError written)
  refine ⟨base ++ rest, gains, located, before, access, ?_⟩
  obtain ⟨notNull, short, -⟩ := FileTree.checkAccess_eq_ok_iff.mp access
  obtain ⟨-, -, long⟩ := FileTree.checkAccess_eq_ok_iff.mp accessTarget
  rw [Path.names_join_child] at long
  refine FileTree.checkAccess_eq_ok_iff.mpr ⟨notNull, short, ?_⟩
  rw [FileTree.hasLongName_congr same]
  exact FileTree.hasLongName_of_append long

/-! ## The settings stay -/

theorem default_templateFolder (root : Path) :
    Configuration.default.templateFolder root =
      .ok (some (root.join ⟨.here, ["templates", "shortcodes"]⟩)) := by
  have path : Path.ofString "templates/shortcodes" =
      ⟨.here, ["templates", "shortcodes"]⟩ := by
    decide +kernel
  rw [← path]
  rfl

namespace CopiedTo

variable {file : String} {bytes : List UInt8} {location : Location}
  (copied : setting.CopiedTo folder file bytes after location)

include copied

theorem load_eq_of_find? {entry : Entry}
    (found : setting.tree.find? setting.directory
      (root.child Configuration.fileName) = some entry) :
    Configuration.load setting.packages.yaml after setting.directory root =
      Configuration.load setting.packages.yaml setting.tree setting.directory
        root := by
  have gains := copied.gains
  obtain ⟨place, located, -⟩ := Option.bind_eq_some_iff.mp found
  rw [Configuration.load, Configuration.load]
  dsimp only
  rw [FileTree.checkLookup, FileTree.checkLookup,
    gains.lookupError?_eq located, FileTree.contains, FileTree.contains, found,
    gains.find?_of_find? found, gains.readPieces_eq found]

/-- The default folder is no place for a file of settings. -/
theorem not_contains_settings {names : List String} (plain : ".." ∉ names)
    (absent : setting.tree.contains setting.directory
      (Path.child ⟨.root, names⟩ Configuration.fileName) = false)
    (isFolder : folder = ⟨.root, names ++ ["templates", "shortcodes"]⟩) :
    after.contains setting.directory
      (Path.child ⟨.root, names⟩ Configuration.fileName) = false := by
  have plainFolder : ".." ∉ names ++ ["templates", "shortcodes"] := by
    simpa using plain
  have plainFile : ".." ∉ names ++ [Configuration.fileName] := by
    simpa [Configuration.fileName] using plain
  have place : location = names ++ ["templates", "shortcodes"] := by
    have located := copied.located
    rw [isFolder] at located
    have leads := FileTree.eq_append_of_walk plainFolder located
    rwa [List.nil_append] at leads
  have nothing : setting.tree.entry? (names ++ [Configuration.fileName]) =
      none := by
    apply absent_of_not_contains (by decide) _ absent
    intro stands
    exact FileTree.walk_of_hasDirectory plain stands
  rw [FileTree.contains, FileTree.find?]
  cases reached : after.locate? setting.directory
      (Path.child ⟨.root, names⟩ Configuration.fileName) with
  | none => rfl
  | some target =>
      have same := FileTree.eq_append_of_walk plainFile reached
      rw [List.nil_append] at same
      have below : ¬ names ++ [Configuration.fileName] <+:
          names ++ ["templates", "shortcodes"] := by
        rw [List.prefix_append_right_inj]
        decide
      have deeper : names ++ [Configuration.fileName] ≠ location ++ [file] := by
        intro equal
        have lengths := congrArg List.length equal
        simp [place] at lengths
      rw [Option.bind_some, same, copied.gains.entry, if_neg deeper, place,
        if_neg below, nothing]
      rfl

theorem checkLookup_settings {names : List String}
    (looked : setting.tree.checkLookup setting.directory
      (Path.child ⟨.root, names⟩ Configuration.fileName) = .ok ())
    (isFolder : folder = ⟨.root, names ++ ["templates", "shortcodes"]⟩) :
    after.checkLookup setting.directory
      (Path.child ⟨.root, names⟩ Configuration.fileName) = .ok () := by
  have long : after.hasLongName []
      (names ++ [Configuration.fileName]) = false := by
    obtain ⟨-, -, short⟩ := FileTree.checkAccess_eq_ok_iff.mp copied.openAfter
    rw [FileTree.hasLongName_of_walk copied.located, isFolder] at short
    apply FileTree.hasLongName_eq_false
    simp only [Path.join, List.any_append, Bool.or_eq_false_iff] at short ⊢
    exact ⟨short.1, by decide +kernel⟩
  rw [FileTree.checkLookup_eq_ok_iff, FileTree.lookupError?_eq_none_iff]
    at looked ⊢
  apply looked.imp_right
  rintro ⟨short, -⟩
  exact ⟨short, long⟩

theorem load_of_default {written : Path}
    (isRoot : root = setting.directory.resolve written)
    (looked : setting.tree.checkLookup setting.directory
      (root.child Configuration.fileName) = .ok ())
    (absent : setting.tree.contains setting.directory
      (root.child Configuration.fileName) = false)
    (isFolder : folder = root.join ⟨.here, ["templates", "shortcodes"]⟩) :
    Configuration.load setting.packages.yaml after setting.directory root =
      .ok .default := by
  have plain := Path.dots_notMem_resolve setting.directory written
  subst isRoot
  have looks : after.checkLookup setting.directory
      ((setting.directory.resolve written).child Configuration.fileName) =
        .ok () := copied.checkLookup_settings looked isFolder
  have nothing : after.contains setting.directory
      ((setting.directory.resolve written).child Configuration.fileName) =
        false := copied.not_contains_settings plain absent isFolder
  unfold Configuration.load
  dsimp only
  rw [looks, nothing]
  rfl

theorem configuration_eq {configuration : Configuration} {written : Path}
    (isRoot : root = setting.directory.resolve written)
    (loaded : Configuration.load setting.packages.yaml setting.tree
      setting.directory root = .ok configuration)
    (chosen : configuration.templateFolder root = .ok (some folder)) :
    Configuration.load setting.packages.yaml after setting.directory root =
      .ok configuration := by
  cases found : setting.tree.find? setting.directory
      (root.child Configuration.fileName) with
  | some entry => rw [copied.load_eq_of_find? found, loaded]
  | none =>
      have absent : setting.tree.contains setting.directory
          (root.child Configuration.fileName) = false := by
        rw [FileTree.contains, found]
        rfl
      obtain ⟨_, looked, rest⟩ := exists_of_bind_eq_ok loaded
      rw [absent] at rest
      cases Except.ok.inj rest
      rw [default_templateFolder] at chosen
      have isFolder := Option.some.inj (Except.ok.inj chosen)
      exact copied.load_of_default isRoot (eq_ok_of_mapError looked) absent
        isFolder.symm

end CopiedTo

/-! ## The templates stay -/

section Templates

variable {bytes : List UInt8} {location : Location}
  (copied : setting.CopiedTo folder (templateFileName name) bytes after location)

include copied

theorem CopiedTo.copies (named : IsTemplateName name)
    (installed : setting.tree.bytes? setting.directory
      (setting.builtIn.child (templateFileName name)) = some bytes)
    (free : setting.tree.contains setting.directory
      (folder.child (templateFileName name)) = false) :
    (setting.folders (some folder)).Copies after folder name bytes := by
  have gains := copied.gains
  obtain ⟨place, located, stands⟩ :=
    (FileTree.bytes?_child_eq_some_iff (templateFileName_ne name)).mp installed
  refine ⟨named, rfl, installed, ?_, ?_, ?_, ?_⟩
  · rw [FileTree.contains, Option.isSome_eq_false_iff, Option.isNone_iff_eq_none]
      at free
    rw [folders, FileTree.bytes?, free]
  · intro label content
    rw [folders, gains.bytes?_child_iff (templateFileName_ne label)
      copied.located copied.before, templateFileName_inj]
    simp
  · intro label content
    rw [folders, gains.bytes?_child_iff (templateFileName_ne label)
      (gains.locate?_of_locate? located) (fun _ => located),
      templateFileName_inj]
    apply or_iff_right
    rintro ⟨same, -, -⟩
    have absent := gains.absent
    rw [← same, stands] at absent
    cases absent
  · intro other member
    simp only [folders, TemplateFolders.all, Option.toList_some,
      List.cons_append, List.nil_append, List.mem_cons, List.not_mem_nil,
      or_false] at member
    rcases member with rfl | rfl
    · rw [folders, FileTree.lookupError?_of_checkAccess copied.openAfter,
        FileTree.lookupError?_of_checkAccess copied.openBefore]
    · exact gains.lookupError?_eq located

theorem CopiedTo.searchPath_after :
    TemplateFolders.searchPath
      { setting.folders (some folder) with tree := after } =
        [folder, setting.builtIn] := by
  have stands := copied.gains.hasDirectory_iff.mpr (.inl List.prefix_rfl)
  exact TemplateFolders.searchPath_of_isDirectory rfl
    (FileTree.isDirectory_of_locate? copied.located stands)

theorem CopiedTo.searchPath_before
    (stood : setting.tree.hasDirectory location = true) :
    (setting.folders (some folder)).searchPath = [folder, setting.builtIn] :=
  TemplateFolders.searchPath_of_isDirectory rfl
    (FileTree.isDirectory_of_locate? (copied.before stood) stood)

/-- From a folder that is searched only its own name leads to the new file, for
the project's folder is not below the built-in one. -/
theorem CopiedTo.locate?_join_ne
    (holds : setting.tree.HoldsBuiltIns setting.directory setting.builtIn)
    (stood : setting.tree.hasDirectory location = true)
    {place : Path} (searched : place ∈ [folder, setting.builtIn])
    {parts : List String} (plain : ".." ∉ parts)
    (other : parts ≠ [templateFileName name]) :
    setting.tree.locate? setting.directory (place.join ⟨.here, parts⟩) ≠
      some (location ++ [templateFileName name]) := by
  intro reached
  rw [List.mem_cons, List.mem_singleton] at searched
  rcases searched with rfl | rfl
  · have leads := FileTree.eq_append_of_locate?_join plain
      (copied.before stood) reached
    exact other (List.append_cancel_left leads).symm
  · obtain ⟨base, located, files⟩ := holds
    have leads := FileTree.eq_append_of_locate?_join plain located reached
    rcases List.eq_nil_or_concat' parts with rfl | ⟨inner, last, rfl⟩
    · have stands := FileTree.hasDirectory_of_holdsBuiltIns files
      rw [List.append_nil] at leads
      rw [← leads, FileTree.hasDirectory, copied.gains.absent] at stands
      cases stands
    · rw [← List.append_assoc] at leads
      obtain ⟨below, same⟩ := List.append_inj' leads rfl
      cases inner with
      | nil => exact other same.symm
      | cons first rest =>
          -- The first directory on the way would be among the built-in files.
          have above : base ++ [first] <+: location := ⟨rest, by simp [below]⟩
          have stands := FileTree.hasDirectory_of_below stood above
          obtain ⟨_, _, _, isFile⟩ :=
            (files _ _).mp (FileTree.hasDirectory_iff.mp stands)
          cases isFile

theorem CopiedTo.find?_eq_of_ne
    (holds : setting.tree.HoldsBuiltIns setting.directory setting.builtIn)
    (stood : setting.tree.hasDirectory location = true)
    {parts : List String} (plain : ".." ∉ parts)
    (other : parts ≠ [templateFileName name]) :
    TemplateFolders.find? { setting.folders (some folder) with tree := after }
        parts = (setting.folders (some folder)).find? parts := by
  unfold TemplateFolders.find?
  rw [copied.searchPath_after, copied.searchPath_before stood]
  apply findSome?_congr
  intro place member
  dsimp only [folders]
  rw [copied.gains.bytes?_eq_of_ne stood
    (copied.locate?_join_ne holds stood member plain other)]

/-- Where the project had a folder of templates, the same can be fetched from the
folders as before. -/
theorem CopiedTo.fetch_eq
    (copies : (setting.folders (some folder)).Copies after folder name bytes)
    (holds : setting.tree.HoldsBuiltIns setting.directory setting.builtIn)
    (stood : setting.tree.hasDirectory location = true) (engine : Engine) :
    TemplateFolders.fetch { setting.folders (some folder) with tree := after }
        engine = (setting.folders (some folder)).fetch engine := by
  funext label
  unfold TemplateFolders.fetch
  cases parted : templateParts? label with
  | none => rfl
  | some parts =>
      have plain := dots_notMem_of_templateParts? parted
      dsimp only
      by_cases own : parts = [templateFileName name]
      · subst own
        have found : TemplateFolders.find? _ [templateFileName name] = _ :=
          copies.source?_before
        have foundAfter : TemplateFolders.find? _ [templateFileName name] = _ :=
          copies.source?_name
        rw [found, foundAfter]
      · rw [copied.find?_eq_of_ne holds stood plain own, copied.searchPath_after,
          copied.searchPath_before stood]

/-- The templates of the project are rendered as before: if its folder was not
there, they are the built-in ones, which fetch no other templates. -/
theorem CopiedTo.rendersAlike {engine : Engine} {registry : Registry engine}
    (copies : (setting.folders (some folder)).Copies after folder name bytes)
    (holds : setting.tree.HoldsBuiltIns setting.directory setting.builtIn)
    (knows : engine.KnowsBuiltIns)
    (loaded : (setting.folders (some folder)).load engine = .ok registry) :
    registry.RendersAlike (TemplateFolders.fetch
      { setting.folders (some folder) with tree := after } engine) := by
  have made := TemplateFolders.madeFrom_of_load loaded
  intro label template found context
  by_cases stood : setting.tree.hasDirectory location = true
  · rw [made.fetches, copied.fetch_eq copies holds stood]
  · obtain ⟨content, source, compiled⟩ :=
      (made.served label template found).source
    rcases TemplateFolders.source?_eq_some_iff.mp source with
      ⟨own, isUser, path, stands⟩ | ⟨-, path, stands⟩
    · cases isUser
      rw [path, folders, FileTree.bytes?_child_eq_some_iff
        (templateFileName_ne label)] at stands
      obtain ⟨place, located, isFile⟩ := stands
      have same := copied.gains.locate?_of_locate? located
      cases copied.located.symm.trans same
      exact absurd (FileTree.hasDirectory_of_entry isFile) stood
    · rw [path] at stands
      obtain ⟨text, member, rfl⟩ := holds.exists_mem stands
      exact knows.alone label text _ member
        ((BuiltIn.compilesTo_iff_of_mem member).mp compiled) _ _ _

end Templates

/-! ## Ejecting -/

/-- Only the copy of the template is new, and nothing that the project's pages
come to depends on it. -/
structure KeepsPages (setting : Setting) (root folder : Path) (name : String)
    (bytes : List UInt8) (after : FileTree) : Prop where
  files : ∃ location,
    after.locate? setting.directory (folder.child (templateFileName name)) =
      some location ∧
    setting.tree.entry? location = none ∧
    ∀ place content, after.entry? place = some (.file content) ↔
      (place = location ∧ content = bytes) ∨
        setting.tree.entry? place = some (.file content)
  settings :
    Configuration.load setting.packages.yaml after setting.directory root =
      Configuration.load setting.packages.yaml setting.tree setting.directory
        root
  failures : ∀ failure,
    (setting.folders (some folder)).load setting.packages.templates =
        .error failure ↔
      TemplateFolders.load { setting.folders (some folder) with tree := after }
        setting.packages.templates = .error failure
  registries : ∀ registry,
    (setting.folders (some folder)).load setting.packages.templates =
        .ok registry →
      ∃ other, TemplateFolders.load
          { setting.folders (some folder) with tree := after }
          setting.packages.templates = .ok other ∧
        (other.find? name).map (·.origin) = some .user ∧
        (∀ label, label ≠ name → (other.find? label).map (·.origin) =
          (registry.find? label).map (·.origin)) ∧
        ∀ document page site, other.store.expand document page site =
          registry.store.expand document page site

theorem ofString_of_mem {text : String}
    (shipped : (name, text) ∈ BuiltIn.templates) :
    Path.ofString (name ++ templateSuffix) =
      ⟨.here, [templateFileName name]⟩ := by
  have all : ∀ named ∈ BuiltIn.templates,
      Path.ofString (named.1 ++ templateSuffix) =
        ⟨.here, [templateFileName named.1]⟩ := by
    simp only [BuiltIn.templates, List.forall_mem_cons]
    refine ⟨?_, ?_, ?_, ?_, ?_, ?_, List.forall_mem_nil _⟩
    all_goals decide +kernel
  exact all _ shipped

theorem targetFolder_eq {configuration : Configuration}
    (loaded : setting.configuration root = .ok configuration)
    (chosen : configuration.templateFolder root = .ok (some folder)) :
    setting.targetFolder root = .ok folder := by
  rw [targetFolder, loaded]
  dsimp only
  rw [chosen]

/-- Ejecting a built-in template changes no page, whatever the templates of the
project are, as long as two dots in their path only leave directories that are
there. -/
theorem eject_keeps_pages {text : String} {configuration : Configuration}
    (knows : setting.packages.templates.KnowsBuiltIns)
    (holds : setting.tree.HoldsBuiltIns setting.directory setting.builtIn)
    (shipped : (name, text) ∈ BuiltIn.templates)
    (loaded : setting.configuration (setting.root project) =
      .ok configuration)
    (chosen : configuration.templateFolder (setting.root project) =
      .ok (some folder))
    (dots : setting.tree.DotsLeaveDirectories
      (setting.directory.join folder).names)
    (done : (setting.eject name project false).exit = 0) :
    setting.KeepsPages (setting.root project) folder name
      (Text.Utf8.encode text.toList)
      (setting.eject name project false).tree := by
  have installed := holds.bytes? shipped
  have named := BuiltIn.isTemplateName_of_mem shipped
  obtain ⟨other, file, bytes, ejected, copied, -⟩ := exists_of_exit done
  generalize (setting.eject name project false).tree = after at copied ⊢
  have joined : setting.builtIn.join (Path.ofString (name ++ templateSuffix)) =
      setting.builtIn.child (templateFileName name) := by
    rw [ofString_of_mem shipped]
    rfl
  obtain ⟨_, rfl, found, rfl, isTarget, free⟩ := exists_of_toEject ejected
  rw [joined, Path.name_child] at copied free
  rw [joined] at found
  cases installed.symm.trans found
  cases (targetFolder_eq loaded chosen).symm.trans isTarget
  replace free := free rfl
  obtain ⟨location, copied⟩ :=
    exists_of_copyInto (templateFileName_ne name) dots free copied
  have copies := copied.copies named installed free
  have load := eq_ok_of_mapError loaded
  obtain ⟨compiled, compiles⟩ := knows.compiles name text shipped
  have moved := copies.load_eq
    ⟨compiled, (BuiltIn.compilesTo_iff_of_mem shipped).mpr compiles⟩
  have isDirectory := copied.gains.hasDirectory_iff.mpr (.inl List.prefix_rfl)
  refine ⟨⟨location ++ [templateFileName name], ?_, copied.gains.absent, ?_⟩,
    ?_, ?_, ?_⟩
  · rw [FileTree.locate?_child (templateFileName_ne name), copied.located,
      Option.bind_some, if_pos isDirectory]
  · intro place content
    exact copied.gains.file_iff
  · rw [load]
    exact copied.configuration_eq rfl load chosen
  · intro failure
    rw [moved]
    cases (setting.folders (some folder)).load setting.packages.templates with
    | error other => exact Iff.rfl
    | ok registry => simp [Except.map]
  · intro registry made
    obtain ⟨template, found⟩ := copies.exists_find?_name made
    have alike := copied.rendersAlike copies holds knows made
    rw [moved, made]
    refine ⟨_, rfl, Registry.origin_moved found, ?_, ?_⟩
    · intro label different
      exact Registry.origin_moved_of_ne different
    · intro document page site
      rw [Registry.store_moved alike]

/-! ## Two projects -/

/-- The folder of the built-in templates, and its files. -/
def installedEntries : List (Location × Entry) :=
  (["b"], .directory) :: BuiltIn.templates.map fun named =>
    (["b", templateFileName named.1], .file (Text.Utf8.encode named.2.toList))

theorem holdsBuiltIns_of_entries {tree : FileTree}
    (others : List (Location × Entry))
    (entries : tree.entries = installedEntries ++ others)
    (apart : ∀ found ∈ others, found.1.head? ≠ some "b") :
    tree.HoldsBuiltIns ⟨.root, []⟩ ⟨.root, ["b"]⟩ := by
  refine ⟨["b"], ?_, ?_⟩
  · change tree.walk [] ["b"] = some ["b"]
    rw [FileTree.walk, if_pos (FileTree.hasDirectory_nil tree)]
    rfl
  · intro file entry
    rw [FileTree.entry_eq_some_iff (by simp), entries, List.mem_append]
    constructor
    · rintro (here | elsewhere)
      · obtain ⟨named, member, same⟩ :=
          List.mem_map.mp (List.mem_of_ne_of_mem (by simp) here)
        obtain ⟨location, rfl⟩ := Prod.mk.inj same
        simp only [List.cons_append, List.nil_append, List.cons.injEq,
          and_true, true_and] at location
        exact ⟨named, member, location.symm, rfl⟩
      · exact absurd rfl (apart _ elsewhere)
    · rintro ⟨named, member, rfl, rfl⟩
      exact .inl (List.mem_cons_of_mem _ (List.mem_map.mpr ⟨named, member, rfl⟩))

/-- A project without a file of settings. -/
def openProject : Setting where
  packages := .standard
  tree := BuiltIn.templates.foldl (fun tree named =>
    tree.addFile ["b", templateFileName named.1]
      (Text.Utf8.encode named.2.toList)) .empty
  directory := ⟨.root, []⟩
  builtIn := ⟨.root, ["b"]⟩
  width := 80

theorem holdsBuiltIns_openProject :
    openProject.tree.HoldsBuiltIns ⟨.root, []⟩ ⟨.root, ["b"]⟩ :=
  holdsBuiltIns_of_entries [] rfl (List.forall_mem_nil _)

theorem eject_keeps_pages_of_openProject :
    (openProject.eject "gist" none false).exit = 0 ∧
      openProject.KeepsPages ⟨.root, []⟩
        ⟨.root, ["templates", "shortcodes"]⟩ "gist"
        (Text.Utf8.encode BuiltIn.gist.toList)
        (openProject.eject "gist" none false).tree := by
  have done : (openProject.eject "gist" none false).exit = 0 := by
    decide +kernel
  have shipped : ("gist", BuiltIn.gist) ∈ BuiltIn.templates := by
    simp [BuiltIn.templates]
  have loaded : openProject.configuration (openProject.root none) =
      .ok .default := rfl
  have plain : ".." ∉ ["templates", "shortcodes"] := by decide
  have dots : openProject.tree.DotsLeaveDirectories
      ["templates", "shortcodes"] :=
    ⟨[], _, [], rfl, plain, rfl, FileTree.hasDirectory_nil _⟩
  exact ⟨done, eject_keeps_pages Template.knowsBuiltIns_interpreter
    holdsBuiltIns_openProject shipped loaded (default_templateFolder _) dots
    done⟩

/-- The path of the templates leaves a directory that is not there, and leads
to a template of the project once the directory is made. -/
def dottedProject : Setting :=
  { openProject with
    tree := (openProject.tree.addFile ["t", "gist.html"] [65]).addFile
      ["sigil.yaml"] (Text.Utf8.encode "shortcodes_dir: a/../t\n".toList) }

theorem holdsBuiltIns_dottedProject :
    dottedProject.tree.HoldsBuiltIns ⟨.root, []⟩ ⟨.root, ["b"]⟩ := by
  apply holdsBuiltIns_of_entries [(["t"], .directory),
    (["t", "gist.html"], .file [65]), (["sigil.yaml"], .file
      (Text.Utf8.encode "shortcodes_dir: a/../t\n".toList))] rfl
  simp

theorem not_keeps_pages_of_exit :
    ¬ ∀ (setting : Setting) (name text : String) (project : Option Path)
      (configuration : Configuration) (folder : Path),
      setting.packages.templates.KnowsBuiltIns →
      setting.tree.HoldsBuiltIns setting.directory setting.builtIn →
      (name, text) ∈ BuiltIn.templates →
      setting.configuration (setting.root project) = .ok configuration →
      configuration.templateFolder (setting.root project) =
        .ok (some folder) →
      (setting.eject name project false).exit = 0 →
      setting.KeepsPages (setting.root project) folder name
        (Text.Utf8.encode text.toList)
        (setting.eject name project false).tree := by
  intro keeps
  have shown : (match dottedProject.configuration ⟨.root, []⟩ with
      | .ok configuration =>
        match configuration.templateFolder ⟨.root, []⟩ with
        | .ok folder => folder
        | .error _ => none
      | .error _ => none) = some ⟨.root, ["a", "..", "t"]⟩ := by
    decide +kernel
  cases loaded : dottedProject.configuration ⟨.root, []⟩ with
  | error failure => simp [loaded] at shown
  | ok configuration =>
      rw [loaded] at shown
      dsimp only at shown
      split at shown
      · rename_i folder chosen
        subst shown
        have shipped : ("gist", BuiltIn.gist) ∈ BuiltIn.templates := by
          simp [BuiltIn.templates]
        have done : (dottedProject.eject "gist" none false).exit = 0 := by
          decide +kernel
        have kept := keeps dottedProject "gist" BuiltIn.gist none configuration
          _ Template.knowsBuiltIns_interpreter holdsBuiltIns_dottedProject
          shipped loaded chosen done
        obtain ⟨location, located, absent, -⟩ := kept.files
        have leads : (dottedProject.eject "gist" none false).tree.locate?
            dottedProject.directory ⟨.root, ["a", "..", "t", "gist.html"]⟩ =
              some ["t", "gist.html"] := by
          decide +kernel
        cases leads.symm.trans located
        cases absent
      · cases shown

end Shortcode.CommandLine.Setting
