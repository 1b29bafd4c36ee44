import Shortcode.Proofs.ContactForm.Tree
import Shortcode.Proofs.Registry.Loading

/-!
# Built-in templates compile

The texts of the built-in templates are plain ASCII, so their bytes are read
back as they are, and each of them is the text of a template.  A registry has them where the loader
finds no other file under their names.
-/

namespace Shortcode

open Template (Engine interpreter)

theorem Template.compile_eq_ok_iff {name text : String}
    {compiled : ReadTemplate} :
    interpreter.compile name text = .ok compiled ↔
      compiled.name = name ∧ Tree.read name text = .ok compiled.tree := by
  obtain ⟨file, own⟩ := compiled
  change ((Tree.read name text).mapError _).map _ = _ ↔ _
  cases Tree.read name text with
  | error error => exact ⟨nofun, nofun⟩
  | ok tree =>
      constructor
      · intro same
        cases same
        exact ⟨rfl, rfl⟩
      · rintro ⟨rfl, same⟩
        cases same
        rfl

namespace Text.Utf8

theorem encodeChar_of_lt {char : Char} (ascii : char.toNat < 128) :
    encodeChar char = [UInt8.ofNat char.toNat] := by
  have small : char.val.toNat ≤ 127 := by
    have same : char.val.toNat = char.toNat := rfl
    omega
  rw [encodeChar, String.utf8EncodeChar]
  exact if_pos small

theorem decodeFrom_encode {text : List Char}
    (ascii : ∀ char ∈ text, char.toNat < 128) (offset : Nat) :
    decodeFrom (encode text).length offset (encode text) = .ok text := by
  induction text generalizing offset with
  | nil => rfl
  | cons char rest induction =>
      rw [List.forall_mem_cons] at ascii
      have bytes : encode (char :: rest) =
          UInt8.ofNat char.toNat :: encode rest := by
        rw [encode, List.flatMap_cons, encodeChar_of_lt ascii.1]
        rfl
      have value : (UInt8.ofNat char.toNat).toNat = char.toNat := by
        rw [UInt8.toNat_ofNat']
        omega
      have lead : leadOf? char.toNat = some (0, char.toNat, 0, 0) := if_pos ascii.1
      rw [bytes, List.length_cons, decodeFrom, value, lead]
      dsimp only [continuation]
      rw [induction ascii.2]
      simp [Except.map]

theorem decode_encode {text : List Char}
    (ascii : ∀ char ∈ text, char.toNat < 128) :
    decode (encode text) = .ok text :=
  decodeFrom_encode ascii 0

end Text.Utf8

namespace BuiltIn

variable {name text : String}

/-- A text in plain ASCII without carriage returns. -/
def isPlain (text : String) : Bool :=
  text.toList.all fun char => char.toNat < 128 && char != '\r'

theorem isPlain_of_mem (member : (name, text) ∈ templates) :
    isPlain text = true := by
  have all : ∀ named ∈ templates, isPlain named.2 = true := by
    unfold isPlain
    -- The characters of the texts are laid open before the kernel reads them.
    simp only [templates, List.forall_mem_cons, callout, contactForm, figure,
      gist, vimeo, youtube, toList_ofLines, List.flatMap_cons,
      List.flatMap_nil, String.toList_append]
    repeat rw [String.toList_ofList]
    refine ⟨?_, ?_, ?_, ?_, ?_, ?_, List.forall_mem_nil _⟩
    all_goals decide +kernel
  exact all (name, text) member

/-- A text that is the text of a template. -/
def isTemplate (name text : String) : Bool :=
  (Template.Tree.read (templateFileName name) text).toOption.isSome

theorem isTemplate_contactForm :
    isTemplate "contact_form" contactForm = true := by
  obtain ⟨tree, read, -⟩ := ContactForm.read_contactForm
  rw [isTemplate, read]
  rfl

theorem isTemplate_of_mem (member : (name, text) ∈ templates) :
    isTemplate name text = true := by
  have all : ∀ named ∈ templates, isTemplate named.1 named.2 = true := by
    simp only [templates, List.forall_mem_cons]
    refine ⟨?_, isTemplate_contactForm, ?_, ?_, ?_, ?_, List.forall_mem_nil _⟩
    all_goals
      unfold isTemplate Template.Tree.read Template.scan
      simp only [callout, figure, gist, vimeo, youtube, toList_ofLines,
        List.flatMap_cons, List.flatMap_nil, String.toList_append]
      repeat rw [String.toList_ofList]
      decide +kernel
  exact all (name, text) member

theorem decode_encode_of_mem (member : (name, text) ∈ templates) :
    Text.Utf8.decode (Text.Utf8.encode text.toList) = .ok text.toList := by
  have plain := isPlain_of_mem member
  rw [isPlain, List.all_eq_true] at plain
  apply Text.Utf8.decode_encode
  intro char inText
  have both := plain char inText
  rw [Bool.and_eq_true, decide_eq_true_eq] at both
  exact both.1

theorem unixLines_of_mem (member : (name, text) ∈ templates) :
    Text.unixLines text.toList = text.toList := by
  have plain := isPlain_of_mem member
  rw [isPlain, List.all_eq_true] at plain
  apply Text.unixLines_of_notMem
  intro inText
  exact absurd (plain '\r' inText) (by decide)

theorem compilesTo_iff_of_mem {engine : Engine} {compiled : engine.Compiled}
    (member : (name, text) ∈ templates) :
    CompilesTo engine name (Text.Utf8.encode text.toList) compiled ↔
      engine.compile (templateFileName name) text = .ok compiled := by
  unfold CompilesTo
  rw [decode_encode_of_mem member]
  simp only [Except.ok.injEq, exists_eq_left']
  rw [unixLines_of_mem member, String.ofList_toList]

theorem isTemplateName_of_mem (member : (name, text) ∈ templates) :
    IsTemplateName name := by
  have all : ∀ named ∈ templates,
      named.1 ≠ "" ∧ '/' ∉ named.1.toList := by
    simp only [templates, List.forall_mem_cons]
    decide
  obtain ⟨nonempty, single⟩ := all (name, text) member
  exact ⟨nonempty, single⟩

/-- The interpreter compiles the built-in templates. -/
theorem exists_compile_of_mem (member : (name, text) ∈ templates) :
    ∃ compiled, interpreter.compile (templateFileName name) text =
      .ok compiled := by
  obtain ⟨tree, found⟩ := Option.isSome_iff_exists.mp (isTemplate_of_mem member)
  exact ⟨⟨templateFileName name, tree⟩,
    Template.compile_eq_ok_iff.mpr ⟨rfl, eq_ok_of_toOption found⟩⟩

end BuiltIn

/-- An engine compiles the built-in templates, and renders them without fetching
another one. -/
structure Template.Engine.KnowsBuiltIns (engine : Engine) : Prop where
  compiles : ∀ name text, (name, text) ∈ BuiltIn.templates →
    ∃ compiled, engine.compile (templateFileName name) text = .ok compiled
  alone : ∀ name text compiled, (name, text) ∈ BuiltIn.templates →
    engine.compile (templateFileName name) text = .ok compiled →
      ∀ fetch other context,
        engine.render fetch compiled context =
          engine.render other compiled context

theorem Template.knowsBuiltIns_interpreter : interpreter.KnowsBuiltIns where
  compiles _ _ := BuiltIn.exists_compile_of_mem
  alone _ _ _ _ _ _ _ _ := rfl

/-- A folder has the files of the built-in templates, and nothing else. -/
def FileTree.HoldsBuiltIns (tree : FileTree) (directory folder : Path) : Prop :=
  ∃ location, tree.locate? directory folder = some location ∧
    ∀ file entry, tree.entry? (location ++ [file]) = some entry ↔
      ∃ named ∈ BuiltIn.templates, file = templateFileName named.1 ∧
        entry = .file (Text.Utf8.encode named.2.toList)

namespace FileTree

variable {tree : FileTree} {directory folder : Path} {location : Location}

theorem hasDirectory_of_holdsBuiltIns
    (files : ∀ file entry, tree.entry? (location ++ [file]) = some entry ↔
      ∃ named ∈ BuiltIn.templates, file = templateFileName named.1 ∧
        entry = .file (Text.Utf8.encode named.2.toList)) :
    tree.hasDirectory location = true := by
  have member : ("gist", BuiltIn.gist) ∈ BuiltIn.templates := by
    simp [BuiltIn.templates]
  exact hasDirectory_of_entry ((files _ _).mpr ⟨_, member, rfl, rfl⟩)

theorem HoldsBuiltIns.bytes? (holds : tree.HoldsBuiltIns directory folder)
    {name text : String} (member : (name, text) ∈ BuiltIn.templates) :
    tree.bytes? directory (folder.child (templateFileName name)) =
      some (Text.Utf8.encode text.toList) := by
  obtain ⟨location, located, files⟩ := holds
  rw [bytes?_child_eq_some_iff (templateFileName_ne name)]
  exact ⟨location, located, (files _ _).mpr ⟨_, member, rfl, rfl⟩⟩

theorem HoldsBuiltIns.exists_mem (holds : tree.HoldsBuiltIns directory folder)
    {name : String} {bytes : List UInt8}
    (found : tree.bytes? directory (folder.child (templateFileName name)) =
      some bytes) :
    ∃ text, (name, text) ∈ BuiltIn.templates ∧
      bytes = Text.Utf8.encode text.toList := by
  obtain ⟨location, located, files⟩ := holds
  rw [bytes?_child_eq_some_iff (templateFileName_ne name)] at found
  obtain ⟨place, reached, stands⟩ := found
  cases located.symm.trans reached
  obtain ⟨⟨label, text⟩, member, same, isFile⟩ := (files _ _).mp stands
  cases isFile
  rw [templateFileName_inj] at same
  exact ⟨text, same ▸ member, rfl⟩

end FileTree

/-- The registry has the built-in template of a name under it. -/
def Registry.HasBuiltIn (registry : Registry interpreter) (name : String) :
    Prop :=
  ∃ template text, registry.find? name = some template ∧
    (name, text) ∈ BuiltIn.templates ∧
    interpreter.compile (templateFileName name) text = .ok template.compiled

namespace TemplateFolders

variable {folders : TemplateFolders} {name text : String} {path : Path}

theorem exists_compile_of_load {engine : Engine} {registry : Registry engine}
    (loaded : folders.load engine = .ok registry)
    (member : (name, text) ∈ BuiltIn.templates)
    (found : folders.source? name =
      some (path, Text.Utf8.encode text.toList)) :
    ∃ template, registry.find? name = some template ∧
      engine.compile (templateFileName name) text = .ok template.compiled := by
  have named := BuiltIn.isTemplateName_of_mem member
  obtain ⟨folder, among, stands⟩ := exists_source?_iff.mp ⟨path, _, found⟩
  obtain ⟨template, known⟩ := exists_find?_of_isFile loaded among named stands
  have served := (madeFrom_of_load loaded).served _ template known
  obtain ⟨bytes, source, compiled⟩ := served.source
  rw [found] at source
  obtain ⟨-, rfl⟩ := Prod.mk.inj (Option.some.inj source)
  exact ⟨template, known, (BuiltIn.compilesTo_iff_of_mem member).mp compiled⟩

/-- A registry has a built-in template if its loader finds the text of it. -/
theorem hasBuiltIn_of_load {registry : Registry interpreter}
    (loaded : folders.load interpreter = .ok registry)
    (member : (name, text) ∈ BuiltIn.templates)
    (found : folders.source? name =
      some (path, Text.Utf8.encode text.toList)) :
    registry.HasBuiltIn name := by
  obtain ⟨template, known, compiled⟩ :=
    exists_compile_of_load loaded member found
  exact ⟨template, text, known, member, compiled⟩

end TemplateFolders

end Shortcode
