import Mathlib.Data.List.Nodup
import Shortcode.FileTree
import Shortcode.Proofs.Text.Search

/-!
# What paths lead to

A path is followed name by name.  The files listed in a directory are those to
which the names in it lead.
-/

namespace Shortcode

namespace Path

theorem names_join_join (directory folder : Path) (names : List String) :
    (directory.join (folder.join ⟨.here, names⟩)).names =
      (directory.join folder).names ++ names := by
  cases folder with
  | mk anchor first => cases anchor <;> simp [join]

theorem names_join_child (directory folder : Path) (name : String) :
    (directory.join (folder.child name)).names =
      (directory.join folder).names ++ [name] :=
  names_join_join directory folder [name]

theorem step_of_ne {name : String} (plain : name ≠ "..")
    (names : List String) : step names name = names ++ [name] := by
  rw [step, if_neg (by simpa using plain)]

@[simp]
theorem name_child (folder : Path) (file : String) :
    (folder.child file).name = file := by
  simp [name, child]

/-- A suffix of its own is what a name ends in, unless it is all of it. -/
theorem splitSuffix_eq_iff {file name suffix : String}
    (absent : '.' ∉ suffix.toList) (nonempty : suffix ≠ "") :
    splitSuffix file = (name, "." ++ suffix) ↔
      file = name ++ ("." ++ suffix) ∧ name ≠ "" := by
  have characters : ("." ++ suffix).toList = '.' :: suffix.toList := by simp
  have tail : suffix.toList ≠ [] := by simpa using nonempty
  constructor
  · intro split
    unfold splitSuffix at split
    cases found : Text.splitAtLast? '.' file.toList with
    | none => simp [found, ← String.toList_inj] at split
    | some parts =>
        obtain ⟨before, after⟩ := parts
        rw [found] at split
        dsimp only at split
        split at split
        · simp [← String.toList_inj] at split
        · rename_i inner
          obtain ⟨rfl, same⟩ := Prod.mk.inj split
          have after_eq : after = suffix.toList := by
            simpa [← String.toList_inj] using same
          subst after_eq
          have text := (Text.eq_append_of_splitAtLast? found).1
          refine ⟨by simp [← String.toList_inj, text], ?_⟩
          intro empty
          simp [← String.toList_inj] at empty
          simp [empty] at inner
  · rintro ⟨rfl, named⟩
    have found : Text.splitAtLast? '.' (name ++ ("." ++ suffix)).toList =
        some (name.toList, suffix.toList) := by
      rw [String.toList_append, characters]
      exact Text.splitAtLast?_append absent name.toList
    have head : name.toList ≠ [] := by simpa using named
    rw [splitSuffix, found]
    simp [head, tail]

end Path

namespace FileTree

variable {tree : FileTree} {directory folder : Path} {location : Location}

theorem hasDirectory_iff :
    tree.hasDirectory location = true ↔
      tree.entry? location = some .directory := by
  simp [hasDirectory]

theorem walk_append (tree : FileTree) (location : Location)
    (names more : List String) :
    tree.walk location (names ++ more) =
      (tree.walk location names).bind (tree.walk · more) := by
  induction names generalizing location with
  | nil => rfl
  | cons name rest induction =>
      simp only [List.cons_append, walk]
      split
      · exact induction _
      · rfl

/-- Without two dots a path leads below where it starts. -/
theorem eq_append_of_walk {target : Location} {names : List String}
    (plain : ".." ∉ names) (walked : tree.walk location names = some target) :
    target = location ++ names := by
  induction names generalizing location with
  | nil =>
      cases walked
      simp
  | cons name rest induction =>
      rw [List.mem_cons, not_or] at plain
      rw [walk, Path.step_of_ne (Ne.symm plain.1)] at walked
      split at walked
      · rw [induction plain.2 walked]
        simp
      · cases walked

theorem eq_append_of_locate?_join {base target : Location}
    {names : List String} (plain : ".." ∉ names)
    (located : tree.locate? directory folder = some base)
    (reached : tree.locate? directory (folder.join ⟨.here, names⟩) =
      some target) : target = base ++ names := by
  rw [locate?] at located
  rw [locate?, Path.names_join_join, walk_append, located, Option.bind_some]
    at reached
  exact eq_append_of_walk plain reached

theorem lookup_eq_some_iff {entries : List (Location × Entry)}
    (distinct : (entries.map (·.1)).Nodup) {entry : Entry} :
    entries.lookup location = some entry ↔ (location, entry) ∈ entries := by
  induction entries with
  | nil => simp
  | cons first rest induction =>
      obtain ⟨other, found⟩ := first
      rw [List.map_cons, List.nodup_cons] at distinct
      rw [lookup_cons, List.mem_cons, ← induction distinct.2]
      by_cases same : location = other
      · subst same
        have absent : rest.lookup location ≠ some entry := by
          intro later
          have member := (induction distinct.2).mp later
          exact distinct.1 (List.mem_map.mpr ⟨_, member, rfl⟩)
        simp [absent, eq_comm]
      · simp [same]

theorem entry_eq_some_iff (below : location ≠ []) {entry : Entry} :
    tree.entry? location = some entry ↔ (location, entry) ∈ tree.entries := by
  unfold entry? entryAmong?
  rw [if_neg (by simpa using below)]
  exact lookup_eq_some_iff tree.distinct

theorem hasDirectory_nil (tree : FileTree) : tree.hasDirectory [] = true := by
  simp [hasDirectory, entry?, entryAmong?]

/-- What stands below the root stands in a directory. -/
theorem hasDirectory_of_entry {name : String} {entry : Entry}
    (found : tree.entry? (location ++ [name]) = some entry) :
    tree.hasDirectory location = true := by
  have member := (entry_eq_some_iff (by simp)).mp found
  have above := (tree.rooted _ member).2
  simpa [hasDirectory, entry?] using above

theorem isDirectory_of_locate?
    (located : tree.locate? directory folder = some location)
    (stands : tree.hasDirectory location = true) :
    tree.isDirectory directory folder = true := by
  rw [isDirectory, find?, located, Option.bind_some, hasDirectory_iff.mp stands]
  rfl

theorem nameIn?_eq_some_iff {here : Location} {name : String} :
    nameIn? location here = some name ↔ here = location ++ [name] := by
  unfold nameIn?
  cases last : here.getLast? with
  | none =>
      rw [List.getLast?_eq_none_iff.mp last]
      simp
  | some final =>
      obtain ⟨lead, rfl⟩ := List.getLast?_eq_some_iff.mp last
      rw [List.dropLast_concat]
      by_cases same : lead = location
      · simp [same]
      · simp [same]

theorem fileIn?_eq_some_iff {found : Location × Entry} {name : String}
    {bytes : List UInt8} :
    fileIn? location found = some (name, bytes) ↔
      found = (location ++ [name], .file bytes) := by
  obtain ⟨here, entry⟩ := found
  cases entry with
  | directory => simp [fileIn?]
  | file content => simp [fileIn?, nameIn?_eq_some_iff]

theorem mem_filesIn_iff {name : String} {bytes : List UInt8} :
    (name, bytes) ∈ tree.filesIn location ↔
      tree.entry? (location ++ [name]) = some (.file bytes) := by
  rw [entry_eq_some_iff (by simp), filesIn, List.mem_filterMap]
  simp [fileIn?_eq_some_iff]

theorem nodup_filesIn (tree : FileTree) (location : Location) :
    ((tree.filesIn location).map (·.1)).Nodup := by
  have distinct := tree.distinct
  rw [List.Nodup, List.pairwise_map] at distinct ⊢
  rw [filesIn, List.pairwise_filterMap]
  refine distinct.imp ?_
  rintro found other different ⟨name, bytes⟩ listed ⟨again, content⟩ second
    rfl
  rw [fileIn?_eq_some_iff.mp listed, fileIn?_eq_some_iff.mp second] at different
  exact different rfl

theorem bytes?_eq_some_iff {path : Path} {bytes : List UInt8} :
    tree.bytes? directory path = some bytes ↔
      ∃ location, tree.locate? directory path = some location ∧
        tree.entry? location = some (.file bytes) := by
  unfold bytes? find?
  cases tree.locate? directory path with
  | none => simp
  | some location =>
      cases found : tree.entry? location with
      | none => simp [found]
      | some entry => cases entry <;> simp [found]

theorem locate?_child {file : String} (plain : file ≠ "..") :
    tree.locate? directory (folder.child file) =
      (tree.locate? directory folder).bind fun location =>
        if tree.hasDirectory location then some (location ++ [file])
        else none := by
  rw [locate?, Path.names_join_child, walk_append]
  apply Option.bind_congr
  intro location _
  rw [walk, Path.step_of_ne plain]
  rfl

/-- A file in a directory is where the directory's path and its own name
lead. -/
theorem bytes?_child_eq_some_iff {file : String} (plain : file ≠ "..")
    {bytes : List UInt8} :
    tree.bytes? directory (folder.child file) = some bytes ↔
      ∃ location, tree.locate? directory folder = some location ∧
        tree.entry? (location ++ [file]) = some (.file bytes) := by
  rw [bytes?_eq_some_iff, locate?_child plain]
  constructor
  · rintro ⟨target, reached, found⟩
    obtain ⟨location, located, below⟩ := Option.bind_eq_some_iff.mp reached
    split at below
    · cases below
      exact ⟨location, located, found⟩
    · cases below
  · rintro ⟨location, located, found⟩
    refine ⟨location ++ [file], ?_, found⟩
    rw [located, Option.bind_some, if_pos (hasDirectory_of_entry found)]

/-! ## Trees with the same directories -/

section SameDirectories

variable {other : FileTree}
  (same : ∀ location, other.hasDirectory location = tree.hasDirectory location)

include same

theorem walk_congr (location : Location) (names : List String) :
    other.walk location names = tree.walk location names := by
  induction names generalizing location with
  | nil => rfl
  | cons name rest induction => rw [walk, walk, same, induction]

theorem locate?_congr (directory path : Path) :
    other.locate? directory path = tree.locate? directory path :=
  walk_congr same [] _

theorem hasLongName_congr (location : Location) (names : List String) :
    other.hasLongName location names = tree.hasLongName location names := by
  induction names generalizing location with
  | nil => rfl
  | cons name rest induction =>
      rw [hasLongName, hasLongName, same, induction]

theorem lookupError?_congr (directory path : Path) :
    other.lookupError? directory path = tree.lookupError? directory path := by
  rw [lookupError?, lookupError?, hasLongName_congr same]

end SameDirectories

theorem hasDirectory_write (free : tree.canHold location = true)
    (bytes : List UInt8) (other : Location) :
    (tree.write location bytes).hasDirectory other =
      tree.hasDirectory other := by
  have isNone : tree.hasDirectory location = false := by
    simpa using (Bool.and_eq_true_iff.mp free).2
  unfold hasDirectory write
  rw [entry_put free]
  by_cases here : other = location
  · rw [if_pos here, here]
    simpa [hasDirectory] using isNone.symm
  · rw [if_neg here]

theorem bytes?_write_of_ne (free : tree.canHold location = true)
    (bytes : List UInt8) {path : Path}
    (elsewhere : tree.locate? directory path ≠ some location) :
    (tree.write location bytes).bytes? directory path =
      tree.bytes? directory path := by
  unfold bytes? find?
  rw [locate?_congr (hasDirectory_write free bytes)]
  cases located : tree.locate? directory path with
  | none => rfl
  | some target =>
      have different : target ≠ location := by
        rintro rfl
        exact elsewhere located
      rw [Option.bind_some, Option.bind_some, write, entry_put free,
        if_neg different]

end FileTree

end Shortcode
