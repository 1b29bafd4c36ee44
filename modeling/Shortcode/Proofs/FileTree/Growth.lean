import Shortcode.Proofs.FileTree
import Shortcode.Proofs.Outcome

/-!
# Trees that grow

Making the directories of a path leaves what stands as it is, as long as two
dots only leave directories that are there.  A file that is put into the last
of the directories is then the only new one.
-/

namespace Shortcode.FileTree

variable {tree other : FileTree} {directory path : Path}
  {location base : Location} {names rest : List String}

/-! ## Directories above directories -/

theorem hasDirectory_of_below (stands : tree.hasDirectory location = true)
    (above : base <+: location) : tree.hasDirectory base = true := by
  obtain ⟨below, rfl⟩ := above
  induction below using List.reverseRecOn with
  | nil => simpa using stands
  | append_singleton lead name induction =>
      apply induction
      rw [← List.append_assoc, hasDirectory_iff] at stands
      exact hasDirectory_of_entry stands

theorem hasDirectory_of_walk {target : Location}
    (walked : tree.walk location names = some target)
    (stands : tree.hasDirectory target = true) :
    tree.hasDirectory location = true := by
  cases names with
  | nil =>
      cases walked
      exact stands
  | cons name rest =>
      rw [walk] at walked
      split at walked
      · assumption
      · cases walked

/-- A path without two dots can be followed to a directory. -/
theorem walk_of_hasDirectory (plain : ".." ∉ names)
    (stands : tree.hasDirectory (location ++ names) = true) :
    tree.walk location names = some (location ++ names) := by
  induction names generalizing location with
  | nil => simp [walk]
  | cons name rest induction =>
      rw [List.mem_cons, not_or] at plain
      have here : tree.hasDirectory location = true :=
        hasDirectory_of_below stands (List.prefix_append location _)
      rw [walk, if_pos here, Path.step_of_ne (Ne.symm plain.1)]
      have same : location ++ name :: rest = location ++ [name] ++ rest := by
        simp
      rw [same] at stands ⊢
      exact induction plain.2 stands

/-- Two dots in a path only leave directories that are there. -/
def DotsLeaveDirectories (tree : FileTree) (names : List String) : Prop :=
  ∃ lead rest base, names = lead ++ rest ∧ ".." ∉ rest ∧
    tree.walk [] lead = some base ∧ tree.hasDirectory base = true

/-! ## Making directories -/

theorem makeAlong_of_walk {lead : List String}
    (walked : tree.walk location lead = some base)
    (stands : tree.hasDirectory base = true) (made : Bool) :
    tree.makeAlong path made location (lead ++ rest) =
      tree.makeAlong path made base rest := by
  induction lead generalizing location with
  | nil =>
      cases walked
      rfl
  | cons name others induction =>
      rw [walk] at walked
      split at walked
      · have next := hasDirectory_of_walk walked stands
        rw [hasDirectory_iff] at next
        rw [List.cons_append, makeAlong, next]
        exact induction walked
      · cases walked

theorem canHold_append {name : String}
    (stands : tree.hasDirectory location = true)
    (free : tree.entry? (location ++ [name]) = none) :
    tree.canHold (location ++ [name]) = true := by
  rw [hasDirectory_iff] at stands
  simp [canHold, hasDirectory, stands, free]

/-- The directories down to a location are all there, and nothing else has
changed. -/
structure GrownTo (tree other : FileTree) (location : Location) : Prop where
  entry : ∀ here, other.entry? here =
    if here <+: location then some .directory else tree.entry? here
  free : ∀ here bytes, here <+: location →
    tree.entry? here ≠ some (.file bytes)

theorem GrownTo.of_stands (stands : tree.hasDirectory base = true) :
    tree.GrownTo tree base := by
  have isDirectory : ∀ here, here <+: base → tree.entry? here = some .directory :=
    fun _ above => hasDirectory_iff.mp (hasDirectory_of_below stands above)
  constructor
  · intro here
    split
    · rename_i above
      exact isDirectory here above
    · rfl
  · intro here bytes above found
    rw [isDirectory here above] at found
    cases found

/-- One directory is made where nothing stood, and the others below it. -/
theorem GrownTo.of_put (holds : tree.canHold base = true)
    (absent : tree.entry? base = none)
    (grown : (tree.put base .directory).GrownTo other (base ++ rest)) :
    tree.GrownTo other (base ++ rest) := by
  constructor
  · intro here
    rw [grown.entry]
    split
    · rfl
    · rename_i apart
      rw [entry_put holds, if_neg]
      rintro rfl
      exact apart (List.prefix_append _ rest)
  · intro here bytes above found
    apply grown.free here bytes above
    rw [entry_put holds, if_neg, found]
    rintro rfl
    rw [absent] at found
    cases found

theorem grownTo_of_makeAlong {before : Bool}
    (stands : tree.hasDirectory base = true) (plain : ".." ∉ rest)
    (made : tree.makeAlong path before base rest = .ok other) :
    tree.GrownTo other (base ++ rest) := by
  induction rest generalizing tree base before with
  | nil =>
      cases made
      rw [List.append_nil]
      exact .of_stands stands
  | cons name rest induction =>
      rw [List.mem_cons, not_or] at plain
      rw [makeAlong, Path.step_of_ne (Ne.symm plain.1)] at made
      have same : base ++ name :: rest = base ++ [name] ++ rest := by simp
      rw [same]
      split at made
      · rename_i next
        exact induction (hasDirectory_iff.mpr next) plain.2 made
      · cases made
      · rename_i next
        split at made
        · cases made
        · have holds := canHold_append stands next
          have own : entry? (tree.put (base ++ [name]) .directory)
              (base ++ [name]) = some .directory := by
            rw [entry_put holds, if_pos rfl]
          have grown := induction (hasDirectory_iff.mpr own) plain.2 made
          exact .of_put holds next grown

/-! ## One new file -/

/-- A file stands where nothing stood, in a directory that is there now. -/
structure Gains (tree other : FileTree) (folder : Location) (file : String)
    (bytes : List UInt8) : Prop where
  entry : ∀ here, other.entry? here =
    if here = folder ++ [file] then some (.file bytes)
    else if here <+: folder then some .directory else tree.entry? here
  absent : tree.entry? (folder ++ [file]) = none
  free : ∀ here content, here <+: folder →
    tree.entry? here ≠ some (.file content)

theorem child_not_above (folder : Location) (file : String) :
    ¬ folder ++ [file] <+: folder := by
  intro above
  have lengths := above.length_le
  rw [List.length_append, List.length_singleton] at lengths
  omega

theorem GrownTo.entry_child (grew : tree.GrownTo other location)
    (file : String) :
    other.entry? (location ++ [file]) = tree.entry? (location ++ [file]) := by
  rw [grew.entry, if_neg (child_not_above location file)]

theorem GrownTo.canHold (grew : tree.GrownTo other location) {file : String}
    (absent : tree.entry? (location ++ [file]) = none) :
    other.canHold (location ++ [file]) = true := by
  apply canHold_append
  · rw [hasDirectory_iff, grew.entry, if_pos List.prefix_rfl]
  · rw [grew.entry_child, absent]

theorem GrownTo.gains (grew : tree.GrownTo other location) {file : String}
    (absent : tree.entry? (location ++ [file]) = none) (bytes : List UInt8) :
    tree.Gains (other.write (location ++ [file]) bytes) location file bytes := by
  refine ⟨?_, absent, grew.free⟩
  intro here
  rw [write, entry_put (grew.canHold absent), grew.entry]

namespace Gains

variable {folder : Location} {file : String} {bytes : List UInt8}
  (gains : tree.Gains other folder file bytes)

include gains

theorem hasDirectory_iff {here : Location} :
    other.hasDirectory here = true ↔
      here <+: folder ∨ tree.hasDirectory here = true := by
  rw [FileTree.hasDirectory_iff, FileTree.hasDirectory_iff, gains.entry]
  split
  · rename_i same
    subst same
    simp [gains.absent, child_not_above folder file]
  · split
    · rename_i above
      simp [above]
    · rename_i apart
      simp [apart]

theorem entry_of_entry {here : Location} {entry : Entry}
    (stands : tree.entry? here = some entry) :
    other.entry? here = some entry := by
  rw [gains.entry]
  split
  · rename_i same
    rw [same, gains.absent] at stands
    cases stands
  · split
    · rename_i above
      cases entry with
      | directory => rfl
      | file content => exact absurd stands (gains.free here content above)
    · exact stands

theorem file_iff {here : Location} {content : List UInt8} :
    other.entry? here = some (.file content) ↔
      (here = folder ++ [file] ∧ content = bytes) ∨
        tree.entry? here = some (.file content) := by
  constructor
  · intro stands
    rw [gains.entry] at stands
    split at stands
    · rename_i same
      cases stands
      exact .inl ⟨same, rfl⟩
    · split at stands
      · cases stands
      · exact .inr stands
  · rintro (⟨rfl, rfl⟩ | stands)
    · rw [gains.entry, if_pos rfl]
    · exact gains.entry_of_entry stands

theorem walk_of_walk {target : Location}
    (walked : tree.walk location names = some target) :
    other.walk location names = some target := by
  induction names generalizing location with
  | nil => exact walked
  | cons name rest induction =>
      rw [walk] at walked ⊢
      split at walked
      · rename_i stands
        rw [if_pos (gains.hasDirectory_iff.mpr (.inr stands))]
        exact induction walked
      · cases walked

theorem locate?_of_locate? (located : tree.locate? directory path =
    some location) : other.locate? directory path = some location :=
  gains.walk_of_walk located

theorem find?_of_find? {entry : Entry}
    (found : tree.find? directory path = some entry) :
    other.find? directory path = some entry := by
  obtain ⟨location, located, stands⟩ := Option.bind_eq_some_iff.mp found
  exact Option.bind_eq_some_iff.mpr
    ⟨location, gains.locate?_of_locate? located, gains.entry_of_entry stands⟩

end Gains

/-! ## Lookups -/

theorem hasLongName_of_walk {target : Location}
    (walked : tree.walk location names = some target) :
    tree.hasLongName location names =
      names.any fun name => name.utf8ByteSize > nameLimit := by
  induction names generalizing location with
  | nil => rfl
  | cons name rest induction =>
      rw [walk] at walked
      split at walked
      · rename_i stands
        rw [hasLongName, stands, Bool.true_and, induction walked, List.any_cons]
      · cases walked

theorem hasLongName_eq_false
    (short : (names.any fun name => name.utf8ByteSize > nameLimit) = false) :
    tree.hasLongName location names = false := by
  induction names generalizing location with
  | nil => rfl
  | cons name rest induction =>
      rw [List.any_cons, Bool.or_eq_false_iff] at short
      rw [hasLongName, short.1, induction short.2]
      simp

theorem hasLongName_of_append {more : List String}
    (short : tree.hasLongName location (names ++ more) = false) :
    tree.hasLongName location names = false := by
  induction names generalizing location with
  | nil => rfl
  | cons name rest induction =>
      rw [List.cons_append, hasLongName] at short
      rw [hasLongName]
      cases stands : tree.hasDirectory location with
      | false => rfl
      | true =>
          rw [stands, Bool.true_and, Bool.or_eq_false_iff] at short
          rw [Bool.true_and, short.1, induction short.2]
          rfl

theorem lookupError?_eq_none_iff :
    tree.lookupError? directory path = none ↔
      path.hasNull = true ∨ path.toString.utf8ByteSize ≤ pathLimit ∧
        tree.hasLongName [] (directory.join path).names = false := by
  unfold lookupError?
  cases path.hasNull with
  | true => simp
  | false =>
      by_cases long : path.toString.utf8ByteSize > pathLimit
      · simp [long]
      · simp [long, Nat.not_lt.mp long]

theorem checkLookup_eq_ok_iff :
    tree.checkLookup directory path = .ok () ↔
      tree.lookupError? directory path = none := by
  unfold checkLookup
  cases tree.lookupError? directory path with
  | none => simp
  | some error => simp

theorem checkAccess_eq_ok_iff :
    tree.checkAccess directory path = .ok () ↔
      path.hasNull = false ∧ path.toString.utf8ByteSize ≤ pathLimit ∧
        tree.hasLongName [] (directory.join path).names = false := by
  unfold checkAccess
  cases null : path.hasNull with
  | true => simp
  | false => simp [checkLookup_eq_ok_iff, lookupError?_eq_none_iff, null]

theorem lookupError?_of_checkAccess
    (access : tree.checkAccess directory path = .ok ()) :
    tree.lookupError? directory path = none :=
  lookupError?_eq_none_iff.mpr (.inr (checkAccess_eq_ok_iff.mp access).2)

namespace Gains

variable {folder : Location} {file : String} {bytes : List UInt8}
  (gains : tree.Gains other folder file bytes)

include gains

theorem lookupError?_eq (located : tree.locate? directory path =
    some location) :
    other.lookupError? directory path = tree.lookupError? directory path := by
  rw [lookupError?, lookupError?, hasLongName_of_walk located,
    hasLongName_of_walk (gains.locate?_of_locate? located)]

theorem readPieces_eq {entry : Entry}
    (found : tree.find? directory path = some entry) :
    other.readPieces directory path = tree.readPieces directory path := by
  obtain ⟨location, located, -⟩ := Option.bind_eq_some_iff.mp found
  rw [readPieces, readPieces, readText, readText, checkAccess, checkAccess,
    checkLookup, checkLookup, gains.lookupError?_eq located, found,
    gains.find?_of_find? found]
  cases entry with
  | file content => rfl
  | directory => rfl

/-- If the folder was there before, no directory is new. -/
theorem hasDirectory_eq (stood : tree.hasDirectory folder = true)
    (here : Location) : other.hasDirectory here = tree.hasDirectory here := by
  rw [Bool.eq_iff_iff, gains.hasDirectory_iff]
  exact or_iff_right_of_imp (hasDirectory_of_below stood)

theorem entry_eq_of_ne (stood : tree.hasDirectory folder = true)
    {here : Location} (different : here ≠ folder ++ [file]) :
    other.entry? here = tree.entry? here := by
  rw [gains.entry, if_neg different]
  split
  · rename_i above
    have stands := hasDirectory_of_below stood above
    exact (FileTree.hasDirectory_iff.mp stands).symm
  · rfl

theorem bytes?_eq_of_ne (stood : tree.hasDirectory folder = true)
    (elsewhere : tree.locate? directory path ≠ some (folder ++ [file])) :
    other.bytes? directory path = tree.bytes? directory path := by
  unfold bytes? find?
  rw [locate?_congr (gains.hasDirectory_eq stood)]
  cases located : tree.locate? directory path with
  | none => rfl
  | some target =>
      have different : target ≠ folder ++ [file] := by
        rintro rfl
        exact elsewhere located
      rw [Option.bind_some, Option.bind_some,
        gains.entry_eq_of_ne stood different]

/-- In a folder whose path leads to the same place as before, the files are the
same but for the new one. -/
theorem bytes?_child_iff {parent : Path} {name : String} (plain : name ≠ "..")
    {content : List UInt8}
    (located : other.locate? directory parent = some location)
    (above : tree.hasDirectory location = true →
      tree.locate? directory parent = some location) :
    other.bytes? directory (parent.child name) = some content ↔
      (location = folder ∧ name = file ∧ content = bytes) ∨
        tree.bytes? directory (parent.child name) = some content := by
  rw [bytes?_child_eq_some_iff plain, bytes?_child_eq_some_iff plain]
  constructor
  · rintro ⟨place, reached, stands⟩
    cases located.symm.trans reached
    rcases gains.file_iff.mp stands with ⟨same, own⟩ | old
    · obtain ⟨here, named⟩ := List.append_inj' same rfl
      exact .inl ⟨here, List.singleton_inj.mp named, own⟩
    · exact .inr ⟨location, above (hasDirectory_of_entry old), old⟩
  · rintro (⟨rfl, rfl, rfl⟩ | ⟨place, reached, old⟩)
    · exact ⟨location, located, gains.file_iff.mpr (.inl ⟨rfl, rfl⟩)⟩
    · have same := gains.locate?_of_locate? reached
      exact ⟨place, same, gains.entry_of_entry old⟩

end Gains

end Shortcode.FileTree
