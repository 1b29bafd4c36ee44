import Shortcode.Path
import Shortcode.Text.Quoted
import Shortcode.Text.Utf8

/-!
# File trees

The files and directories that a command sees, as a value.  A location is the names from the root;
every change makes a new tree, and what a change leaves alone is the same in both.
-/

namespace Shortcode

/-- The names from the root to a file or a directory. -/
abbrev Location := List String

/-- What stands at a location. -/
inductive Entry where
  | file (bytes : List UInt8)
  | directory
deriving DecidableEq

/-- What stands at each location of a list; the root is always a directory. -/
def entryAmong? (entries : List (Location × Entry)) (location : Location) : Option Entry :=
  if location.isEmpty then some .directory else entries.lookup location

/-- Files and directories by their locations.  The root is not listed. -/
structure FileTree where
  entries : List (Location × Entry)
  /-- A location has one entry. -/
  distinct : (entries.map (·.1)).Nodup
  /-- What is not in the root is in a directory of the tree. -/
  rooted : ∀ found ∈ entries,
    found.1 ≠ [] ∧ entryAmong? entries found.1.dropLast = some .directory

/-- The entries with one put at a location, in place of what stands there. -/
def putAmong (location : Location) (entry : Entry) :
    (entries : List (Location × Entry)) → List (Location × Entry)
  | [] => [(location, entry)]
  | found :: rest =>
    if found.1 = location then (location, entry) :: rest
    else found :: putAmong location entry rest

theorem mem_putAmong {location : Location} {entry : Entry} {entries : List (Location × Entry)}
    {found : Location × Entry} (member : found ∈ putAmong location entry entries) :
    found = (location, entry) ∨ found ∈ entries := by
  induction entries with
  | nil => simpa [putAmong] using member
  | cons first rest ih =>
    unfold putAmong at member
    split at member
    · rcases List.mem_cons.1 member with same | inRest
      · exact .inl same
      · exact .inr (List.mem_cons_of_mem _ inRest)
    · rcases List.mem_cons.1 member with same | inRest
      · exact .inr (same ▸ List.mem_cons_self)
      · exact (ih inRest).imp_right (List.mem_cons_of_mem _)

theorem mem_map_putAmong {location : Location} {entry : Entry}
    {entries : List (Location × Entry)} {other : Location} :
    other ∈ (putAmong location entry entries).map (·.1) ↔
      other = location ∨ other ∈ entries.map (·.1) := by
  induction entries with
  | nil => simp [putAmong]
  | cons first rest ih =>
    unfold putAmong
    split
    · rename_i same
      simp [same]
    · simp only [List.map_cons, List.mem_cons, ih]
      grind

theorem nodup_putAmong {location : Location} {entry : Entry}
    {entries : List (Location × Entry)} (distinct : (entries.map (·.1)).Nodup) :
    ((putAmong location entry entries).map (·.1)).Nodup := by
  induction entries with
  | nil => simp [putAmong]
  | cons first rest ih =>
    unfold putAmong
    split
    · rename_i same
      simpa [← same] using distinct
    · rename_i different
      simp only [List.map_cons, List.nodup_cons, mem_map_putAmong] at distinct ⊢
      exact ⟨fun | .inl same => different same | .inr inRest => distinct.1 inRest, ih distinct.2⟩

theorem lookup_cons (found : Location × Entry) (rest : List (Location × Entry))
    (other : Location) :
    (found :: rest).lookup other = if other = found.1 then some found.2 else rest.lookup other := by
  rw [List.lookup_cons]
  by_cases same : other = found.1
  · simp [same]
  · have differs : (other == found.1) = false := by simpa using same
    simp [differs, same]

theorem lookup_putAmong (location other : Location) (entry : Entry)
    (entries : List (Location × Entry)) :
    (putAmong location entry entries).lookup other =
      if other = location then some entry else entries.lookup other := by
  induction entries with
  | nil => simp [putAmong, lookup_cons]
  | cons first rest ih => by_cases here : first.1 = location <;> grind [putAmong, lookup_cons]

/-- What stands at a location once an entry is put at another or the same one. -/
theorem entryAmong_putAmong {location : Location} (notRoot : location ≠ []) (other : Location)
    (entry : Entry) (entries : List (Location × Entry)) :
    entryAmong? (putAmong location entry entries) other =
      if other = location then some entry else entryAmong? entries other := by
  unfold entryAmong?
  rw [lookup_putAmong]
  by_cases root : other = []
  · simp [root, notRoot.symm]
  · simp [root]

namespace FileTree

/-- The tree without files. -/
def empty : FileTree := ⟨[], by simp, by simp⟩

/-- What stands at a location. -/
def entry? (tree : FileTree) (location : Location) : Option Entry :=
  entryAmong? tree.entries location

/-- A directory stands at the location. -/
def hasDirectory (tree : FileTree) (location : Location) : Bool :=
  tree.entry? location == some .directory

/-- A file can be put at a location: it is in a directory, and is none itself. -/
def canHold (tree : FileTree) (location : Location) : Bool :=
  tree.hasDirectory location.dropLast && !tree.hasDirectory location

theorem ne_nil_of_canHold {tree : FileTree} {location : Location}
    (free : tree.canHold location = true) : location ≠ [] := by
  rintro rfl
  simp [canHold, hasDirectory, entry?, entryAmong?] at free

/-- The tree with an entry at a location that can hold it, and otherwise as it is. -/
def put (tree : FileTree) (location : Location) (entry : Entry) : FileTree :=
  if free : tree.canHold location then
    { entries := putAmong location entry tree.entries
      distinct := nodup_putAmong tree.distinct
      rooted := by
        have notRoot := ne_nil_of_canHold free
        simp only [canHold, hasDirectory, entry?, Bool.and_eq_true, beq_iff_eq,
          Bool.not_eq_true', beq_eq_false_iff_ne, ne_eq] at free
        intro found member
        rw [entryAmong_putAmong notRoot]
        rcases mem_putAmong member with same | old
        · subst same
          refine ⟨notRoot, ?_⟩
          rw [if_neg, free.1]
          intro same
          exact free.2 (same ▸ free.1)
        · obtain ⟨below, above⟩ := tree.rooted found old
          refine ⟨below, ?_⟩
          rw [if_neg, above]
          intro same
          exact free.2 (same ▸ above) }
  else tree

/-- Putting an entry changes what stands at its own location alone. -/
theorem entry_put {tree : FileTree} {location : Location} (free : tree.canHold location = true)
    (entry : Entry) (other : Location) :
    FileTree.entry? (tree.put location entry) other =
      if other = location then some entry else tree.entry? other := by
  unfold put
  rw [dif_pos free]
  exact entryAmong_putAmong (ne_nil_of_canHold free) other entry tree.entries

/-- Follows the names of a path, each of which has to be looked up in a directory. -/
def walk (tree : FileTree) : (location : Location) → (names : List String) → Option Location
  | location, [] => some location
  | location, name :: rest =>
    if tree.hasDirectory location then tree.walk (Path.step location name) rest else none

/-- The location that a path leads to from a directory, whether something stands there or not. -/
def locate? (tree : FileTree) (directory path : Path) : Option Location :=
  tree.walk [] (directory.join path).names

/-- What a path leads to. -/
def find? (tree : FileTree) (directory path : Path) : Option Entry :=
  (tree.locate? directory path).bind tree.entry?

/-- The bytes of the file that a path leads to. -/
def bytes? (tree : FileTree) (directory path : Path) : Option (List UInt8) :=
  match tree.find? directory path with
  | some (.file bytes) => some bytes
  | _ => none

/-- The path leads to a file. -/
def isFile (tree : FileTree) (directory path : Path) : Bool :=
  (tree.bytes? directory path).isSome

/-- The path leads to a directory. -/
def isDirectory (tree : FileTree) (directory path : Path) : Bool :=
  tree.find? directory path == some .directory

/-- The path leads to something. -/
def contains (tree : FileTree) (directory path : Path) : Bool :=
  (tree.find? directory path).isSome

/-- The name below a directory, if the location is directly in it. -/
def nameIn? (directory location : Location) : Option String :=
  match location.getLast? with
  | some name => if location.dropLast == directory then some name else none
  | none => none

/-- The name and the bytes of a file directly in a directory. -/
def fileIn? (directory : Location) : (found : Location × Entry) → Option (String × List UInt8)
  | (location, .file bytes) => (nameIn? directory location).map (·, bytes)
  | (_, .directory) => none

/-- The files directly in a directory, by name. -/
def filesIn (tree : FileTree) (directory : Location) : List (String × List UInt8) :=
  tree.entries.filterMap (fileIn? directory)

/-- The tree with a file at a location. -/
def write (tree : FileTree) (location : Location) (bytes : List UInt8) : FileTree :=
  tree.put location (.file bytes)

/-- Makes the directories below a location, unless a file is in the way. -/
def makeBelow (tree : FileTree) : (location : Location) → (names : List String) → Option FileTree
  | _, [] => some tree
  | location, name :: rest =>
    let next := location ++ [name]
    match tree.entry? next with
    | some .directory => tree.makeBelow next rest
    | some (.file _) => none
    | none => (tree.put next .directory).makeBelow next rest

/-- The tree with a directory and those above it, unless a file is in the way. -/
def addDirectory (tree : FileTree) (location : Location) : FileTree :=
  (tree.makeBelow [] location).getD tree

/-- The tree with a file and the directories above it. -/
def addFile (tree : FileTree) (location : Location) (bytes : List UInt8) : FileTree :=
  (tree.addDirectory location.dropLast).write location bytes

end FileTree

/-- Why a file could not be read, or a file or directory not be made. -/
inductive FileError where
  | missing (path : Path)
  | exists (path : Path)
  | notDirectory (path : Path)
  | isDirectory (path : Path)
  /-- A name in the path is too long, or the whole path is. -/
  | nameTooLong (path : Path)
  /-- A name in the path holds a NUL. -/
  | nullName
  | undecodable (error : Text.Utf8.Error)
deriving DecidableEq, Repr

/-- The wording of an error. -/
def FileError.message (error : FileError) : String :=
  let about (number : Nat) (reason : String) (path : Path) : String :=
    s!"[Errno {number}] {reason}: " ++ String.ofList (Text.quoted path.toString.toList)
  match error with
  | .missing path => about 2 "No such file or directory" path
  | .exists path => about 17 "File exists" path
  | .notDirectory path => about 20 "Not a directory" path
  | .isDirectory path => about 21 "Is a directory" path
  | .nameTooLong path => about 36 "File name too long" path
  | .nullName => "embedded null byte"
  | .undecodable error => error.message

namespace FileTree

/-- A file stands where a path needs a directory. -/
def crossesFile (tree : FileTree) : (location : Location) → (names : List String) → Bool
  | _, [] => false
  | location, name :: rest =>
    match tree.entry? location with
    | some .directory => tree.crossesFile (Path.step location name) rest
    | some (.file _) => true
    | none => false

/-- Why a path leads to nothing. -/
def absence (tree : FileTree) (directory path : Path) : FileError :=
  if tree.crossesFile [] (directory.join path).names then .notDirectory path else .missing path

/-- The most bytes of a name. -/
def nameLimit : Nat := 255

/-- The most bytes of a path as it is written. -/
def pathLimit : Nat := 4095

/-- A name that is too long has to be looked up in a directory. -/
def hasLongName (tree : FileTree) : (location : Location) → (names : List String) → Bool
  | _, [] => false
  | location, name :: rest =>
    tree.hasDirectory location &&
      (name.utf8ByteSize > nameLimit || tree.hasLongName (Path.step location name) rest)

/-- Why it cannot be told what a path leads to.  A path with a NUL leads to nothing. -/
def lookupError? (tree : FileTree) (directory path : Path) : Option FileError :=
  if path.hasNull then none
  else if path.toString.utf8ByteSize > pathLimit ||
      tree.hasLongName [] (directory.join path).names then some (.nameTooLong path)
  else none

/-- Looks up a path, or tells why that fails. -/
def checkLookup (tree : FileTree) (directory path : Path) : Except FileError Unit :=
  match tree.lookupError? directory path with
  | some error => .error error
  | none => .ok ()

/-- Fails if a path can neither be read nor written. -/
def checkAccess (tree : FileTree) (directory path : Path) : Except FileError Unit :=
  if path.hasNull then .error .nullName else tree.checkLookup directory path

/-- The text of a file, with every line end written as `\n`. -/
def readText (tree : FileTree) (directory path : Path) : Except FileError (List Char) := do
  tree.checkAccess directory path
  match tree.find? directory path with
  | none => .error (tree.absence directory path)
  | some .directory => .error (.isDirectory path)
  | some (.file bytes) => ((Text.Utf8.decode bytes).map Text.unixLines).mapError .undecodable

/-- The text of a file that is read piece by piece. -/
def readPieces (tree : FileTree) (directory path : Path) : Except FileError (List Char) :=
  (tree.readText directory path).mapError fun
    | .undecodable error => .undecodable error.ofPieces
    | other => other

/-- Puts bytes into the file that a path leads to, which is made if need be. -/
def writeBytes (tree : FileTree) (directory path : Path) (bytes : List UInt8) :
    Except FileError FileTree := do
  tree.checkAccess directory path
  match tree.locate? directory path with
  | none => .error (tree.absence directory path)
  | some location =>
    if tree.hasDirectory location then .error (.isDirectory path)
    else .ok (tree.write location bytes)

/-- Why something could not be made, and the files as far as it was made. -/
structure Unfinished where
  error : FileError
  tree : FileTree

/-- Follows the names of a path and makes the directories that are missing.  `path` is the one to
blame, or its start as far as it was followed once a directory was made. -/
def makeAlong (path : Path) (made : Bool) (tree : FileTree) (location : Location) :
    (names : List String) → Except Unfinished FileTree
  | [] => .ok tree
  | name :: rest =>
    let next := Path.step location name
    let followed := { path with names := path.names.take (path.names.length - rest.length) }
    match tree.entry? next with
    | some .directory => tree.makeAlong path made next rest
    | some (.file _) =>
      .error ⟨if made || rest.isEmpty then .exists followed else .notDirectory path, tree⟩
    | none =>
      if name.utf8ByteSize > nameLimit then .error ⟨.nameTooLong followed, tree⟩
      else (tree.put next .directory).makeAlong path true next rest

/-- The files of a tree that were not in an earlier one, or had other bytes there. -/
def changes (before after : FileTree) : List (Location × List UInt8) :=
  after.entries.filterMap fun (location, entry) =>
    match entry with
    | .file bytes => if before.entry? location == some entry then none else some (location, bytes)
    | .directory => none

/-- The change of a tree that a failure leaves as it is. -/
def orUnchanged {α : Type} (tree : FileTree) (answer : Except FileError α) : Except Unfinished α :=
  answer.mapError (⟨·, tree⟩)

/-- Makes the directory that a path leads to and those above it. -/
def makeDirectories (tree : FileTree) (directory path : Path) : Except Unfinished FileTree := do
  tree.orUnchanged (tree.checkAccess directory path)
  tree.makeAlong path false [] (directory.join path).names

end FileTree

end Shortcode
