import Mathlib.Logic.Relation
import Shortcode.Proofs.FileTree
import Shortcode.Proofs.Text.Fields

/-!
# Paths and what they come down to

Two dots in a path take back the name in front of them, and nothing at the root.
Carried out in any order, they leave one list of names, which is the resolved
path.  In a written path every slash starts a new name, and single dots are none.
-/

namespace Shortcode.Path

/-! ## Two dots -/

/-- Two dots are carried out. -/
inductive Cancels : List String → List String → Prop
  | back {before after : List String} {name : String} (plain : name ≠ "..") :
      Cancels (before ++ name :: ".." :: after) (before ++ after)
  | atRoot {after : List String} : Cancels (".." :: after) after

/-- The names from the root, without dots among them, that a path from a
directory comes down to. -/
structure LeadsTo (directory path : Path) (names : List String) : Prop where
  plain : ".." ∉ names
  cancelled : Relation.ReflTransGen Cancels (directory.join path).names names

theorem dots_notMem_step {names : List String} {next : String}
    (plain : ".." ∉ names) : ".." ∉ step names next := by
  unfold step
  split
  · intro member
    exact plain (List.mem_of_mem_dropLast member)
  · rename_i different
    have other : ".." ≠ next := by
      rintro rfl
      exact different rfl
    simp [plain, other]

theorem dots_notMem_resolve (directory path : Path) :
    ".." ∉ (directory.resolve path).names := by
  have kept : ∀ names found : List String, ".." ∉ found →
      ".." ∉ names.foldl step found := by
    intro names
    induction names with
    | nil => exact fun _ plain => plain
    | cons name rest induction =>
        intro found plain
        exact induction _ (dots_notMem_step plain)
  exact kept _ [] List.not_mem_nil

@[simp]
theorem step_dots (names : List String) : step names ".." = names.dropLast := rfl

theorem foldl_step_of_plain {names : List String} (plain : ".." ∉ names)
    (found : List String) : names.foldl step found = found ++ names := by
  induction names generalizing found with
  | nil => simp
  | cons name rest induction =>
      rw [List.mem_cons, not_or] at plain
      rw [List.foldl_cons, step_of_ne (Ne.symm plain.1), induction plain.2,
        List.append_assoc, List.singleton_append]

theorem foldl_step_detour {name : String} (plain : name ≠ "..")
    (before after found : List String) :
    (before ++ name :: ".." :: after).foldl step found =
      (before ++ after).foldl step found := by
  rw [List.foldl_append, List.foldl_append, List.foldl_cons, List.foldl_cons,
    step_of_ne plain, step_dots, List.dropLast_concat]

theorem Cancels.foldl_step {names fewer : List String}
    (cancels : Cancels names fewer) :
    names.foldl step [] = fewer.foldl step [] := by
  cases cancels with
  | back plain => exact foldl_step_detour plain _ _ []
  | atRoot => rfl

theorem foldl_step_of_cancelled {names fewer : List String}
    (cancelled : Relation.ReflTransGen Cancels names fewer) :
    names.foldl step [] = fewer.foldl step [] := by
  induction cancelled with
  | refl => rfl
  | tail _ last induction => exact induction.trans last.foldl_step

/-- The dots behind names without dots can be carried out one after another. -/
theorem cancelled_foldl_step {found : List String} (plain : ".." ∉ found)
    (names : List String) :
    Relation.ReflTransGen Cancels (found ++ names) (names.foldl step found) := by
  induction names generalizing found with
  | nil => simpa using .refl
  | cons name rest induction =>
      by_cases dots : name = ".."
      · subst dots
        have shorter : ".." ∉ step found ".." := dots_notMem_step plain
        have later := induction shorter
        rw [List.foldl_cons]
        refine .head ?_ later
        rcases List.eq_nil_or_concat' found with rfl | ⟨before, last, rfl⟩
        · exact .atRoot
        · have isName : last ≠ ".." := by
            rintro rfl
            simp at plain
          rw [step_dots, List.dropLast_concat, List.append_assoc]
          exact .back isName
      · have longer : ".." ∉ found ++ [name] := by
          simp [plain, Ne.symm dots]
        have later := induction longer
        rwa [List.append_assoc, List.singleton_append, ← step_of_ne dots] at later

/-- However the dots of a path are carried out, it comes down to the resolved
path. -/
theorem leadsTo_iff {directory path : Path} {names : List String} :
    LeadsTo directory path names ↔ (directory.resolve path).names = names := by
  constructor
  · rintro ⟨plain, cancelled⟩
    have same := foldl_step_of_cancelled cancelled
    rwa [foldl_step_of_plain plain, List.nil_append] at same
  · rintro rfl
    exact ⟨dots_notMem_resolve directory path,
      cancelled_foldl_step List.not_mem_nil _⟩

theorem mem_of_mem_foldl_step {name : String} {names found : List String}
    (member : name ∈ names.foldl step found) : name ∈ found ∨ name ∈ names := by
  induction names generalizing found with
  | nil => exact .inl member
  | cons next rest induction =>
      rcases induction member with stepped | later
      · unfold step at stepped
        split at stepped
        · exact .inl (List.mem_of_mem_dropLast stepped)
        · rcases List.mem_append.mp stepped with before | here
          · exact .inl before
          · exact .inr (by simp [List.mem_singleton.mp here])
      · exact .inr (List.mem_cons_of_mem next later)

/-! ## Written paths -/

/-- The names in a written path. -/
def namesIn (text : List Char) : List String :=
  ((Text.fields '/' text).filter isName).map String.ofList

theorem ofString_eq (text : String) :
    ofString text = ⟨anchorOf text.toList, namesIn text.toList⟩ := rfl

theorem namesIn_append (before after : List Char) :
    namesIn (before ++ '/' :: after) = namesIn before ++ namesIn after := by
  rw [namesIn, Text.fields_append, List.filter_append, List.map_append]
  rfl

theorem namesIn_of_noSlash {text : List Char} (whole : '/' ∉ text) :
    namesIn text = if isName text then [String.ofList text] else [] := by
  rw [namesIn, Text.fields_of_notMem whole, List.filter_singleton]
  cases isName text with
  | true => rfl
  | false => rfl

theorem anchorOf_eq_here_iff {text : List Char} :
    anchorOf text = .here ↔ ∀ char ∈ text.head?, char ≠ '/' := by
  unfold anchorOf
  split
  · simp
  · simp
  · simp
  · rename_i other
    rw [eq_self, true_iff]
    cases text with
    | nil => simp
    | cons char rest =>
        rintro first same rfl
        cases same
        exact other rest rfl

theorem names_join (directory path : Path) :
    (directory.join path).names =
      if path.anchor = .here then directory.names ++ path.names
      else path.names := by
  cases path with
  | mk anchor names => cases anchor <;> rfl

/-- A name of a written path starts between its two parts. -/
structure AtName (before after : String) : Prop where
  closed : before = "" ∨ before.toList.getLast? = some '/'
  starts : ∀ char ∈ after.toList.head?, char ≠ '/'
  named : (ofString after).names ≠ []

/-- A name that stands for a file or a folder. -/
structure IsPlainName (name : String) : Prop where
  whole : '/' ∉ name.toList
  isName : isName name.toList = true
  notDots : name ≠ ".."

/-- A plain name is not empty and holds no slash. -/
theorem IsPlainName.head?_ne {name : String} (isPlain : IsPlainName name)
    (after : String) : ∀ char ∈ (name ++ after).toList.head?, char ≠ '/' := by
  have nonempty : name.toList ≠ [] := by
    intro empty
    have isName := isPlain.isName
    rw [empty] at isName
    cases isName
  rw [String.toList_append, List.head?_append_of_ne_nil _ nonempty]
  rintro char first rfl
  exact isPlain.whole (List.mem_of_mem_head? first)

namespace AtName

variable {before after : String} (atName : AtName before after)

include atName

theorem namesIn_append (text : List Char) :
    namesIn (before.toList ++ text) = namesIn before.toList ++ namesIn text := by
  rcases atName.closed with rfl | slash
  · rfl
  · obtain ⟨lead, cut⟩ := List.getLast?_eq_some_iff.mp slash
    have ended : namesIn (lead ++ ['/']) = namesIn lead := by
      rw [Path.namesIn_append]
      exact List.append_nil _
    rw [cut, ended, List.append_assoc, List.singleton_append,
      Path.namesIn_append]

/-- What is put in front of a name does not change where the path starts. -/
theorem anchor_iff (text : String)
    (starts : ∀ char ∈ text.toList.head?, char ≠ '/') :
    (ofString (before ++ text)).anchor = .here ↔
      (ofString (before ++ after)).anchor = .here := by
  rw [ofString_eq, ofString_eq, String.toList_append, String.toList_append]
  dsimp only
  rw [anchorOf_eq_here_iff, anchorOf_eq_here_iff]
  rcases atName.closed with rfl | slash
  · exact iff_of_true starts atName.starts
  · have nonempty : before.toList ≠ [] := by
      intro empty
      rw [empty] at slash
      cases slash
    rw [List.head?_append_of_ne_nil _ nonempty,
      List.head?_append_of_ne_nil _ nonempty]

theorem names_ofString :
    (ofString (before ++ after)).names =
      namesIn before.toList ++ namesIn after.toList := by
  rw [ofString_eq, String.toList_append, atName.namesIn_append]

theorem names_ofString_dot :
    (ofString (before ++ "./" ++ after)).names =
      namesIn before.toList ++ namesIn after.toList := by
  have dot : "./".toList ++ after.toList = ['.'] ++ '/' :: after.toList := rfl
  have nothing : namesIn ['.'] = [] := by decide
  rw [ofString_eq, String.toList_append, String.toList_append,
    List.append_assoc, atName.namesIn_append, dot, Path.namesIn_append, nothing]
  rfl

theorem names_ofString_detour {name : String} (isPlain : IsPlainName name) :
    (ofString (before ++ name ++ "/../" ++ after)).names =
      namesIn before.toList ++ name :: ".." :: namesIn after.toList := by
  have dots : "/../".toList ++ after.toList =
      '/' :: (['.', '.'] ++ '/' :: after.toList) := rfl
  have isDots : namesIn ['.', '.'] = [".."] := by decide
  have alone : namesIn name.toList = [name] := by
    rw [namesIn_of_noSlash isPlain.whole, if_pos isPlain.isName,
      String.ofList_toList]
  rw [ofString_eq]
  simp only [String.toList_append, List.append_assoc]
  rw [dots, atName.namesIn_append, Path.namesIn_append, Path.namesIn_append,
    isDots, alone]
  rfl

end AtName

/-! ## Other ways to write a path -/

/-- A directory that paths may be taken from. -/
structure IsCurrent (directory : Path) : Prop where
  fromRoot : directory.anchor ≠ .here
  notNull : directory.hasNull = false

/-- Another way to write a path that is taken from a directory. -/
inductive Respells (directory : Path) : String → String → Prop
  /-- The directory is written out. -/
  | absolute {text other : String}
      (same : ofString other = directory.join (ofString text)) :
      Respells directory text other
  /-- The directory is written out and two dots are carried out. -/
  | resolved {text other : String} (notNull : (ofString text).hasNull = false)
      (same : ofString other = directory.resolve (ofString text)) :
      Respells directory text other
  | dot {before after : String} (atName : AtName before after) :
      Respells directory (before ++ after) (before ++ "./" ++ after)
  /-- The path goes into a folder and back. -/
  | detour {before after name : String} (atName : AtName before after)
      (isPlain : IsPlainName name) (notNull : '\x00' ∉ name.toList) :
      Respells directory (before ++ after) (before ++ name ++ "/../" ++ after)

/-- Two paths lead to the same place, and under the same name if it is one. -/
structure SamePlace (directory path other : Path) : Prop where
  resolve_eq : directory.resolve other = directory.resolve path
  hasNull_eq : other.hasNull = path.hasNull
  name_eq : path.names ≠ [] → path.name ≠ ".." →
    other.names ≠ [] ∧ other.name = path.name

namespace SamePlace

variable {directory path other : Path}

theorem refl (directory path : Path) : SamePlace directory path path :=
  ⟨rfl, rfl, fun nonempty _ => ⟨nonempty, rfl⟩⟩

theorem trans {third : Path} (first : SamePlace directory path other)
    (second : SamePlace directory other third) :
    SamePlace directory path third := by
  refine ⟨second.resolve_eq.trans first.resolve_eq,
    second.hasNull_eq.trans first.hasNull_eq, ?_⟩
  intro nonempty notDots
  obtain ⟨between, same⟩ := first.name_eq nonempty notDots
  obtain ⟨ended, last⟩ := second.name_eq between (same ▸ notDots)
  exact ⟨ended, last.trans same⟩

theorem absolute (current : directory.IsCurrent) (path : Path) :
    SamePlace directory path (directory.join path) := by
  have fromRoot : (directory.join path).anchor ≠ .here := by
    obtain ⟨anchor, names⟩ := path
    cases anchor with
    | here => exact current.fromRoot
    | root => simp [join]
    | doubleRoot => simp [join]
  refine ⟨?_, ?_, ?_⟩
  · rw [resolve, resolve, names_join directory (directory.join path),
      if_neg fromRoot]
  · have noName := current.notNull
    unfold hasNull at noName ⊢
    rw [names_join]
    split
    · rw [List.any_append, noName, Bool.false_or]
    · rfl
  · intro nonempty _
    have longer : (directory.join path).names ≠ [] := by
      rw [names_join]
      split
      · exact List.append_ne_nil_of_right_ne_nil _ nonempty
      · exact nonempty
    refine ⟨longer, ?_⟩
    rw [Path.name, Path.name, names_join]
    split
    · rw [List.getLast?_append_of_ne_nil _ nonempty]
    · rfl

theorem resolved (current : directory.IsCurrent) (notNull : path.hasNull = false) :
    SamePlace directory path (directory.resolve path) := by
  have plain := dots_notMem_resolve directory path
  have absolute := SamePlace.absolute current path
  refine ⟨?_, ?_, ?_⟩
  · have again : (directory.join (directory.resolve path)).names =
        (directory.resolve path).names := rfl
    rw [resolve, again, foldl_step_of_plain plain]
    rfl
  · rw [notNull]
    rw [← absolute.hasNull_eq] at notNull
    unfold hasNull at notNull ⊢
    rw [List.any_eq_false] at notNull ⊢
    intro name member
    rcases mem_of_mem_foldl_step member with absent | there
    · cases absent
    · exact notNull name there
  · intro nonempty notDots
    obtain ⟨longer, same⟩ := absolute.name_eq nonempty notDots
    obtain ⟨before, last, cut⟩ :=
      (List.eq_nil_or_concat' (directory.join path).names).resolve_left longer
    have isLast : (directory.join path).name = last := by
      rw [Path.name, cut, List.getLast?_concat]
      rfl
    have names : (directory.resolve path).names = before.foldl step [] ++ [last] := by
      have notDotsLast : last ≠ ".." := by rwa [← isLast, same]
      rw [resolve]
      dsimp only
      rw [cut, List.foldl_append, List.foldl_cons, step_of_ne notDotsLast]
      rfl
    refine ⟨by simp [names], ?_⟩
    rw [← same, isLast, Path.name, names, List.getLast?_concat]
    rfl

/-- A path with other names in front of its last ones, if these come to nothing. -/
theorem of_names {lead longer names : List String}
    (anchors : other.anchor = .here ↔ path.anchor = .here)
    (isPath : path.names = lead ++ names) (isOther : other.names = longer ++ names)
    (steps : ∀ found : List String,
      other.names.foldl step found = path.names.foldl step found)
    (nulls : other.hasNull = path.hasNull) (named : names ≠ []) :
    SamePlace directory path other := by
  refine ⟨?_, nulls, ?_⟩
  · rw [resolve, resolve, names_join, names_join]
    congr 1
    by_cases here : path.anchor = .here
    · rw [if_pos here, if_pos (anchors.mpr here), List.foldl_append,
        List.foldl_append, steps]
    · rw [if_neg here, if_neg (mt anchors.mp here), steps]
  · intro _ _
    rw [isOther]
    refine ⟨List.append_ne_nil_of_right_ne_nil _ named, ?_⟩
    rw [Path.name, Path.name, isOther, isPath,
      List.getLast?_append_of_ne_nil _ named,
      List.getLast?_append_of_ne_nil _ named]

end SamePlace

/-- A path leads to the same place however it is written. -/
theorem Respells.samePlace {directory : Path} {text other : String}
    (current : directory.IsCurrent) (respells : Respells directory text other) :
    SamePlace directory (ofString text) (ofString other) := by
  cases respells with
  | absolute same =>
      rw [same]
      exact .absolute current _
  | resolved notNull same =>
      rw [same]
      exact .resolved current notNull
  | @dot before after atName =>
      have names := atName.names_ofString
      have others := atName.names_ofString_dot
      have anchors := atName.anchor_iff ("./" ++ after) (by simp)
      rw [← String.append_assoc] at anchors
      refine .of_names anchors names others ?_ ?_ atName.named
      · rw [others, names]
        exact fun _ => rfl
      · rw [hasNull, hasNull, others, names]
  | @detour before after name atName isPlain notNull =>
      have names := atName.names_ofString
      have others := atName.names_ofString_detour isPlain
      have anchors := atName.anchor_iff (name ++ ("/../" ++ after))
        (isPlain.head?_ne _)
      rw [← String.append_assoc, ← String.append_assoc] at anchors
      have cut : (ofString (before ++ name ++ "/../" ++ after)).names =
          (namesIn before.toList ++ [name, ".."]) ++ namesIn after.toList := by
        rw [others, List.append_assoc]
        rfl
      refine .of_names anchors names cut ?_ ?_ atName.named
      · intro found
        rw [others, names]
        exact foldl_step_detour isPlain.notDots _ _ found
      · rw [hasNull, hasNull, others, names]
        simp [notNull]

end Shortcode.Path
