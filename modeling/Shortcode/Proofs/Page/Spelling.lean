import Shortcode.Proofs.Content.Page
import Shortcode.Proofs.Path

/-!
# Pages however their paths are written

The page of a file is the same however its path and that of the content root are
written, as long as the last name of the file is.  Its collection is the first
folder on the way from the root to it, once both paths are resolved.
-/

namespace Shortcode.Page

open Shortcode.Path

variable {directory file other root otherRoot : Path} {name : String}
  {head : List (Value × Value)}

/-! ## Collections -/

/-- The folder that the collection of a file is named after, if it has one.  A
path with a NUL in it cannot be resolved. -/
inductive CollectionOf (directory file : Path) : Option Path → String → Prop
  | rootless : CollectionOf directory file none ""
  | unresolved {root : Path} (null : (file.hasNull || root.hasNull) = true) :
      CollectionOf directory file (some root) ""
  | below {root : Path} {outer rest : List String} {folder next : String}
      (notNull : (file.hasNull || root.hasNull) = false)
      (isOuter : LeadsTo directory root outer)
      (isInner : LeadsTo directory file (outer ++ folder :: next :: rest)) :
      CollectionOf directory file (some root) folder
  | aside {root : Path} {outer inner : List String}
      (notNull : (file.hasNull || root.hasNull) = false)
      (isOuter : LeadsTo directory root outer)
      (isInner : LeadsTo directory file inner)
      (apart : ∀ folder next rest, inner ≠ outer ++ folder :: next :: rest) :
      CollectionOf directory file (some root) ""

theorem below?_resolve_eq_some_iff {names : List String} :
    (directory.resolve file).below? (directory.resolve root) = some names ↔
      (directory.resolve file).names = (directory.resolve root).names ++ names := by
  have sameAnchor : ((directory.resolve file).anchor ==
      (directory.resolve root).anchor) = true := rfl
  unfold below?
  rw [sameAnchor, Bool.true_and]
  constructor
  · intro found
    split at found
    · rename_i isPrefix
      obtain ⟨rest, cut⟩ := List.isPrefixOf_iff_prefix.mp isPrefix
      rw [← cut, List.drop_left, Option.some.injEq] at found
      rw [← cut, found]
    · cases found
  · intro cut
    have isPrefix : (directory.resolve root).names.isPrefixOf
        (directory.resolve file).names = true := by
      rw [List.isPrefixOf_iff_prefix, cut]
      exact List.prefix_append _ _
    rw [if_pos isPrefix, cut, List.drop_left]

theorem collection_of_null (null : (file.hasNull || root.hasNull) = true) :
    collection directory file (some root) = "" :=
  if_pos null

theorem collection_of_below {folder next : String} {rest : List String}
    (notNull : (file.hasNull || root.hasNull) = false)
    (cut : (directory.resolve file).names =
      (directory.resolve root).names ++ folder :: next :: rest) :
    collection directory file (some root) = folder := by
  unfold collection
  dsimp only
  rw [notNull, below?_resolve_eq_some_iff.mpr cut]
  rfl

theorem collection_of_aside
    (notNull : (file.hasNull || root.hasNull) = false)
    (apart : ∀ folder next rest, (directory.resolve file).names ≠
      (directory.resolve root).names ++ folder :: next :: rest) :
    collection directory file (some root) = "" := by
  unfold collection
  dsimp only
  rw [notNull, if_neg Bool.false_ne_true]
  split
  · rename_i folder next rest found
    exact absurd (below?_resolve_eq_some_iff.mp found) (apart folder next rest)
  · rfl

theorem collectionOf_collection (directory file : Path) (root : Option Path) :
    CollectionOf directory file root (collection directory file root) := by
  cases root with
  | none => exact .rootless
  | some root =>
      have isOuter := leadsTo_iff.mpr (Eq.refl (directory.resolve root).names)
      have isInner := leadsTo_iff.mpr (Eq.refl (directory.resolve file).names)
      cases null : file.hasNull || root.hasNull with
      | true =>
          rw [collection_of_null null]
          exact .unresolved null
      | false =>
          by_cases apart : ∀ folder next rest, (directory.resolve file).names ≠
              (directory.resolve root).names ++ folder :: next :: rest
          · rw [collection_of_aside null apart]
            exact .aside null isOuter isInner apart
          · push Not at apart
            obtain ⟨folder, next, rest, cut⟩ := apart
            rw [collection_of_below null cut]
            exact .below null isOuter (cut ▸ isInner)

theorem CollectionOf.eq_collection {root : Option Path}
    (isCollection : CollectionOf directory file root name) :
    collection directory file root = name := by
  cases isCollection with
  | rootless => rfl
  | unresolved null => exact collection_of_null null
  | below notNull isOuter isInner =>
      apply collection_of_below notNull
      rw [leadsTo_iff.mp isInner, leadsTo_iff.mp isOuter]
  | aside notNull isOuter isInner apart =>
      apply collection_of_aside notNull
      rw [leadsTo_iff.mp isInner, leadsTo_iff.mp isOuter]
      exact apart

/-! ## Pages -/

theorem collection_congr (files : SamePlace directory file other)
    (roots : SamePlace directory root otherRoot) :
    collection directory other (some otherRoot) =
      collection directory file (some root) := by
  unfold collection
  dsimp only
  rw [files.hasNull_eq, files.resolve_eq, roots.hasNull_eq, roots.resolve_eq]

theorem context_congr {root otherRoot : Option Path} (named : other.name = file.name)
    (collected : collection directory other otherRoot =
      collection directory file root) :
    context directory other otherRoot head = context directory file root head := by
  unfold context
  rw [stem, stem, named, collected]

/-- The text is another way to write the path of a text, in several steps. -/
def RespellsAll (directory : Path) : String → String → Prop :=
  Relation.ReflTransGen (Respells directory)

theorem RespellsAll.samePlace {text other : String}
    (current : directory.IsCurrent) (respells : RespellsAll directory text other) :
    SamePlace directory (ofString text) (ofString other) := by
  induction respells with
  | refl => exact .refl directory _
  | tail _ last induction => exact induction.trans (last.samePlace current)

/-- The page of a file is the same however the paths of the file and of the
content root are written, if the last name of the file is a name and not dots.
Its collection is the first folder below the root on the way to the file, if the
file lies in a folder there and the two paths can be resolved. -/
theorem context_of_respells (current : directory.IsCurrent) {file : String}
    (named : (ofString file).names ≠ [] ∧ (ofString file).name ≠ "..")
    (root : Option String) (head : List (Value × Value)) :
    (∀ other otherRoot, RespellsAll directory file other →
      Option.Rel (RespellsAll directory) root otherRoot →
      context directory (ofString other) (otherRoot.map ofString) head =
        context directory (ofString file) (root.map ofString) head) ∧
    ∀ page, context directory (ofString file) (root.map ofString) head = .ok page →
      ∀ name, page.field? "collection" = some (.text name) ↔
        CollectionOf directory (ofString file) (root.map ofString) name := by
  constructor
  · intro other otherRoot files roots
    have samePlace := files.samePlace current
    apply context_congr (samePlace.name_eq named.1 named.2).2
    cases roots with
    | none => rfl
    | some roots => exact collection_congr samePlace (roots.samePlace current)
  · intro page made name
    obtain ⟨-, rfl⟩ := context_eq_ok_iff.mp made
    have shown : (Value.record (entries directory (ofString file)
        (root.map ofString) head)).field? "collection" =
          some (.text (collection directory (ofString file) (root.map ofString))) :=
      rfl
    rw [shown]
    constructor
    · intro same
      cases same
      exact collectionOf_collection _ _ _
    · intro isCollection
      rw [isCollection.eq_collection]

/-- A directory that paths are taken from. -/
def work : Path := ⟨.root, ["work"]⟩

theorem work_isCurrent : work.IsCurrent where
  fromRoot := by decide
  notNull := by decide

theorem context_of_dot_and_detour :
    work.IsCurrent ∧
      ((ofString "content/blog/a.md").names ≠ [] ∧
        (ofString "content/blog/a.md").name ≠ "..") ∧
      context work (ofString "/work/content/./blog/a.md")
          (some (ofString "site/../content")) [] =
        context work (ofString "content/blog/a.md") (some (ofString "content")) [] ∧
      ∃ page,
        context work (ofString "content/blog/a.md") (some (ofString "content")) [] =
          .ok page ∧
        page.field? "collection" = some (.text "blog") := by
  have named : (ofString "content/blog/a.md").names ≠ [] ∧
      (ofString "content/blog/a.md").name ≠ ".." := by
    decide
  have files : RespellsAll work "content/blog/a.md" "/work/content/./blog/a.md" := by
    have dot : Respells work "content/blog/a.md" "content/./blog/a.md" :=
      @Respells.dot work "content/" "blog/a.md" ⟨by decide, by simp, by decide⟩
    exact .head dot (.single (.absolute (by decide)))
  have roots : RespellsAll work "content" "site/../content" := by
    have detour : Respells work "content" "site/../content" :=
      @Respells.detour work "" "content" "site" ⟨by decide, by simp, by decide⟩
        ⟨by decide, by decide, by decide⟩ (by decide)
    exact .single detour
  obtain ⟨same, collected⟩ :=
    context_of_respells work_isCurrent named (some "content") []
  have describable : Describable [] := by constructor <;> decide
  have made : context work (ofString "content/blog/a.md")
      (some (ofString "content")) [] = .ok _ :=
    context_eq_ok_iff.mpr ⟨describable, rfl⟩
  refine ⟨work_isCurrent, named, same _ (some _) files (.some roots), ?_⟩
  refine ⟨_, made, ?_⟩
  have isOuter : LeadsTo work (ofString "content") ["work", "content"] :=
    leadsTo_iff.mpr (by decide)
  have isInner : LeadsTo work (ofString "content/blog/a.md")
      ["work", "content", "blog", "a.md"] :=
    leadsTo_iff.mpr (by decide)
  exact (collected _ made "blog").mpr (.below (by decide) isOuter isInner)

/-- With a NUL in the name of the folder, the path cannot be resolved any more. -/
theorem not_context_of_detour :
    ¬ ∀ (directory : Path) (before after name root : String)
      (head : List (Value × Value)), directory.IsCurrent →
      (ofString (before ++ after)).name ≠ ".." →
      AtName before after → IsPlainName name →
        context directory (ofString (before ++ name ++ "/../" ++ after))
            (some (ofString root)) head =
          context directory (ofString (before ++ after)) (some (ofString root))
            head := by
  intro same
  have blog := same work "content/" "blog/b.md" "\x00" "content" [] work_isCurrent
    (by decide) ⟨by decide, by simp, by decide⟩ ⟨by decide, by decide, by decide⟩
  have shown := congrArg (fun page => page.toOption.map Value.display) blog
  revert shown
  decide +kernel

end Shortcode.Page
