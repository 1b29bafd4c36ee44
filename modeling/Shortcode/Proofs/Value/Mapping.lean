import Mathlib.Data.List.Induction
import Shortcode.Value

/-!
# Entries of mappings

No key of a mapping comes twice.  Setting the entries of one mapping in another
leaves the order of the keys: those that both have keep their places and take the
new contents, the others come behind.
-/

namespace Shortcode.Value

variable {name : String} {key entry content : Value}
  {entries additions : List (Value × Value)}

/-! ## Keys that are texts -/

/-- The entry of a name, null if there is none. -/
def entryOf (name : String) (entries : List (Value × Value)) : Value :=
  (find? (.text name) entries).getD .null

theorem same_iff_of_text? (named : entry.text? = some name) :
    entry.same key = true ↔ key.text? = some name := by
  rw [eq_comm (b := some name)]
  cases entry with
  | text content =>
      cases named
      cases key <;> simp [same, sameScalar, text?, int?]
  | markup content =>
      cases named
      cases key <;> simp [same, sameScalar, text?, int?]
  | _ => cases named

theorem same_text_iff :
    (Value.text name).same key = true ↔ key.text? = some name :=
  same_iff_of_text? rfl

/-- Only the text of a key is one with it. -/
theorem sameKey_iff_of_text? (named : entry.text? = some name) :
    key.sameKey entry = true ↔ key.text? = some name := by
  cases entry with
  | text content =>
      cases named
      cases key <;> simp [sameKey, same, sameScalar, text?, int?, isNotNumber]
  | markup content =>
      cases named
      cases key <;> simp [sameKey, same, sameScalar, text?, int?, isNotNumber]
  | _ => cases named

theorem find?_insert_of_ne (different : key.text? ≠ some name) :
    find? (.text name) (insert key content entries) =
      find? (.text name) entries := by
  induction entries with
  | nil =>
      have other : (Value.text name).same key = false := by
        rw [Bool.eq_false_iff, Ne, same_text_iff]
        exact different
      simp [insert, find?, other]
  | cons entry rest induction =>
      rw [insert]
      split
      · rename_i one
        have other : (Value.text name).same entry.1 = false := by
          rw [Bool.eq_false_iff, Ne, same_text_iff]
          exact fun named => different ((sameKey_iff_of_text? named).mp one)
        simp [find?, other]
      · unfold find? at induction ⊢
        simp only [List.find?_cons]
        split
        · rfl
        · exact induction

theorem find?_merge_of_ne
    (different : ∀ addition ∈ additions, addition.1.text? ≠ some name) :
    find? (.text name) (merge entries additions) =
      find? (.text name) entries := by
  unfold merge
  induction additions generalizing entries with
  | nil => rfl
  | cons addition rest induction =>
      rw [List.forall_mem_cons] at different
      rw [List.foldl_cons, induction different.2,
        find?_insert_of_ne different.1]

/-! ## Keys that come once -/

/-- No key of the entries is one with a key before it. -/
def DistinctKeys (entries : List (Value × Value)) : Prop :=
  entries.Pairwise fun earlier later => later.1.sameKey earlier.1 = false

theorem mem_insert {found : Value × Value}
    (member : found ∈ insert key content entries) :
    found.1 = key ∨ ∃ entry ∈ entries, found.1 = entry.1 := by
  induction entries with
  | nil => exact .inl (congrArg Prod.fst (List.mem_singleton.mp member))
  | cons entry rest induction =>
      rw [insert] at member
      split at member
      · rcases List.mem_cons.mp member with rfl | later
        · exact .inr ⟨entry, List.mem_cons_self, rfl⟩
        · exact .inr ⟨found, List.mem_cons_of_mem _ later, rfl⟩
      · rcases List.mem_cons.mp member with rfl | later
        · exact .inr ⟨found, List.mem_cons_self, rfl⟩
        · apply (induction later).imp_right
          rintro ⟨other, inside, same⟩
          exact ⟨other, List.mem_cons_of_mem _ inside, same⟩

theorem DistinctKeys.insert (distinct : DistinctKeys entries) (key content : Value) :
    DistinctKeys (insert key content entries) := by
  unfold DistinctKeys at distinct ⊢
  induction distinct with
  | nil => exact List.pairwise_singleton _ _
  | @cons entry rest first distinct induction =>
      rw [Value.insert]
      split
      · exact .cons first distinct
      · rename_i other
        refine .cons ?_ induction
        intro found member
        rcases mem_insert member with same | ⟨later, inside, same⟩
        · rw [same]
          exact Bool.eq_false_iff.mpr other
        · rw [same]
          exact first later inside

theorem DistinctKeys.merge (distinct : DistinctKeys entries)
    (additions : List (Value × Value)) : DistinctKeys (merge entries additions) := by
  unfold Value.merge
  induction additions generalizing entries with
  | nil => exact distinct
  | cons addition rest induction => exact induction (distinct.insert _ _)

/-! ## Mappings over mappings -/

/-- Entries under different names. -/
structure IsRecord (entries : List (Value × Value)) : Prop where
  named : ∀ entry ∈ entries, ∃ name, entry.1.text? = some name
  distinct : entries.Pairwise fun earlier later => later.1.text? ≠ earlier.1.text?

/-- The entries with those of another mapping over them. -/
def overlay (entries additions : List (Value × Value)) : List (Value × Value) :=
  (entries.map fun entry => (entry.1, (find? entry.1 additions).getD entry.2)) ++
    additions.filter fun addition =>
      !entries.any fun entry => addition.1.sameKey entry.1

/-- A known key takes the content and keeps its place. -/
theorem insert_map_append (isRecord : IsRecord entries)
    (known : (entries.any fun entry => key.sameKey entry.1) = true)
    (contents : Value × Value → Value) (others : List (Value × Value)) :
    insert key content ((entries.map fun entry => (entry.1, contents entry)) ++ others) =
      (entries.map fun entry =>
        (entry.1, if key.sameKey entry.1 then content else contents entry)) ++
          others := by
  obtain ⟨named, distinct⟩ := isRecord
  induction distinct with
  | nil => cases known
  | @cons entry rest first distinct induction =>
      rw [List.forall_mem_cons] at named
      rw [List.map_cons, List.map_cons, List.cons_append, List.cons_append, insert]
      dsimp only
      by_cases one : key.sameKey entry.1 = true
      · obtain ⟨name, isName⟩ := named.1
        have isKey := (sameKey_iff_of_text? isName).mp one
        -- The names are different, so no later entry takes the content as well.
        have others : ∀ later ∈ rest, key.sameKey later.1 = false := by
          intro later member
          obtain ⟨otherName, isOther⟩ := named.2 later member
          rw [Bool.eq_false_iff]
          intro same
          have isSame := (sameKey_iff_of_text? isOther).mp same
          rw [isKey] at isSame
          apply first later member
          rw [isOther, isName, isSame]
        rw [if_pos one, if_pos one]
        congr 2
        apply List.map_congr_left
        intro later member
        rw [if_neg (Bool.eq_false_iff.mp (others later member))]
      · rw [List.any_cons, Bool.or_eq_true, or_iff_right one] at known
        rw [if_neg one, if_neg one, induction known named.2]

/-- A new key comes last. -/
theorem insert_of_new (new : ∀ entry ∈ entries, key.sameKey entry.1 = false) :
    insert key content entries = entries ++ [(key, content)] := by
  induction entries with
  | nil => rfl
  | cons entry rest induction =>
      rw [List.forall_mem_cons] at new
      rw [insert, if_neg (Bool.eq_false_iff.mp new.1), induction new.2]
      rfl

/-- The content of a key once another entry comes last, whose key is new. -/
theorem find?_concat_getD {last : Value × Value} (named : entry.text? = some name)
    (new : ∀ addition ∈ additions, last.1.sameKey addition.1 = false) :
    (find? entry (additions ++ [last])).getD content =
      if last.1.sameKey entry then last.2
      else (find? entry additions).getD content := by
  unfold find?
  rw [List.find?_append]
  by_cases one : last.1.sameKey entry = true
  · have isLast := (sameKey_iff_of_text? named).mp one
    have absent : additions.find? (fun addition => entry.same addition.1) = none := by
      rw [List.find?_eq_none]
      intro addition member same
      have isSame := (same_iff_of_text? named).mp same
      have again := (sameKey_iff_of_text? isSame).mpr isLast
      rw [new addition member] at again
      cases again
    have found : entry.same last.1 = true := (same_iff_of_text? named).mpr isLast
    rw [if_pos one, absent, Option.none_or, List.find?_singleton, found]
    rfl
  · have missed : entry.same last.1 = false := by
      rw [Bool.eq_false_iff]
      intro same
      exact one ((sameKey_iff_of_text? named).mpr ((same_iff_of_text? named).mp same))
    rw [if_neg one, List.find?_singleton, missed, if_neg Bool.false_ne_true,
      Option.or_none]

theorem merge_eq_overlay (isRecord : IsRecord entries)
    (distinct : DistinctKeys additions) :
    merge entries additions = overlay entries additions := by
  -- The last addition is set in what the others have come to; its key is not among theirs.
  induction additions using List.reverseRecOn with
  | nil => simp [merge, overlay, find?]
  | append_singleton rest last induction =>
      obtain ⟨restDistinct, -, new⟩ := List.pairwise_append.mp distinct
      have isNew : ∀ addition ∈ rest, last.1.sameKey addition.1 = false :=
        fun addition member => new addition member last (List.mem_singleton_self _)
      have merged : merge entries (rest ++ [last]) =
          insert last.1 last.2 (overlay entries rest) := by
        rw [← induction restDistinct]
        exact List.foldl_append
      have contents : (entries.map fun entry =>
          (entry.1, (find? entry.1 (rest ++ [last])).getD entry.2)) =
            entries.map fun entry => (entry.1, if last.1.sameKey entry.1 then last.2
              else (find? entry.1 rest).getD entry.2) := by
        apply List.map_congr_left
        intro entry member
        obtain ⟨name, named⟩ := isRecord.named entry member
        rw [find?_concat_getD named isNew]
      rw [merged, overlay, overlay, contents, List.filter_append, List.filter_cons,
        List.filter_nil]
      by_cases known : (entries.any fun entry => last.1.sameKey entry.1) = true
      · rw [insert_map_append isRecord known, known]
        simp
      · rw [Bool.not_eq_true] at known
        have foreign := List.any_eq_false.mp known
        have same : (entries.map fun entry => (entry.1, if last.1.sameKey entry.1 then
            last.2 else (find? entry.1 rest).getD entry.2)) =
              entries.map fun entry => (entry.1, (find? entry.1 rest).getD entry.2) := by
          apply List.map_congr_left
          intro entry member
          rw [if_neg (foreign entry member)]
        rw [insert_of_new, known, same, List.append_assoc]
        · rfl
        · intro entry member
          rcases List.mem_append.mp member with known | added
          · obtain ⟨entry, inside, rfl⟩ := List.mem_map.mp known
            exact Bool.eq_false_iff.mpr (foreign entry inside)
          · exact isNew entry (List.mem_filter.mp added).1

/-- A name stands for what it does in the mapping on top, or else for what it
does below. -/
theorem find?_overlay (isRecord : IsRecord entries) :
    find? (.text name) (overlay entries additions) =
      (find? (.text name) additions).or (find? (.text name) entries) := by
  have kept : (fun entry : Value × Value => (Value.text name).same entry.1) ∘
      (fun entry : Value × Value =>
        (entry.1, (find? entry.1 additions).getD entry.2)) =
          fun entry => (Value.text name).same entry.1 := rfl
  rw [find?, overlay, List.find?_append, List.find?_map, kept]
  cases found : entries.find? fun entry => (Value.text name).same entry.1 with
  | some entry =>
      have isName := List.find?_some found
      have named := same_text_iff.mp isName
      have alike : find? entry.1 additions = find? (.text name) additions := by
        unfold find?
        congr 2
        funext addition
        rw [Bool.eq_iff_iff, same_iff_of_text? named, same_text_iff]
      have below : find? (.text name) entries = some entry.2 := by
        rw [find?, found]
        rfl
      rw [below, Option.map_some, Option.some_or, Option.map_some, alike]
      cases find? (.text name) additions with
      | none => rfl
      | some content => rfl
  | none =>
      have below : find? (.text name) entries = none := by
        rw [find?, found]
        rfl
      rw [below, Option.or_none, Option.map_none, Option.none_or, List.find?_filter,
        find?]
      congr 2
      funext addition
      rw [Bool.eq_iff_iff, decide_eq_true_iff, and_iff_right_iff_imp]
      intro same
      rw [Bool.not_eq_true', List.any_eq_false]
      intro entry member one
      obtain ⟨other, named⟩ := isRecord.named entry member
      have isOther := (sameKey_iff_of_text? named).mp one
      rw [same_text_iff.mp same] at isOther
      have absent := List.find?_eq_none.mp found entry member
      rw [same_text_iff, named] at absent
      exact absent isOther.symm

end Shortcode.Value
