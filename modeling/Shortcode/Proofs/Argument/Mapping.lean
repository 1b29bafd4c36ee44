import Mathlib.Data.List.Induction
import Shortcode.Proofs.Argument.Reading

/-!
# The mapping of a list of pairs

Setting the pairs one after the other leaves each key where it first appears,
with the value that it was given last.
-/

namespace Shortcode

namespace Arguments

/-- Every key stands where it first appears, with the value it was given last. -/
structure Collects (pairs : List (String × Scalar)) (arguments : Arguments) :
    Prop where
  keys : arguments.map Prod.fst = (pairs.map Prod.fst).eraseDups
  values : ∀ key, arguments.lookup key = pairs.reverse.lookup key

/-- The arguments with the pairs set one after the other. -/
def insertAll (found : Arguments) (pairs : List (String × Scalar)) : Arguments :=
  pairs.foldl (fun found pair => found.insert pair.1 pair.2) found

theorem keys_insert (key : String) (scalar : Scalar) (arguments : Arguments) :
    (arguments.insert key scalar).map Prod.fst =
      if key ∈ arguments.map Prod.fst then arguments.map Prod.fst
      else arguments.map Prod.fst ++ [key] := by
  induction arguments with
  | nil => simp [insert]
  | cons entry rest induction =>
      by_cases same : entry.1 = key
      · simp [insert, same]
      · rw [insert, if_neg (by simpa using same), List.map_cons, induction]
        simp only [List.map_cons, List.mem_cons, Ne.symm same, false_or]
        split <;> rfl

theorem lookup_cons (key : String) (scalar : Scalar) (rest : Arguments)
    (other : String) :
    List.lookup other ((key, scalar) :: rest) =
      if other = key then some scalar else rest.lookup other := by
  by_cases here : other = key
  · simp [here]
  · rw [List.lookup_cons, beq_eq_false_iff_ne.mpr here, if_neg here]

theorem lookup_insert (key : String) (scalar : Scalar) (arguments : Arguments)
    (other : String) :
    (arguments.insert key scalar).lookup other =
      if other = key then some scalar else arguments.lookup other := by
  induction arguments with
  | nil => rw [insert, lookup_cons]
  | cons entry rest induction =>
      obtain ⟨first, content⟩ := entry
      by_cases same : first = key
      · subst same
        rw [insert, if_pos (beq_self_eq_true first), lookup_cons, lookup_cons]
        split <;> rfl
      · rw [insert, if_neg (by simpa using same), lookup_cons, lookup_cons,
          induction]
        by_cases here : other = first
        · simp [here, same]
        · simp [here]

theorem Collects.insert {pairs : List (String × Scalar)} {arguments : Arguments}
    (collects : Collects pairs arguments) (key : String) (scalar : Scalar) :
    Collects (pairs ++ [(key, scalar)]) (arguments.insert key scalar) := by
  constructor
  · rw [keys_insert, collects.keys, List.map_append, List.eraseDups_append]
    by_cases known : key ∈ pairs.map Prod.fst
    · have before : key ∈ (pairs.map Prod.fst).eraseDups :=
        List.mem_eraseDups.mpr known
      rw [if_pos before]
      simp [List.removeAll, List.filter, List.mem_map.mp known]
    · have absent : key ∉ (pairs.map Prod.fst).eraseDups :=
        mt List.mem_eraseDups.mp known
      rw [if_neg absent]
      simp [List.removeAll, List.filter, known, List.eraseDups_cons]
  · intro other
    rw [lookup_insert, List.reverse_append, List.reverse_singleton,
      List.singleton_append, lookup_cons, collects.values]

theorem collects_insertAll (pairs : List (String × Scalar)) :
    Collects pairs (insertAll [] pairs) := by
  induction pairs using List.reverseRecOn with
  | nil => constructor <;> simp [insertAll]
  | append_singleton pairs pair induction =>
      rw [insertAll, List.foldl_append]
      exact induction.insert pair.1 pair.2

theorem lookup_eq_none {arguments : Arguments} {key : String}
    (absent : key ∉ arguments.map Prod.fst) : arguments.lookup key = none := by
  rw [List.lookup_eq_none_iff]
  intro entry member
  rw [bne_iff_ne]
  rintro rfl
  exact absent (List.mem_map.mpr ⟨entry, member, rfl⟩)

theorem eq_of_lookup_eq {left right : Arguments}
    (distinct : (left.map Prod.fst).Nodup)
    (keys : left.map Prod.fst = right.map Prod.fst)
    (values : ∀ key, left.lookup key = right.lookup key) : left = right := by
  induction left generalizing right with
  | nil => exact (List.map_eq_nil_iff.mp keys.symm).symm
  | cons entry rest induction =>
      cases right with
      | nil => cases keys
      | cons other others =>
          obtain ⟨key, scalar⟩ := entry
          obtain ⟨other, content⟩ := other
          obtain ⟨same, later⟩ := List.cons.inj keys
          obtain rfl : key = other := same
          obtain ⟨absent, distinct⟩ := List.nodup_cons.mp distinct
          have here : scalar = content := by simpa [lookup_cons] using values key
          rw [here, induction distinct later]
          intro other
          by_cases first : other = key
          · rw [first, lookup_eq_none absent, lookup_eq_none (later ▸ absent)]
          · simpa [lookup_cons, first] using values other

theorem nodup_insertAll (pairs : List (String × Scalar)) :
    ((insertAll [] pairs).map Prod.fst).Nodup := by
  induction pairs using List.reverseRecOn with
  | nil => exact List.nodup_nil
  | append_singleton pairs pair induction =>
      rw [insertAll, List.foldl_append]
      exact nodup_insert induction

/-- The keys and the values fix the mapping. -/
theorem collects_iff {pairs : List (String × Scalar)} {arguments : Arguments} :
    Collects pairs arguments ↔ arguments = insertAll [] pairs := by
  have collected := collects_insertAll pairs
  constructor
  · intro collects
    refine (eq_of_lookup_eq (nodup_insertAll pairs) ?_ ?_).symm
    · rw [collected.keys, collects.keys]
    · exact fun key => (collected.values key).trans (collects.values key).symm
  · rintro rfl
    exact collected

end Arguments

end Shortcode
