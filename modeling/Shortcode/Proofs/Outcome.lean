import Mathlib.Data.List.Forall2

/-!
# Outcomes

What a step has come to, from what is made of it, and what the same step has
come to at each item of a list.
-/

namespace Shortcode

theorem exists_of_map_eq_ok {ε α β : Type} {step : α → β}
    {answer : Except ε α} {result : β} (mapped : answer.map step = .ok result) :
    ∃ value, answer = .ok value ∧ step value = result := by
  cases answer with
  | error failure => cases mapped
  | ok value => exact ⟨value, rfl, Except.ok.inj mapped⟩

theorem eq_error_of_map_eq_error {ε α β : Type} {step : α → β}
    {answer : Except ε α} {failure : ε}
    (mapped : answer.map step = .error failure) : answer = .error failure := by
  cases answer with
  | error other => exact congrArg Except.error (Except.error.inj mapped)
  | ok value => cases mapped

theorem eq_ok_of_toOption {ε α : Type} {answer : Except ε α} {value : α}
    (answered : answer.toOption = some value) : answer = .ok value := by
  cases answer with
  | error fault => cases answered
  | ok other => exact congrArg Except.ok (Option.some.inj answered)

/-- The failure of a step that has failed. -/
def failure? {ε α : Type} : (answer : Except ε α) → Option ε
  | .ok _ => none
  | .error failure => some failure

theorem eq_error_of_failure? {ε α : Type} {answer : Except ε α} {failure : ε}
    (failed : failure? answer = some failure) : answer = .error failure := by
  cases answer with
  | ok value => cases failed
  | error other => exact congrArg Except.error (Option.some.inj failed)

theorem exists_of_bind_eq_ok {ε α β : Type} {answer : Except ε α}
    {next : α → Except ε β} {result : β} (run : answer >>= next = .ok result) :
    ∃ value, answer = .ok value ∧ next value = .ok result := by
  cases answer with
  | error failure => cases run
  | ok value => exact ⟨value, rfl, run⟩

theorem eq_ok_of_mapError {ε δ α : Type} {change : ε → δ}
    {answer : Except ε α} {value : α}
    (mapped : answer.mapError change = .ok value) : answer = .ok value := by
  cases answer with
  | error failure => cases mapped
  | ok other => exact congrArg Except.ok (Except.ok.inj mapped)

section Lists

variable {ε α β : Type} {step : α → Except ε β} {items : List α}

theorem mapM_eq_ok_iff {results : List β} :
    items.mapM step = .ok results ↔
      List.Forall₂ (fun item result => step item = .ok result)
        items results := by
  induction items generalizing results with
  | nil =>
      rw [List.mapM_nil, List.forall₂_nil_left_iff]
      constructor
      · exact fun same => (Except.ok.inj same).symm
      · exact fun same => same ▸ rfl
  | cons item rest induction =>
      rw [List.mapM_cons, List.forall₂_cons_left_iff]
      cases first : step item with
      | error failure => simp [bind, Except.bind]
      | ok result =>
          cases others : rest.mapM step with
          | error failure => simp [bind, Except.bind, ← induction, others]
          | ok more =>
              simp [bind, Except.bind, pure, Except.pure, ← induction, others,
                eq_comm]

theorem exists_item_of_mapM {results : List β}
    (mapped : items.mapM step = .ok results) {result : β}
    (member : result ∈ results) : ∃ item ∈ items, step item = .ok result := by
  have related := mapM_eq_ok_iff.mp mapped
  clear mapped
  induction related with
  | nil => cases member
  | cons first _ induction =>
      rcases List.mem_cons.mp member with rfl | later
      · exact ⟨_, List.mem_cons_self, first⟩
      · obtain ⟨item, found, same⟩ := induction later
        exact ⟨item, List.mem_cons_of_mem _ found, same⟩

theorem map_eq_of_mapM {γ : Type} {results : List β} {itemKey : α → γ}
    {resultKey : β → γ} (mapped : items.mapM step = .ok results)
    (kept : ∀ item result, step item = .ok result →
      resultKey result = itemKey item) :
    results.map resultKey = items.map itemKey := by
  have related := mapM_eq_ok_iff.mp mapped
  clear mapped
  induction related with
  | nil => rfl
  | cons first _ induction =>
      rw [List.map_cons, List.map_cons, kept _ _ first, induction]

/-- A change of the items that comes out as a change of the results. -/
theorem mapM_map_eq {otherStep : α → Except ε β} {change : α → α}
    {changed : β → β}
    (same : ∀ item ∈ items, otherStep (change item) = (step item).map changed) :
    (items.map change).mapM otherStep =
      (items.mapM step).map (List.map changed) := by
  induction items with
  | nil => rfl
  | cons item rest induction =>
      rw [List.forall_mem_cons] at same
      rw [List.map_cons, List.mapM_cons, List.mapM_cons, same.1,
        induction same.2]
      cases step item with
      | error failure => rfl
      | ok result =>
          cases rest.mapM step with
          | error failure => rfl
          | ok results => rfl

/-- The first item at which the step fails. -/
theorem exists_of_mapM_eq_error {failure : ε}
    (mapped : items.mapM step = .error failure) :
    ∃ lead item rest, items = lead ++ item :: rest ∧
      step item = .error failure ∧
      ∀ earlier ∈ lead, ∃ result, step earlier = .ok result := by
  induction items with
  | nil => cases mapped
  | cons item rest induction =>
      rw [List.mapM_cons] at mapped
      cases first : step item with
      | error other =>
          rw [first] at mapped
          cases mapped
          exact ⟨[], item, rest, rfl, first, by simp⟩
      | ok result =>
          rw [first] at mapped
          cases others : rest.mapM step with
          | ok more =>
              rw [others] at mapped
              cases mapped
          | error other =>
              rw [others] at mapped
              cases mapped
              obtain ⟨lead, failing, behind, rfl, failed, earlier⟩ :=
                induction others
              refine ⟨item :: lead, failing, behind, rfl, failed, ?_⟩
              intro before member
              rcases List.mem_cons.mp member with rfl | later
              · exact ⟨result, first⟩
              · exact earlier before later

/-- Steps that come to the same at related items. -/
theorem mapM_congr_of_forall₂ {related : α → α → Prop} {otherStep : α → Except ε β}
    {others : List α} (relates : List.Forall₂ related items others)
    (same : ∀ item other, related item other → otherStep other = step item) :
    others.mapM otherStep = items.mapM step := by
  induction relates with
  | nil => rfl
  | cons first _ induction =>
      rw [List.mapM_cons, List.mapM_cons, same _ _ first, induction]

theorem forall₂_of_mapM_eq_some {step : α → Option β} {results : List β}
    (mapped : items.mapM step = some results) :
    List.Forall₂ (fun item result => step item = some result) items results := by
  induction items generalizing results with
  | nil =>
      cases mapped
      exact .nil
  | cons item rest induction =>
      rw [List.mapM_cons] at mapped
      obtain ⟨result, first, mapped⟩ := Option.bind_eq_some_iff.mp mapped
      obtain ⟨others, later, mapped⟩ := Option.bind_eq_some_iff.mp mapped
      cases mapped
      exact .cons first (induction later)

theorem forall_mem_of_forall₂ {related : α → β → Prop} {results : List β}
    (good : β → Prop) (relates : List.Forall₂ related items results)
    (kept : ∀ item ∈ items, ∀ result, related item result → good result) :
    ∀ result ∈ results, good result := by
  induction relates with
  | nil => exact List.forall_mem_nil _
  | cons first _ induction =>
      rw [List.forall_mem_cons] at kept ⊢
      exact ⟨kept.1 _ first, induction kept.2⟩

theorem findSome?_congr {first second : α → Option β}
    (same : ∀ item ∈ items, first item = second item) :
    items.findSome? first = items.findSome? second := by
  induction items with
  | nil => rfl
  | cons item rest induction =>
      rw [List.forall_mem_cons] at same
      rw [List.findSome?_cons, List.findSome?_cons, same.1, induction same.2]

end Lists

end Shortcode
