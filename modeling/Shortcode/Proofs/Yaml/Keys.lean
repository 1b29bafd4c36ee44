import Shortcode.Proofs.Outcome
import Shortcode.Proofs.Value.Mapping
import Shortcode.Yaml.Load

/-!
# Keys of YAML mappings

No key comes twice in a mapping that is read from YAML, nor in a mapping inside of
a value that is, whether collections hold themselves or not.
-/

namespace Shortcode

namespace Value

variable {content : Value} {entries additions : List (Value × Value)}
  {other? : Value → Option Value} {collection? : Nat → Option Value}
  {bodies : List (Nat × Value)}

/-- The value is no collection. -/
def isAlone : Value → Bool
  | .list _ | .tuple _ | .map _ | .cycle .. => false
  | _ => true

/-- No key comes twice in any mapping in the value. -/
inductive WellKeyed : Value → Prop
  | alone {content : Value} (plain : content.isAlone = true) : WellKeyed content
  | list {items : List Value} (inside : ∀ item ∈ items, WellKeyed item) :
      WellKeyed (.list items)
  | tuple {items : List Value} (inside : ∀ item ∈ items, WellKeyed item) :
      WellKeyed (.tuple items)
  | map {entries : List (Value × Value)} (distinct : DistinctKeys entries)
      (inside : ∀ entry ∈ entries, WellKeyed entry.2) : WellKeyed (.map entries)
  | cycle {bodies : List (Nat × Value)} {place : Nat}
      (inside : ∀ body ∈ bodies, WellKeyed body.2) : WellKeyed (.cycle bodies place)

theorem distinctKeys_iff :
    DistinctKeys entries ↔
      (entries.map (·.1)).Pairwise fun earlier later =>
        later.sameKey earlier = false := by
  rw [List.pairwise_map]
  rfl

theorem mem_insert_content {key : Value} {found : Value × Value}
    (member : found ∈ insert key content entries) :
    found.2 = content ∨ found ∈ entries := by
  induction entries with
  | nil => exact .inl (congrArg Prod.snd (List.mem_singleton.mp member))
  | cons entry rest induction =>
      rw [insert] at member
      split at member
      · rcases List.mem_cons.mp member with rfl | later
        · exact .inl rfl
        · exact .inr (List.mem_cons_of_mem _ later)
      · rcases List.mem_cons.mp member with rfl | later
        · exact .inr List.mem_cons_self
        · exact (induction later).imp_right (List.mem_cons_of_mem _)

theorem wellKeyed_merge (distinct : DistinctKeys entries)
    (inside : ∀ entry ∈ entries, entry.2.WellKeyed)
    (added : ∀ addition ∈ additions, addition.2.WellKeyed) :
    (Value.map (merge entries additions)).WellKeyed := by
  refine .map (distinct.merge additions) ?_
  unfold merge
  clear distinct
  induction additions generalizing entries with
  | nil => exact inside
  | cons addition rest induction =>
      rw [List.forall_mem_cons] at added
      apply induction _ added.2
      intro found member
      rcases mem_insert_content member with same | before
      · rw [same]
        exact added.1
      · exact inside found before

/-! ## Collections that hold themselves -/

theorem WellKeyed.mapInside? (keyed : content.WellKeyed) {result : Value}
    (mapped : mapInside? other? content = some result)
    (kept : ∀ item made, item.WellKeyed → other? item = some made → made.WellKeyed) :
    result.WellKeyed := by
  unfold Value.mapInside? at mapped
  cases keyed with
  | list inside =>
      obtain ⟨items, steps, rfl⟩ := Option.map_eq_some_iff.mp mapped
      exact .list (forall_mem_of_forall₂ WellKeyed (forall₂_of_mapM_eq_some steps)
        fun item member made => kept item made (inside item member))
  | tuple inside =>
      obtain ⟨items, steps, rfl⟩ := Option.map_eq_some_iff.mp mapped
      exact .tuple (forall_mem_of_forall₂ WellKeyed (forall₂_of_mapM_eq_some steps)
        fun item member made => kept item made (inside item member))
  | @map entries distinct inside =>
      obtain ⟨made, steps, rfl⟩ := Option.map_eq_some_iff.mp mapped
      have relates := forall₂_of_mapM_eq_some steps
      have keys : made.map (·.1) = entries.map (·.1) := by
        clear distinct inside mapped steps
        induction relates with
        | nil => rfl
        | cons first _ induction =>
            obtain ⟨content, -, rfl⟩ := Option.map_eq_some_iff.mp first
            rw [List.map_cons, List.map_cons, induction]
      refine .map ?_ ?_
      · rw [distinctKeys_iff, keys, ← distinctKeys_iff]
        exact distinct
      · apply forall_mem_of_forall₂ (fun entry => entry.2.WellKeyed) relates
        intro entry member result changed
        obtain ⟨content, step, rfl⟩ := Option.map_eq_some_iff.mp changed
        exact kept _ _ (inside entry member) step
  | cycle inside =>
      cases mapped
      exact .cycle inside
  | alone plain =>
      cases content with
      | list items => cases plain
      | tuple items => cases plain
      | map entries => cases plain
      | cycle bodies place => cases plain
      | _ =>
          cases mapped
          exact .alone rfl

theorem WellKeyed.unlinked? (keyed : content.WellKeyed) {result : Value}
    (made : unlinked? collection? content = some result)
    (kept : ∀ place made, collection? place = some made → made.WellKeyed) :
    result.WellKeyed := by
  unfold Value.unlinked? at made
  split at made
  · exact kept _ _ made
  · rename_i key _ place
    obtain ⟨content, found, rfl⟩ := Option.map_eq_some_iff.mp made
    cases keyed with
    | tuple inside =>
        refine .tuple ?_
        rw [List.forall_mem_cons] at inside ⊢
        exact ⟨inside.1, by simpa using kept place content found⟩
    | alone plain => cases plain
  · cases made
    exact keyed

theorem wellKeyed_of_lookup (inside : ∀ body ∈ bodies, body.2.WellKeyed) {place : Nat}
    (found : bodies.lookup place = some content) : content.WellKeyed := by
  obtain ⟨before, after, cut, -⟩ := List.lookup_eq_some_iff.mp found
  exact inside (place, content) (by simp [cut])

theorem wellKeyed_of_finite? (inside : ∀ body ∈ bodies, body.2.WellKeyed)
    (fuel : Nat) (place : Nat) (made : finite? bodies fuel place = some content) :
    content.WellKeyed := by
  induction fuel generalizing place content with
  | zero => cases made
  | succ fuel induction =>
      obtain ⟨body, found, made⟩ := Option.bind_eq_some_iff.mp made
      apply (wellKeyed_of_lookup inside found).mapInside? made
      intro item result keyed unlinked
      exact keyed.unlinked? unlinked fun other made finite => induction other finite

theorem wellKeyed_ofPlace (inside : ∀ body ∈ bodies, body.2.WellKeyed) (place : Nat) :
    (ofPlace bodies place).WellKeyed := by
  unfold ofPlace
  cases made : finite? bodies (bodies.length + 1) place with
  | none => exact .cycle inside
  | some content => exact wellKeyed_of_finite? inside _ _ made

theorem WellKeyed.opened (keyed : content.WellKeyed) : content.opened.WellKeyed := by
  unfold Value.opened
  cases keyed with
  | @cycle bodies place inside =>
      dsimp only
      cases made : (bodies.lookup place).bind
          (Value.mapInside? (Value.unlinked? (some ∘ ofPlace bodies))) with
      | none => exact .alone rfl
      | some result =>
          obtain ⟨body, found, made⟩ := Option.bind_eq_some_iff.mp made
          apply (wellKeyed_of_lookup inside found).mapInside? made
          intro item result keyed unlinked
          apply keyed.unlinked? unlinked
          rintro other made ⟨⟩
          exact wellKeyed_ofPlace inside other
  | list inside => exact .list inside
  | tuple inside => exact .tuple inside
  | map distinct inside => exact .map distinct inside
  | alone plain =>
      cases content with
      | cycle bodies place => cases plain
      | _ => exact .alone plain

theorem WellKeyed.link (keyed : content.WellKeyed) : content.link.WellKeyed := by
  unfold Value.link
  split
  · exact .cycle (List.forall_mem_nil _)
  · cases keyed with
    | tuple inside =>
        refine .tuple ?_
        rw [List.forall_mem_cons] at inside ⊢
        exact ⟨inside.1, by simpa using .cycle (List.forall_mem_nil _)⟩
    | alone plain => cases plain
  · exact keyed

theorem WellKeyed.held (keyed : content.WellKeyed) :
    ∀ body ∈ content.bodies, body.2.WellKeyed := by
  unfold Value.bodies
  split
  · cases keyed with
    | cycle inside => exact inside
    | alone plain => cases plain
  · cases keyed with
    | tuple inside =>
        have second := inside _ (List.mem_cons_of_mem _ (List.mem_singleton_self _))
        cases second with
        | cycle inside => exact inside
        | alone plain => cases plain
    | alone plain => cases plain
  · exact List.forall_mem_nil _

theorem WellKeyed.numbered (keyed : content.WellKeyed) (place : Nat) :
    (numbered place content).WellKeyed := by
  refine .cycle ?_
  rw [List.forall_mem_cons]
  constructor
  · cases made : Value.mapInside? (some ∘ Value.link) content with
    | none => exact keyed
    | some result =>
        apply keyed.mapInside? made
        rintro item made keyed ⟨⟩
        exact keyed.link
  · cases keyed with
    | list inside =>
        intro body member
        obtain ⟨item, found, held⟩ := List.mem_flatMap.mp member
        exact (inside item found).held body held
    | map distinct inside =>
        intro body member
        obtain ⟨entry, found, held⟩ := List.mem_flatMap.mp member
        exact (inside entry found).held body held
    | tuple inside => exact List.forall_mem_nil _
    | cycle inside => exact List.forall_mem_nil _
    | alone plain =>
        cases content with
        | list items => cases plain
        | map entries => cases plain
        | _ => exact List.forall_mem_nil _

end Value

namespace Yaml

open Value

/-! ## What YAML describes -/

theorem wellKeyed_of_scalarValue {tag : Tag} {text : String} {content : Value}
    (made : scalarValue tag text = .ok content) : content.WellKeyed := by
  unfold scalarValue at made
  cases tag with
  | null =>
      cases made
      exact .alone rfl
  | text =>
      cases made
      exact .alone rfl
  | bool =>
      obtain ⟨flag, -, rfl⟩ := exists_of_map_eq_ok (eq_ok_of_mapError made)
      exact .alone rfl
  | int =>
      obtain ⟨number, -, rfl⟩ := exists_of_map_eq_ok (eq_ok_of_mapError made)
      exact .alone rfl
  | float =>
      obtain ⟨number, -, rfl⟩ := exists_of_map_eq_ok (eq_ok_of_mapError made)
      exact .alone rfl
  | timestamp =>
      have dated := eq_ok_of_mapError made
      unfold timestampValue at dated
      split at dated
      · obtain ⟨day, -, rfl⟩ := exists_of_map_eq_ok (eq_ok_of_mapError dated)
        exact .alone rfl
      · obtain ⟨time, -, rfl⟩ := exists_of_map_eq_ok (eq_ok_of_mapError dated)
        exact .alone rfl
      · cases dated
  | binary =>
      dsimp only at made
      unfold binaryValue at made
      split at made
      · cases made
        exact .alone rfl
      · cases made
  | _ => cases made

theorem wellKeyed_of_node_scalarValue {node : Node} {tag : Tag} {content : Value}
    (made : node.scalarValue tag = .ok content) : content.WellKeyed := by
  unfold Node.scalarValue at made
  split at made
  · cases made
  · cases made
  · split at made
    · cases made
    · exact wellKeyed_of_scalarValue (eq_ok_of_mapError made)

/-- The contents of the entries have no key twice in any mapping. -/
def Entries.WellKeyed (entries : Entries) : Prop :=
  ∀ outcome ∈ entries, ∀ entry, outcome = .ok entry → entry.2.WellKeyed

theorem exists_of_both_eq_ok {α β : Type} {first : Outcome α} {second : Outcome β}
    {result : α × β} (made : Outcome.both first second = .ok result) :
    first = .ok result.1 ∧ second = .ok result.2 := by
  unfold Outcome.both at made
  split at made <;> cases made
  exact ⟨rfl, rfl⟩

theorem Entries.WellKeyed.of_gather {entries : Entries}
    (keyed : entries.WellKeyed) {made : List (Value × Value)}
    (gathered : Outcome.gather entries = .ok made) :
    ∀ entry ∈ made, entry.2.WellKeyed := by
  induction entries generalizing made with
  | nil =>
      cases gathered
      exact List.forall_mem_nil _
  | cons first rest induction =>
      obtain ⟨result, both, rfl⟩ := exists_of_map_eq_ok gathered
      obtain ⟨isFirst, isRest⟩ := exists_of_both_eq_ok both
      unfold Entries.WellKeyed at keyed
      rw [List.forall_mem_cons] at keyed
      dsimp only
      rw [List.forall_mem_cons]
      exact ⟨keyed.1 _ isFirst, induction keyed.2 isRest⟩

theorem wellKeyed_of_numbered {tied : Bool} {place : Nat} {collection : Outcome Value}
    {content : Value} (made : Yaml.numbered tied place collection = .ok content)
    (keyed : ∀ inside, collection = .ok inside → inside.WellKeyed) :
    content.WellKeyed := by
  have made := eq_ok_of_mapError made
  cases tied with
  | false => exact keyed content made
  | true =>
      obtain ⟨inside, found, rfl⟩ := exists_of_map_eq_ok made
      exact (keyed inside found).numbered place

theorem Entries.WellKeyed.append {entries others : Entries}
    (keyed : entries.WellKeyed) (othersKeyed : others.WellKeyed) :
    Entries.WellKeyed (entries ++ others) := by
  intro outcome member
  rcases List.mem_append.mp member with first | second
  · exact keyed outcome first
  · exact othersKeyed outcome second

/-- An entry of a mapping itself, and what the other entries come to. -/
theorem wellKeyed_of_own {tied : Bool} {key source : Node} {rest : List (Node × Node)}
    {merged own : Entries}
    (content : ∀ content, source.value tied = .ok content → content.WellKeyed)
    (others : ∀ merged own, entriesOf tied rest = .ok (merged, own) →
      merged.WellKeyed ∧ own.WellKeyed)
    (made : (entriesOf tied rest >>= fun found =>
      pure (found.1, Outcome.both key.key (source.value tied) :: found.2)) =
        .ok (merged, own)) : merged.WellKeyed ∧ own.WellKeyed := by
  obtain ⟨⟨later, owned⟩, found, made⟩ := exists_of_bind_eq_ok made
  cases made
  have keyed := others _ _ found
  refine ⟨keyed.1, ?_⟩
  unfold Entries.WellKeyed
  rw [List.forall_mem_cons]
  refine ⟨?_, keyed.2⟩
  intro entry both
  exact content _ (exists_of_both_eq_ok both).2

-- Entries that are merged from elsewhere are kept as outcomes until the mapping is made,
-- so the induction says of them what holds if they come to something.
mutual

theorem Node.wellKeyed_value {tied : Bool} (node : Node) {content : Value}
    (made : node.value tied = .ok content) : content.WellKeyed := by
  cases node with
  | scalar tag text =>
      rw [Node.value] at made
      exact wellKeyed_of_node_scalarValue made
  | sequence tag place items =>
      cases tag with
      | sequence =>
          rw [Node.value] at made
          apply wellKeyed_of_numbered made
          intro inside listed
          obtain ⟨values, found, rfl⟩ := exists_of_map_eq_ok listed
          exact .list (wellKeyed_of_valuesOf items found)
      | pairs =>
          rw [Node.value] at made
          apply wellKeyed_of_numbered made
          intro inside listed
          obtain ⟨values, found, rfl⟩ := exists_of_map_eq_ok listed
          exact .list (wellKeyed_of_pairsOf items found)
      | _ => cases made
  | mapping tag place entries =>
      cases tag with
      | mapping =>
          rw [Node.value] at made
          apply wellKeyed_of_numbered made
          intro inside mapped
          obtain ⟨⟨merged, own⟩, found, mapped⟩ := exists_of_bind_eq_ok mapped
          obtain ⟨all, gathered, mapped⟩ := exists_of_bind_eq_ok mapped
          cases mapped
          have keyed := wellKeyed_of_entriesOf entries found
          exact wellKeyed_merge .nil (List.forall_mem_nil _)
            ((keyed.1.append keyed.2).of_gather gathered)
      | set =>
          rw [Node.value] at made
          apply wellKeyed_of_numbered made
          intro inside mapped
          obtain ⟨⟨merged, own⟩, found, mapped⟩ := exists_of_bind_eq_ok mapped
          obtain ⟨all, gathered, mapped⟩ := exists_of_bind_eq_ok mapped
          cases mapped
          exact .alone rfl
      | _ => exact wellKeyed_of_node_scalarValue made
  | back place =>
      cases made
      exact .cycle (List.forall_mem_nil _)

theorem wellKeyed_of_valuesOf {tied : Bool} (items : List Node) {values : List Value}
    (made : valuesOf tied items = .ok values) : ∀ item ∈ values, item.WellKeyed := by
  cases items with
  | nil =>
      cases made
      exact List.forall_mem_nil _
  | cons first rest =>
      obtain ⟨result, both, rfl⟩ := exists_of_map_eq_ok made
      obtain ⟨isFirst, isRest⟩ := exists_of_both_eq_ok both
      dsimp only
      rw [List.forall_mem_cons]
      exact ⟨first.wellKeyed_value isFirst, wellKeyed_of_valuesOf rest isRest⟩

theorem wellKeyed_of_pairsOf {tied : Bool} (items : List Node) {values : List Value}
    (made : pairsOf tied items = .ok values) : ∀ item ∈ values, item.WellKeyed := by
  cases items with
  | nil =>
      cases made
      exact List.forall_mem_nil _
  | cons first rest =>
      cases first with
      | mapping tag place inner =>
          cases inner with
          | nil =>
              obtain ⟨result, both, rfl⟩ := exists_of_map_eq_ok made
              cases (exists_of_both_eq_ok both).1
          | cons entry others =>
              cases others with
              | nil =>
                  obtain ⟨key, source⟩ := entry
                  obtain ⟨⟨⟨name, content⟩, later⟩, both, rfl⟩ := exists_of_map_eq_ok made
                  obtain ⟨isFirst, isRest⟩ := exists_of_both_eq_ok both
                  obtain ⟨isKey, isContent⟩ := exists_of_both_eq_ok isFirst
                  dsimp only
                  rw [List.forall_mem_cons]
                  refine ⟨.tuple ?_, wellKeyed_of_pairsOf rest isRest⟩
                  rw [List.forall_mem_cons, List.forall_mem_singleton]
                  exact ⟨key.wellKeyed_value isKey, source.wellKeyed_value isContent⟩
              | cons second more =>
                  obtain ⟨result, both, rfl⟩ := exists_of_map_eq_ok made
                  cases (exists_of_both_eq_ok both).1
      | _ =>
          obtain ⟨result, both, rfl⟩ := exists_of_map_eq_ok made
          cases (exists_of_both_eq_ok both).1

theorem wellKeyed_of_entriesOf {tied : Bool} (entries : List (Node × Node))
    {merged own : Entries} (made : entriesOf tied entries = .ok (merged, own)) :
    merged.WellKeyed ∧ own.WellKeyed := by
  cases entries with
  | nil =>
      cases made
      exact ⟨List.forall_mem_nil _, List.forall_mem_nil _⟩
  | cons entry rest =>
      obtain ⟨key, source⟩ := entry
      have content : ∀ content, source.value tied = .ok content →
          content.WellKeyed :=
        fun _ made => source.wellKeyed_value made
      have others : ∀ merged own, entriesOf tied rest = .ok (merged, own) →
          merged.WellKeyed ∧ own.WellKeyed :=
        fun _ _ made => wellKeyed_of_entriesOf rest made
      unfold entriesOf at made
      split at made
      · obtain ⟨first, merges, made⟩ := exists_of_bind_eq_ok made
        obtain ⟨⟨later, owned⟩, found, made⟩ := exists_of_bind_eq_ok made
        cases made
        have keyed := others _ _ found
        exact ⟨(source.wellKeyed_of_mergedFrom merges).append keyed.1, keyed.2⟩
      · exact wellKeyed_of_own content others made

theorem Node.wellKeyed_of_mergedFrom {tied : Bool} (node : Node) {entries : Entries}
    (made : mergedFrom tied node = .ok entries) : entries.WellKeyed := by
  cases node with
  | scalar tag text => cases made
  | sequence tag place items => exact wellKeyed_of_mergedFromAll items made
  | mapping tag place inner =>
      obtain ⟨⟨merged, own⟩, found, made⟩ := exists_of_bind_eq_ok made
      cases made
      have keyed := wellKeyed_of_entriesOf inner found
      exact keyed.1.append keyed.2
  | back place =>
      cases made
      exact List.forall_mem_nil _

theorem wellKeyed_of_mergedFromAll {tied : Bool} (nodes : List Node) {entries : Entries}
    (made : mergedFromAll tied nodes = .ok entries) : entries.WellKeyed := by
  cases nodes with
  | nil =>
      cases made
      exact List.forall_mem_nil _
  | cons first rest =>
      cases first with
      | mapping tag place inner =>
          obtain ⟨⟨merged, own⟩, found, made⟩ := exists_of_bind_eq_ok made
          obtain ⟨later, isRest, made⟩ := exists_of_bind_eq_ok made
          cases made
          have keyed := wellKeyed_of_entriesOf inner found
          have others := wellKeyed_of_mergedFromAll rest isRest
          exact (others.append keyed.1).append keyed.2
      | back place => exact wellKeyed_of_mergedFromAll rest made
      | _ => cases made

end

theorem wellKeyed_of_load {text : List Char} {content : Value}
    (loaded : load text = .ok content) : content.WellKeyed := by
  unfold load at loaded
  split at loaded
  · cases loaded
  · obtain ⟨⟨node, tied⟩, -, loaded⟩ := exists_of_bind_eq_ok loaded
    cases node with
    | none =>
        cases loaded
        exact .alone rfl
    | some node =>
        obtain ⟨inside, made, rfl⟩ := exists_of_map_eq_ok (eq_ok_of_mapError loaded)
        exact (node.wellKeyed_value made).opened

theorem wellKeyed_of_loader {text : List Char} {content : Value}
    (loaded : loader text = .ok content) : content.WellKeyed :=
  wellKeyed_of_load (eq_ok_of_mapError loaded)

end Yaml

end Shortcode
