import Shortcode.Proofs.Yaml.Layout

/-!
# The first token

A token that stands first stays first, once it can no longer turn out to start a
key.
-/

namespace Shortcode.Yaml

namespace Layout

variable {layout next : Layout} {token : Token}

/-- The token stands first, and no candidate is it. -/
structure StartsWith (token : Token) (layout : Layout) : Prop where
  first : layout.tokens[0]? = some token
  behind : ∀ candidate ∈ layout.candidates, 0 < candidate.index

theorem first_append {tokens : Array Token} (others : Array Token)
    (first : tokens[0]? = some token) : (tokens ++ others)[0]? = some token := by
  obtain ⟨some_, -⟩ := Array.getElem?_eq_some_iff.mp first
  rw [Array.getElem?_append_left some_, first]

theorem first_insert {tokens : Array Token} {index : Nat} (later : 0 < index)
    (inserted : Token) (first : tokens[0]? = some token) :
    (tokens.extract 0 index ++ #[inserted] ++
      tokens.extract index tokens.size)[0]? = some token := by
  apply first_append
  apply first_append
  obtain ⟨some_, -⟩ := Array.getElem?_eq_some_iff.mp first
  rw [Array.getElem?_extract, if_pos (by omega)]
  exact first

theorem mem_of_mem_partition {candidates : List KeyCandidate}
    {test : KeyCandidate → Bool} {candidate : KeyCandidate}
    (member : candidate ∈ (candidates.partition test).2) :
    candidate ∈ candidates := by
  rw [List.partition_eq_filter_filter] at member
  exact List.mem_of_mem_filter member

namespace StartsWith

theorem pos (starts : layout.StartsWith token) : 0 < layout.tokens.size := by
  obtain ⟨some_, -⟩ := Array.getElem?_eq_some_iff.mp starts.first
  exact some_

theorem candidates (starts : layout.StartsWith token)
    {candidates : List KeyCandidate}
    (among : ∀ candidate ∈ candidates, candidate ∈ layout.candidates) :
    StartsWith token { layout with candidates := candidates } :=
  ⟨starts.first, fun candidate member => starts.behind candidate (among _ member)⟩

theorem push (starts : layout.StartsWith token) (other : Token) (count : Nat) :
    (layout.push other count).StartsWith token := by
  refine ⟨?_, starts.behind⟩
  change (layout.tokens.push other)[0]? = _
  rw [Array.getElem?_push, if_neg starts.pos.ne, starts.first]

theorem unwind (starts : layout.StartsWith token) (column : Int) :
    (layout.unwind column).StartsWith token := by
  unfold Layout.unwind
  split
  · exact starts
  · exact ⟨first_append _ starts.first, starts.behind⟩

theorem openBlock (starts : layout.StartsWith token) (column : Nat) {index : Nat}
    (later : 0 < index) (other : Token) :
    (layout.openBlock column index other).StartsWith token := by
  unfold Layout.openBlock
  split
  · exact ⟨first_insert later other starts.first, starts.behind⟩
  · exact starts

theorem dropCandidate? (starts : layout.StartsWith token)
    (dropped : layout.dropCandidate? = some next) : next.StartsWith token := by
  obtain ⟨-, same⟩ := Option.ite_none_left_eq_some.mp dropped
  cases same
  exact starts.candidates fun _ => mem_of_mem_partition

theorem dropStale? (starts : layout.StartsWith token)
    (dropped : layout.dropStale? = some next) : next.StartsWith token := by
  obtain ⟨-, same⟩ := Option.ite_none_left_eq_some.mp dropped
  cases same
  exact starts.candidates fun _ => mem_of_mem_partition

theorem saveCandidate? (starts : layout.StartsWith token)
    (saved : layout.saveCandidate? = some next) : next.StartsWith token := by
  unfold Layout.saveCandidate? at saved
  split at saved
  · obtain ⟨dropped, found, rfl⟩ := Option.map_eq_some_iff.mp saved
    have kept := starts.dropCandidate? found
    refine ⟨kept.first, ?_⟩
    intro candidate member
    rcases List.mem_cons.mp member with rfl | before
    · exact kept.pos
    · exact kept.behind candidate before
  · cases saved
    exact starts

theorem skipBlank (starts : layout.StartsWith token) (fuel : Nat) :
    (skipBlank fuel layout).StartsWith token := by
  induction fuel generalizing layout with
  | zero => exact starts
  | succ fuel induction =>
      rw [Layout.skipBlank]
      split
      · exact induction ⟨starts.first, starts.behind⟩
      · exact ⟨starts.first, starts.behind⟩

theorem pushAfterKey? (starts : layout.StartsWith token) {other : Token}
    {count : Nat} (pushed : layout.pushAfterKey? other count = some next) :
    next.StartsWith token := by
  obtain ⟨saved, found, rfl⟩ := Option.map_eq_some_iff.mp pushed
  have kept := (starts.saveCandidate? found).push other count
  exact ⟨kept.first, kept.behind⟩

theorem pushOutside? (starts : layout.StartsWith token)
    (pushed : layout.pushOutside? = some next) : next.StartsWith token := by
  obtain ⟨dropped, found, rfl⟩ := Option.map_eq_some_iff.mp pushed
  have kept := (starts.unwind (-1)).dropCandidate? found
  exact ⟨kept.first, kept.behind⟩

theorem openFlow? (starts : layout.StartsWith token) {other : Token}
    (pushed : layout.openFlow? other = some next) : next.StartsWith token := by
  obtain ⟨saved, found, rfl⟩ := Option.map_eq_some_iff.mp pushed
  have kept := (starts.saveCandidate? found).push other 1
  exact ⟨kept.first, kept.behind⟩

theorem closeFlow? (starts : layout.StartsWith token) {other : Token}
    (pushed : layout.closeFlow? other = some next) : next.StartsWith token := by
  obtain ⟨-, pushed⟩ := Option.ite_none_left_eq_some.mp pushed
  obtain ⟨dropped, found, rfl⟩ := Option.map_eq_some_iff.mp pushed
  have kept := (starts.dropCandidate? found).push other 1
  exact ⟨kept.first, kept.behind⟩

theorem pushSign? (starts : layout.StartsWith token) {block sign : Token}
    {allowKey : Bool}
    (pushed : layout.pushSign? block sign allowKey = some next) :
    next.StartsWith token := by
  obtain ⟨-, pushed⟩ := Option.ite_none_left_eq_some.mp pushed
  obtain ⟨dropped, found, rfl⟩ := Option.map_eq_some_iff.mp pushed
  have opened : StartsWith token (if layout.level == 0 then
      layout.openBlock layout.place.column layout.tokens.size block
        else layout) := by
    split
    · exact starts.openBlock _ starts.pos block
    · exact starts
  have kept := (opened.dropCandidate? found).push sign 1
  exact ⟨kept.first, kept.behind⟩

theorem pushValue? (starts : layout.StartsWith token)
    (pushed : layout.pushValue? = some next) : next.StartsWith token := by
  unfold Layout.pushValue? at pushed
  split at pushed
  · rename_i found candidate
    cases pushed
    have later := starts.behind found (List.mem_of_find?_eq_some candidate)
    have marked : StartsWith token { layout with
        candidates := layout.candidates.filter fun other =>
          other.level != layout.level
        tokens := layout.tokens.extract 0 found.index ++ #[Token.key] ++
          layout.tokens.extract found.index layout.tokens.size } :=
      ⟨first_insert later .key starts.first, fun candidate member =>
        starts.behind candidate (List.mem_of_mem_filter member)⟩
    have opened : StartsWith token (if layout.level == 0 then
        Layout.openBlock { layout with
          candidates := layout.candidates.filter fun other =>
            other.level != layout.level
          tokens := layout.tokens.extract 0 found.index ++ #[Token.key] ++
            layout.tokens.extract found.index layout.tokens.size }
          found.column found.index .blockMappingStart
        else { layout with
          candidates := layout.candidates.filter fun other =>
            other.level != layout.level
          tokens := layout.tokens.extract 0 found.index ++ #[Token.key] ++
            layout.tokens.extract found.index layout.tokens.size }) := by
      split
      · exact marked.openBlock _ later _
      · exact marked
    have kept := opened.push .value 1
    exact ⟨kept.first, kept.behind⟩
  · exact starts.pushSign? pushed

theorem pushScalar (starts : layout.StartsWith token) (content : List Char)
    (plain allowKey : Bool) (place : Place) :
    (layout.pushScalar content plain allowKey place).StartsWith token := by
  have kept := starts.push (.scalar (String.ofList content) plain) 0
  exact ⟨kept.first, kept.behind⟩

theorem scalarAt? (starts : layout.StartsWith token) {char : Char}
    (found : layout.scalarAt? char = some next) : next.StartsWith token := by
  unfold Layout.scalarAt? at found
  dsimp only at found
  rcases some_of_ite found with found | found
  · obtain ⟨dropped, kept, found⟩ := Option.bind_eq_some_iff.mp found
    obtain ⟨read, -, same⟩ := Option.bind_eq_some_iff.mp found
    cases same
    exact (starts.dropCandidate? kept).pushScalar ..
  · rcases some_of_ite found with found | found
    · obtain ⟨saved, kept, found⟩ := Option.bind_eq_some_iff.mp found
      have kept := starts.saveCandidate? kept
      split at found
      · cases found
        exact kept.pushScalar ..
      · cases found
        exact kept.push ..
      · cases found
    · obtain ⟨-, found⟩ := Option.ite_none_right_eq_some.mp found
      obtain ⟨saved, kept, found⟩ := Option.bind_eq_some_iff.mp found
      cases found
      exact (starts.saveCandidate? kept).pushScalar ..

theorem tokenAt? (starts : layout.StartsWith token) {char : Char}
    (found : layout.tokenAt? char = some next) : next.StartsWith token := by
  unfold Layout.tokenAt? at found
  dsimp only at found
  rcases some_of_ite found with found | found
  · obtain ⟨outside, pushed, found⟩ := Option.bind_eq_some_iff.mp found
    obtain ⟨read, -, same⟩ := Option.bind_eq_some_iff.mp found
    cases same
    have kept := (starts.pushOutside? pushed).push read.1 0
    exact ⟨kept.first, kept.behind⟩
  rcases some_of_ite found with found | found
  · obtain ⟨outside, pushed, rfl⟩ := Option.map_eq_some_iff.mp found
    exact (starts.pushOutside? pushed).push ..
  rcases some_of_ite found with found | found
  · exact starts.openFlow? found
  rcases some_of_ite found with found | found
  · exact starts.openFlow? found
  rcases some_of_ite found with found | found
  · exact starts.closeFlow? found
  rcases some_of_ite found with found | found
  · exact starts.closeFlow? found
  rcases some_of_ite found with found | found
  · obtain ⟨dropped, kept, rfl⟩ := Option.map_eq_some_iff.mp found
    have kept := (starts.dropCandidate? kept).push .flowEntry 1
    exact ⟨kept.first, kept.behind⟩
  rcases some_of_ite found with found | found
  · exact starts.pushSign? found
  rcases some_of_ite found with found | found
  · exact starts.pushSign? found
  rcases some_of_ite found with found | found
  · exact starts.pushValue? found
  rcases some_of_ite found with found | found
  · obtain ⟨read, -, pushed⟩ := Option.bind_eq_some_iff.mp found
    exact starts.pushAfterKey? pushed
  rcases some_of_ite found with found | found
  · obtain ⟨read, -, pushed⟩ := Option.bind_eq_some_iff.mp found
    exact starts.pushAfterKey? pushed
  rcases some_of_ite found with found | found
  · obtain ⟨read, -, pushed⟩ := Option.bind_eq_some_iff.mp found
    exact starts.pushAfterKey? pushed
  · exact starts.scalarAt? found

/-- Induction on the steps: each of them keeps the first token. -/
theorem run {fuel : Nat} {tokens : Array Token}
    (starts : layout.StartsWith token)
    (ran : run fuel layout = some tokens) : tokens[0]? = some token := by
  induction fuel generalizing layout with
  | zero => cases ran
  | succ fuel induction =>
      rw [Layout.run] at ran
      split at ran
      · cases ran
        exact starts.first
      · obtain ⟨fresh, dropped, ran⟩ := Option.bind_eq_some_iff.mp ran
        have kept := ((starts.skipBlank _).dropStale? dropped).unwind
          fresh.place.column
        dsimp only at ran
        split at ran
        · obtain ⟨last, ended, same⟩ := Option.bind_eq_some_iff.mp ran
          cases same
          exact ((kept.unwind (-1)).dropCandidate? ended).first
        · obtain ⟨after, found, ran⟩ := Option.bind_eq_some_iff.mp ran
          exact induction (kept.tokenAt? found) ran

end StartsWith

end Layout

end Shortcode.Yaml
