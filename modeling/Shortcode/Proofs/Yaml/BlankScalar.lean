import Shortcode.Proofs.Text.Search
import Shortcode.Proofs.Yaml.BlankLines
import Shortcode.Proofs.Yaml.FirstToken

/-!
# Blanks that are text

A blank that is neither a space nor a line end starts a plain scalar, or cannot
stand where it is.  If nothing but blanks follows on its line, the scalar comes
to a line on which it can no longer turn out to be a key.
-/

namespace Shortcode.Yaml

/-! ## Lines -/

namespace Place

variable {place next : Place} {char : Char} {rest : List Char}

theorem line_forward_le (place : Place) (count : Nat) :
    place.line ≤ (place.forward count).line := by
  induction count generalizing place with
  | zero => exact Nat.le_refl _
  | succ count induction => exact place.line_step_le.trans (induction place.step)

theorem line_skipComment_le : place.line ≤ place.skipComment.line := by
  unfold skipComment
  split
  · exact line_forward_le _ _
  · exact Nat.le_refl _

theorem lineBreak?_eq_none (stands : place.rest = char :: rest)
    (inLine : isBreak char = false) : place.lineBreak? = none := by
  unfold lineBreak?
  rw [stands]
  split
  · rename_i same
    cases same
    cases inLine
  · rename_i same
    cases same
    cases inLine
  · rename_i same
    cases same
    cases inLine
  · rename_i same
    cases same
    rw [inLine]
    rfl
  · rfl

theorem line_lineBreak?_lt {read : Char}
    (found : place.lineBreak? = some (read, next)) : place.line < next.line := by
  cases stands : place.rest with
  | nil => simp [lineBreak?, stands] at found
  | cons char rest =>
      cases ends : isBreak char with
      | false =>
          rw [lineBreak?_eq_none stands ends] at found
          cases found
      | true =>
          obtain ⟨other, behind, same, -, later, -⟩ :=
            exists_lineBreak? stands ends
          rw [found] at same
          cases same
          exact later

end Place

theorem line_plainBreaks?_le {fuel : Nat} {place next : Place}
    {content : List Char}
    (found : plainBreaks? fuel place = some (content, next)) :
    place.line ≤ next.line := by
  induction fuel generalizing place content with
  | zero =>
      cases found
      exact Nat.le_refl _
  | succ fuel induction =>
      rw [plainBreaks?] at found
      split at found
      · exact place.line_step_le.trans (induction found)
      · split at found
        · cases found
          exact Nat.le_refl _
        · rename_i char start ends
          have before := Place.line_lineBreak?_lt ends
          split at found
          · cases found
          · obtain ⟨⟨breaks, last⟩, later, same⟩ := Option.map_eq_some_iff.mp found
            cases same
            exact before.le.trans (induction later)

/-- A gap that crosses a line end ends on a later line. -/
theorem line_plainGap_le (place : Place) :
    place.line + (plainGap place).crossesLine.toNat ≤
      (plainGap place).place.line := by
  have behind := place.line_forward_le (place.rest.takeWhile (· == ' ')).length
  unfold plainGap
  dsimp only
  split
  · exact behind
  · rename_i first start ends
    have before := Place.line_lineBreak?_lt ends
    split
    · exact behind.trans_lt before
    · split
      · exact behind.trans_lt before
      · rename_i breaks last found
        exact (behind.trans_lt before).trans_le (line_plainBreaks?_le found)

theorem line_plainScalar_le (inFlow : Bool) (indent : Int) (fuel : Nat)
    (gap : PlainGap) :
    gap.place.line ≤ (plainScalar inFlow indent fuel gap).place.line := by
  induction fuel generalizing gap with
  | zero => exact Nat.le_refl _
  | succ fuel induction =>
      rw [plainScalar]
      dsimp only
      generalize plainWordLength inFlow gap.place gap.place.rest.length 0 = length
      split
      · exact Nat.le_refl _
      · have word := gap.place.line_forward_le length
        have behind := line_plainGap_le (gap.place.forward length)
        have gapped : gap.place.line ≤
            (plainGap (gap.place.forward length)).place.line := by omega
        split
        · exact gapped
        · exact gapped.trans (induction _)

theorem Layout.line_skipBlank_le (fuel : Nat) (layout : Layout) :
    layout.place.line ≤ (skipBlank fuel layout).place.line := by
  induction fuel generalizing layout with
  | zero => exact Nat.le_refl _
  | succ fuel induction =>
      have blank := layout.place.line_forward_le
        (layout.place.rest.takeWhile (· == ' ')).length
      have comment := blank.trans Place.line_skipComment_le
      rw [skipBlank]
      split
      · rename_i char start ends
        have before := comment.trans (Place.line_lineBreak?_lt ends).le
        exact before.trans (induction { layout with
          place := start, allowKey := layout.allowKey || layout.level == 0 })
      · exact comment

/-! ## Lines of blanks -/

theorem ne_of_isBlank {char other : Char} (blank : Text.isBlank char = true)
    (visible : Text.isBlank other = false) : char ≠ other := by
  rintro rfl
  rw [blank] at visible
  cases visible

/-- Nothing but blanks is left of the line. -/
structure IsBlankRest (run : List Char) (place : Place) : Prop where
  stands : ∃ lineEnd rest, isBreak lineEnd = true ∧
    place.rest = run ++ lineEnd :: rest
  blank : Text.AllBlank run
  inLine : ∀ char ∈ run, isBreak char = false

theorem plainWordLength_eq {place : Place} {word rest : List Char}
    {fuel distance : Nat} (stands : place.rest.drop distance = word ++ rest)
    (chars : ∀ char ∈ word, isSpace char = false ∧ char ≠ ':')
    (ends : ∀ char ∈ rest.head?, isSpace char = true)
    (enough : word.length ≤ fuel) :
    plainWordLength false place fuel distance = distance + word.length := by
  induction word generalizing distance fuel with
  | nil =>
      cases fuel with
      | zero => rfl
      | succ fuel =>
          have here : place.peek? distance = rest.head? := by
            rw [Place.peek?, ← List.head?_drop, stands, List.nil_append]
          have stops : endsPlain false place distance = true := by
            rw [endsPlain, here]
            cases first : rest.head? with
            | none => rfl
            | some char => simp [ends char first]
          rw [plainWordLength, stops]
          rfl
  | cons char word induction =>
      obtain ⟨fuel, rfl⟩ := Nat.exists_eq_add_of_lt
        (Nat.lt_of_lt_of_le (Nat.succ_pos word.length) enough)
      rw [List.forall_mem_cons] at chars
      obtain ⟨⟨inWord, noColon⟩, chars⟩ := chars
      have here : place.peek? distance = some char := by
        rw [Place.peek?, ← List.head?_drop, stands]
        rfl
      have goesOn : endsPlain false place distance = false := by
        rw [endsPlain, here]
        simp [inWord, noColon]
      have behind : place.rest.drop (distance + 1) = word ++ rest := by
        rw [← List.tail_drop, stands]
        rfl
      rw [Nat.zero_add, plainWordLength, goesOn, List.length_cons]
      simp only [Bool.false_eq_true, if_false]
      rw [induction behind chars]
      · omega
      · simpa using enough

namespace IsBlankRest

variable {run : List Char} {place : Place}

theorem forward (blank : IsBlankRest run place) {lead behind : List Char}
    (cut : run = lead ++ behind) :
    IsBlankRest behind (place.forward lead.length) := by
  obtain ⟨⟨lineEnd, rest, ends, stands⟩, allBlank, inLine⟩ := blank
  subst cut
  refine ⟨⟨lineEnd, rest, ends, ?_⟩, ?_, ?_⟩
  · rw [Place.rest_forward, stands, List.append_assoc, List.drop_left]
  · exact fun char member => allBlank char (List.mem_append_right lead member)
  · exact fun char member => inLine char (List.mem_append_right lead member)

/-- A gap crosses the line end, or ends at the next blank that is no space. -/
theorem plainGap (blank : IsBlankRest run place) :
    (plainGap place).crossesLine = true ∨
      ∃ spaces behind, run = spaces ++ behind ∧ behind ≠ [] ∧
        behind.head? ≠ some ' ' ∧
        Yaml.plainGap place = ⟨spaces, place.forward spaces.length, false⟩ := by
  obtain ⟨⟨lineEnd, rest, ends, stands⟩, -, inLine⟩ := blank
  obtain ⟨spaces, behind, rfl, isSpaces, stops⟩ :=
    Text.exists_stretch (· == ' ') run
  rw [List.append_assoc] at stands
  have passed : place.rest.takeWhile (· == ' ') = spaces := by
    rw [stands]
    apply Text.takeWhile_append_of_stops isSpaces
    cases behind with
    | nil =>
        have notSpace : lineEnd ≠ ' ' := by
          rintro rfl
          cases ends
        simpa using notSpace
    | cons char behind => exact stops
  have moved : (place.forward spaces.length).rest = behind ++ lineEnd :: rest := by
    rw [Place.rest_forward, stands, List.drop_left]
  unfold Yaml.plainGap
  dsimp only
  rw [passed]
  cases behind with
  | nil =>
      obtain ⟨read, next, found, -⟩ := Place.exists_lineBreak? moved ends
      left
      rw [found]
      dsimp only
      split
      · rfl
      · split
        · rfl
        · rfl
  | cons char behind =>
      have here : isBreak char = false :=
        inLine char (List.mem_append_right _ List.mem_cons_self)
      right
      refine ⟨spaces, char :: behind, rfl, List.cons_ne_nil _ _, ?_, ?_⟩
      · simpa using stops char rfl
      · rw [Place.lineBreak?_eq_none moved here]

/-- A word ends at a space, a tab or the line end. -/
theorem plainWord (blank : IsBlankRest run place) :
    ∃ word behind, run = word ++ behind ∧
      plainWordLength false place place.rest.length 0 = word.length ∧
      ∀ char ∈ behind.head?, isSpace char = true := by
  obtain ⟨⟨lineEnd, rest, ends, stands⟩, allBlank, -⟩ := blank
  obtain ⟨word, behind, rfl, inside, stops⟩ :=
    Text.exists_stretch (!isSpace ·) run
  have separates : ∀ char ∈ behind.head?, isSpace char = true := by
    intro char first
    simpa using stops char first
  refine ⟨word, behind, rfl, ?_, separates⟩
  rw [List.append_assoc] at stands
  have length : word.length ≤ place.rest.length := by
    rw [stands, List.length_append]
    exact Nat.le_add_right _ _
  have whole : place.rest.drop 0 = word ++ (behind ++ lineEnd :: rest) := stands
  rw [plainWordLength_eq whole _ _ length, Nat.zero_add]
  · intro char member
    have visible := allBlank char (List.mem_append_left behind member)
    exact ⟨by simpa using inside char member, ne_of_isBlank visible (by decide)⟩
  · intro char first
    cases behind with
    | nil =>
        cases first
        simp [isSpace, ends]
    | cons other behind => exact separates char first

theorem noComment (blank : IsBlankRest run place) (nonempty : run ≠ []) :
    (place.rest.head? == some '#') = false := by
  obtain ⟨⟨lineEnd, rest, -, stands⟩, allBlank, -⟩ := blank
  obtain ⟨char, run, rfl⟩ := List.exists_cons_of_ne_nil nonempty
  have visible : char ≠ '#' :=
    ne_of_isBlank (allBlank char List.mem_cons_self) (by decide)
  simp [stands, visible]

theorem left_pos (blank : IsBlankRest run place) : 0 < place.left := by
  obtain ⟨lineEnd, rest, -, stands⟩ := blank.stands
  rw [Place.left, stands, List.length_append, List.length_cons]
  omega

/-- A line of blanks goes on with a tab, if it goes on with the end of a word
but not with a space. -/
theorem head?_eq_tab (blank : IsBlankRest run place) (nonempty : run ≠ [])
    (start : run.head? ≠ some ' ')
    (separates : ∀ char ∈ run.head?, isSpace char = true) :
    place.rest.head? = some '\t' := by
  obtain ⟨⟨lineEnd, rest, -, stands⟩, -, inLine⟩ := blank
  cases run with
  | nil => contradiction
  | cons char run =>
      have notSpace : char ≠ ' ' := by simpa using start
      have separate := separates char rfl
      simp only [isSpace, Bool.or_eq_true, beq_iff_eq] at separate
      rw [inLine char List.mem_cons_self, or_iff_right notSpace] at separate
      simp only [Bool.false_eq_true, or_false] at separate
      rw [stands, separate]
      rfl

/-- A plain scalar on a line of blanks goes on to a later line, or stops at a
tab. -/
theorem plainScalar {fuel : Nat} {gap : PlainGap} {indent : Int}
    (blank : IsBlankRest run gap.place) (nonempty : run ≠ [])
    (start : run.head? ≠ some ' ') (outermost : indent ≤ 0)
    (enough : gap.place.left < fuel) :
    gap.place.line < (plainScalar false indent fuel gap).place.line ∨
      (Yaml.plainScalar false indent fuel gap).place.rest.head? = some '\t' := by
  induction fuel generalizing run gap with
  | zero => omega
  | succ fuel induction =>
      obtain ⟨word, behind, cut, length, separates⟩ := blank.plainWord
      rw [Yaml.plainScalar]
      dsimp only
      rw [length, blank.noComment nonempty, Bool.false_or]
      cases word with
      | nil =>
          right
          rw [List.nil_append] at cut
          subst cut
          exact blank.head?_eq_tab nonempty start separates
      | cons char word =>
          have moved := blank.forward cut
          have further := gap.place.line_forward_le (char :: word).length
          have gapped := line_plainGap_le (gap.place.forward (char :: word).length)
          rw [if_neg (by simp)]
          rcases moved.plainGap with crosses | ⟨spaces, after, cut, nonempty,
            start, isGap⟩
          · rw [crosses, Bool.toNat_true] at gapped
            left
            split
            · exact further.trans_lt gapped
            · exact (further.trans_lt gapped).trans_le
                (line_plainScalar_le _ _ _ _)
          · let next : PlainGap := ⟨spaces,
              (gap.place.forward (char :: word).length).forward spaces.length,
              false⟩
            have blankAfter : IsBlankRest after next.place := moved.forward cut
            have low : ¬ (next.place.column : Int) < indent := by omega
            replace isGap : Yaml.plainGap _ = next := isGap
            rw [isGap] at gapped ⊢
            simp only [blankAfter.noComment nonempty, Bool.not_false,
              Bool.true_and, Bool.or_false, decide_eq_false low]
            split
            · rename_i empty
              right
              obtain rfl := List.isEmpty_iff.mp empty
              rw [List.nil_append] at cut
              subst cut
              exact moved.head?_eq_tab nonempty start separates
            · have shorter : next.place.left < fuel := by
                have positive := blank.left_pos
                rw [Place.left_forward, Place.left_forward, List.length_cons]
                omega
              rcases induction blankAfter nonempty start shorter with later | tab
              · exact .inl ((further.trans gapped).trans_lt later)
              · exact .inr tab

end IsBlankRest

/-! ## The tokens of a line of blanks -/

namespace Layout

variable {layout : Layout} {char : Char} {rest : List Char}

/-- A blank starts a plain scalar, if it does not separate words. -/
theorem tokenAt?_of_isBlank (blank : Text.isBlank char = true)
    (stands : layout.place.rest = char :: rest) :
    layout.tokenAt? char = if isSpace char then none else
      layout.saveCandidate?.bind fun saved =>
        let found := plainScalar (saved.level > 0) (saved.indent + 1)
          (layout.place.rest.length + 1) ⟨[], layout.place, false⟩
        some (saved.pushScalar found.content true found.crossesLine
          found.place) := by
  have other (visible : Char) (notBlank : Text.isBlank visible = false) :
      (char == visible) = false :=
    beq_false_of_ne (ne_of_isBlank blank notBlank)
  have noMarker : layout.place.atMarker = false := by
    rw [Place.atMarker, stands]
    simp [ne_of_isBlank blank (by decide : Text.isBlank '-' = false),
      ne_of_isBlank blank (by decide : Text.isBlank '.' = false)]
  have noSign : "-?:,[]\x7b\x7d#&*!|>'\"%@\x60".toList.contains char = false := by
    rw [List.contains_eq_any_beq, List.any_eq_false]
    intro sign member same
    obtain rfl := beq_iff_eq.mp same
    have visible : "-?:,[]\x7b\x7d#&*!|>'\"%@\x60".toList.all
        (!Text.isBlank ·) = true := by rfl
    have notBlank := List.all_eq_true.mp visible char member
    rw [blank] at notBlank
    cases notBlank
  have starts : layout.startsPlain = !isSpace char := by
    unfold startsPlain
    rw [stands]
    dsimp only
    rw [noSign, other '-' (by decide), other '?' (by decide),
      other ':' (by decide)]
    simp
  unfold tokenAt? scalarAt?
  simp only [noMarker, other '%' (by decide), other '[' (by decide),
    other '{' (by decide), other ']' (by decide), other '}' (by decide),
    other ',' (by decide), other '-' (by decide), other '?' (by decide),
    other ':' (by decide), other '*' (by decide), other '&' (by decide),
    other '!' (by decide), other '|' (by decide), other '>' (by decide),
    other '\'' (by decide), other '"' (by decide), starts, Bool.or_self,
    Bool.and_false, Bool.false_and, Bool.false_eq_true, if_false]
  cases isSpace char with
  | false => rfl
  | true => rfl

/-- A layout behind a plain scalar with which the text starts. -/
def afterScalar (place : Place) : Layout :=
  let found := plainScalar false 0 (place.rest.length + 1) ⟨[], place, false⟩
  ⟨found.place, #[.scalar (String.ofList found.content) true], 0, [],
    found.crossesLine,
    [⟨0, 0, false, place.offset, place.line, place.column⟩]⟩

theorem tokenAt?_start {place : Place} (blank : Text.isBlank char = true)
    (word : isSpace char = false) (stands : place.rest = char :: rest) :
    (start place).tokenAt? char = some (afterScalar place) := by
  have outermost : ((-1 : Int) == place.column) = false := by
    rw [beq_eq_false_iff_ne]
    omega
  have stands' : (start place).place.rest = char :: rest := stands
  rw [tokenAt?_of_isBlank blank stands', word]
  simp [saveCandidate?, dropCandidate?, start, indent, pushScalar, afterScalar,
    outermost]

theorem skipBlank_of_visible {fuel : Nat}
    (stands : layout.place.rest.dropWhile (· == ' ') = char :: rest)
    (noComment : char ≠ '#') (inLine : isBreak char = false) :
    skipBlank (fuel + 1) layout =
      { layout with place := layout.place.skipWhile (· == ' ') } := by
  rw [← Place.rest_skipWhile] at stands
  have same : (layout.place.skipWhile (· == ' ')).skipComment =
      layout.place.skipWhile (· == ' ') := by
    unfold Place.skipComment
    rw [stands]
    apply if_neg
    simpa using noComment
  rw [skipBlank, same, Place.lineBreak?_eq_none stands inLine]

theorem skipBlank_candidates (fuel : Nat) (layout : Layout)
    (candidates : List KeyCandidate) :
    skipBlank fuel { layout with candidates := candidates } =
      { skipBlank fuel layout with candidates := candidates } := by
  induction fuel generalizing layout with
  | zero => rfl
  | succ fuel induction =>
      rw [skipBlank, skipBlank]
      cases ((layout.place.skipWhile (· == ' ')).skipComment).lineBreak? with
      | none => rfl
      | some found =>
          exact induction { layout with
            place := found.2, allowKey := layout.allowKey || layout.level == 0 }

/-- Candidates on earlier lines are given up, unless they have to be keys. -/
theorem dropStale?_of_stale
    (stale : ∀ candidate ∈ layout.candidates, candidate.required = false ∧
      candidate.line < layout.place.line) :
    layout.dropStale? = some { layout with candidates := [] } := by
  unfold dropStale?
  rw [List.partition_eq_filter_filter]
  apply Option.ite_none_left_eq_some.mpr
  constructor
  · rw [List.any_eq_true]
    rintro ⟨candidate, member, required⟩
    rw [(stale candidate (List.mem_of_mem_filter member)).1] at required
    cases required
  · have others : layout.candidates.filter (not ∘ fun found =>
        found.line != layout.place.line ||
          layout.place.offset - found.offset > keyLimit) = [] := by
      rw [List.filter_eq_nil_iff]
      intro candidate member
      have earlier := (stale candidate member).2.ne
      simp [earlier]
    rw [others]

theorem run_of_stale (fuel : Nat)
    (stale : ∀ candidate ∈ layout.candidates, candidate.required = false ∧
      candidate.line < layout.place.line) :
    run fuel layout = run fuel { layout with candidates := [] } := by
  cases fuel with
  | zero => rfl
  | succ fuel =>
      let steps := layout.place.rest.length + 1
      have kept : (skipBlank steps layout).candidates = layout.candidates := by
        have same : skipBlank steps layout =
            { skipBlank steps layout with candidates := layout.candidates } :=
          skipBlank_candidates steps layout layout.candidates
        rw [same]
      have early : (skipBlank steps layout).dropStale? =
          some { skipBlank steps layout with candidates := [] } := by
        apply dropStale?_of_stale
        rw [kept]
        intro candidate member
        obtain ⟨free, earlier⟩ := stale candidate member
        exact ⟨free, earlier.trans_le (line_skipBlank_le _ layout)⟩
      have late : (skipBlank steps { layout with candidates := [] }).dropStale? =
          some { skipBlank steps layout with candidates := [] } := by
        rw [skipBlank_candidates]
        exact dropStale?_of_stale (by simp)
      rw [run, run, early, late]
      rfl

/-- No token starts with a tab. -/
theorem run_of_tab (fuel : Nat) (unbroken : layout.isBroken = false)
    (stands : layout.place.rest.dropWhile (· == ' ') = '\t' :: rest) :
    run fuel layout = none := by
  cases fuel with
  | zero => rfl
  | succ fuel =>
      rw [run, unbroken,
        skipBlank_of_visible stands (by decide) (by decide)]
      rw [← Place.rest_skipWhile] at stands
      cases dropped : ({ layout with
          place := layout.place.skipWhile (· == ' ') } : Layout).dropStale? with
      | none => rfl
      | some fresh =>
          have same := eq_of_dropStale? dropped
          have stands' : (fresh.unwind fresh.place.column).place.rest =
              '\t' :: rest := by
            rw [place_unwind, same]
            exact stands
          have noToken := tokenAt?_of_isBlank (by decide) stands'
          simp only [Option.bind_eq_bind, Option.bind_some, stands', noToken]
          rfl

/-- The first token of a text that starts with blanks, one of which is part of a
word. -/
theorem run_start_of_word {place : Place} (fuel : Nat)
    (stands : place.rest.dropWhile (· == ' ') = char :: rest)
    (blank : Text.isBlank char = true) (word : isSpace char = false) :
    run (fuel + 1) (start place) =
      run fuel (afterScalar (place.skipWhile (· == ' '))) := by
  have inLine : isBreak char = false := by
    unfold isSpace at word
    rw [Bool.or_eq_false_iff] at word
    exact word.2
  have notComment : char ≠ '#' := ne_of_isBlank blank (by decide)
  have start' : (start place).place.rest.dropWhile (· == ' ') = char :: rest :=
    stands
  rw [← Place.rest_skipWhile] at stands
  let passed := start (place.skipWhile (· == ' '))
  have fresh : ({ start place with
      place := (start place).place.skipWhile (· == ' ') } : Layout).dropStale? =
        some passed := rfl
  have unwound : passed.unwind passed.place.column = passed := rfl
  have stands' : passed.place.rest = char :: rest := stands
  have found : passed.tokenAt? char =
      some (afterScalar (place.skipWhile (· == ' '))) :=
    tokenAt?_start blank word stands
  rw [run, skipBlank_of_visible start' notComment inLine, fresh]
  simp only [Option.bind_eq_bind, Option.bind_some, unwound, stands', found]
  rfl

/-- A text that starts with a blank that is no space starts with that blank as
a token, if nothing but blanks follows on its line. -/
theorem first_of_run_afterScalar {place : Place} {run : List Char} {fuel : Nat}
    {tokens : Array Token} (blank : IsBlankRest run place) (nonempty : run ≠ [])
    (head : run.head? ≠ some ' ')
    (ran : Layout.run fuel (afterScalar place) = some tokens) :
    tokens[0]? = (afterScalar place).tokens[0]? := by
  let gap : PlainGap := ⟨[], place, false⟩
  have enough : gap.place.left < place.rest.length + 1 := Nat.lt_succ_self _
  have blankGap : IsBlankRest run gap.place := blank
  rcases blankGap.plainScalar nonempty head (Int.le_refl 0) enough with
    later | tab
  · rw [run_of_stale] at ran
    · apply StartsWith.run _ ran
      exact ⟨rfl, by simp⟩
    · intro candidate member
      obtain rfl := List.mem_singleton.mp member
      exact ⟨rfl, later⟩
  · obtain ⟨rest, stands⟩ := List.head?_eq_some_iff.mp tab
    have visible : (afterScalar place).place.rest.dropWhile (· == ' ') =
        '\t' :: rest := congrArg (List.dropWhile (· == ' ')) stands
    rw [run_of_tab fuel rfl visible] at ran
    cases ran

theorem first_afterScalar {place : Place} (blank : Text.isBlank char = true)
    (word : isSpace char = false) (stands : place.rest = char :: rest) :
    ∃ content, (afterScalar place).tokens[0]? =
      some (.scalar (String.ofList (char :: content)) true) := by
  have goesOn : endsPlain false place 0 = false := by
    have noColon : char ≠ ':' := ne_of_isBlank blank (by decide)
    rw [endsPlain, Place.peek?, stands]
    simp [word, noColon]
  have positive : 0 < place.rest.length := by
    rw [stands]
    exact Nat.succ_pos _
  obtain ⟨length, isLength⟩ := Nat.exists_eq_add_one.mpr
    (plainWordLength_pos positive goesOn)
  have noComment : char ≠ '#' := ne_of_isBlank blank (by decide)
  have found : ∃ content, (plainScalar false 0 (place.rest.length + 1)
      ⟨[], place, false⟩).content = char :: content := by
    rw [plainScalar]
    dsimp only
    rw [isLength, if_neg (by simp [stands, noComment])]
    split
    · exact ⟨rest.take length, by rw [stands]; rfl⟩
    · exact ⟨_, by rw [stands]; rfl⟩
  obtain ⟨content, isContent⟩ := found
  exact ⟨content, by rw [← isContent]; rfl⟩

end Layout

end Shortcode.Yaml
