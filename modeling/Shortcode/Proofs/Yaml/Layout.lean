import Shortcode.Proofs.Outcome
import Shortcode.Proofs.Text.Search
import Shortcode.Proofs.Yaml.Written
import Shortcode.Yaml.Token

/-!
# Layouts further down

The tokens of a text do not depend on how far down it is laid out, and each of
them uses up some of it.  So there are enough steps for all of them, and a text
has the same tokens behind other lines.
-/

namespace Shortcode.Yaml

/-- The candidate further down. -/
def KeyCandidate.later (chars lines : Nat) (candidate : KeyCandidate) :
    KeyCandidate :=
  { candidate with
    offset := candidate.offset + chars, line := candidate.line + lines }

namespace Layout

variable {layout : Layout} (chars lines : Nat)

/-- The layout further down. -/
def later (chars lines : Nat) (layout : Layout) : Layout :=
  { layout with
    place := layout.place.later chars lines
    candidates := layout.candidates.map (KeyCandidate.later chars lines) }

@[simp] theorem place_later :
    (layout.later chars lines).place = layout.place.later chars lines := rfl

@[simp] theorem tokens_later :
    (layout.later chars lines).tokens = layout.tokens := rfl

@[simp] theorem level_later :
    (layout.later chars lines).level = layout.level := rfl

@[simp] theorem indent_later :
    (layout.later chars lines).indent = layout.indent := rfl

@[simp] theorem allowKey_later :
    (layout.later chars lines).allowKey = layout.allowKey := rfl

@[simp] theorem push_later (token : Token) (count : Nat) :
    (layout.later chars lines).push token count =
      (layout.push token count).later chars lines := by
  rw [push, later, Place.forward_later]
  rfl

@[simp] theorem unwind_later (column : Int) :
    (layout.later chars lines).unwind column =
      (layout.unwind column).later chars lines := by
  unfold unwind
  rw [apply_ite (later chars lines)]
  rfl

@[simp] theorem openBlock_later (column index : Nat) (token : Token) :
    (layout.later chars lines).openBlock column index token =
      (layout.openBlock column index token).later chars lines := by
  unfold openBlock
  rw [apply_ite (later chars lines)]
  rfl

theorem partition_later (candidates : List KeyCandidate)
    (first second : KeyCandidate → Bool)
    (same : ∀ found, first (found.later chars lines) = second found) :
    (candidates.map (KeyCandidate.later chars lines)).partition first =
      Prod.map (List.map (KeyCandidate.later chars lines))
        (List.map (KeyCandidate.later chars lines))
        (candidates.partition second) := by
  have alike : first ∘ KeyCandidate.later chars lines = second := funext same
  rw [List.partition_eq_filter_filter, List.partition_eq_filter_filter,
    List.filter_map, List.filter_map, alike, ← alike]
  rfl

/-- Some candidates are given up, unless one of them has to be a key. -/
theorem giveUp_later (parts : List KeyCandidate × List KeyCandidate) :
    (if (parts.1.map (KeyCandidate.later chars lines)).any (·.required) then none
      else some { layout.later chars lines with
        candidates := parts.2.map (KeyCandidate.later chars lines) }) =
    (if parts.1.any (·.required) then none
      else some { layout with candidates := parts.2 }).map
        (later chars lines) := by
  rw [List.any_map, apply_ite (Option.map (later chars lines))]
  rfl

@[simp] theorem dropCandidate?_later :
    (layout.later chars lines).dropCandidate? =
      layout.dropCandidate?.map (later chars lines) := by
  have parted := partition_later chars lines layout.candidates
    (fun found => found.level == layout.level)
    (fun found => found.level == layout.level) fun _ => rfl
  unfold dropCandidate?
  rw [← giveUp_later]
  exact congrArg (fun parts : List KeyCandidate × List KeyCandidate =>
    if parts.1.any (·.required) then none
    else some { layout.later chars lines with candidates := parts.2 }) parted

@[simp] theorem dropStale?_later :
    (layout.later chars lines).dropStale? =
      layout.dropStale?.map (later chars lines) := by
  have parted := partition_later chars lines layout.candidates
    (fun found => found.line != layout.place.line + lines ||
      layout.place.offset + chars - found.offset > keyLimit)
    (fun found => found.line != layout.place.line ||
      layout.place.offset - found.offset > keyLimit) (by
        intro found
        simp only [KeyCandidate.later, Nat.add_sub_add_right]
        congr 1
        rw [Bool.eq_iff_iff]
        simp)
  unfold dropStale?
  rw [← giveUp_later]
  exact congrArg (fun parts : List KeyCandidate × List KeyCandidate =>
    if parts.1.any (·.required) then none
    else some { layout.later chars lines with candidates := parts.2 }) parted

@[simp] theorem saveCandidate?_later :
    (layout.later chars lines).saveCandidate? =
      layout.saveCandidate?.map (later chars lines) := by
  unfold saveCandidate?
  rw [dropCandidate?_later]
  change (if layout.allowKey = true then _ else _) = _
  split
  · cases layout.dropCandidate? with
    | none => rfl
    | some dropped => rfl
  · rfl

@[simp] theorem skipBlank_later (fuel : Nat) :
    skipBlank fuel (layout.later chars lines) =
      (skipBlank fuel layout).later chars lines := by
  induction fuel generalizing layout with
  | zero => rfl
  | succ fuel induction =>
      rw [skipBlank, skipBlank]
      simp only [place_later, Place.skipWhile_later, Place.skipComment_later,
        Place.lineBreak?_later]
      cases ((layout.place.skipWhile _).skipComment).lineBreak? with
      | none => rfl
      | some found =>
          exact @induction { layout with
            place := found.2
            allowKey := layout.allowKey || layout.level == 0 }

theorem ite_later {test : Prop} [Decidable test]
    {first second one other : Option Layout}
    (whenTrue : one = first.map (later chars lines))
    (whenFalse : other = second.map (later chars lines)) :
    (if test then one else other) =
      (if test then first else second).map (later chars lines) := by
  split
  · exact whenTrue
  · exact whenFalse

@[simp] theorem directiveAt?_later {place : Place} :
    directiveAt? (place.later chars lines) =
      (directiveAt? place).map (Place.andLater chars lines) := by
  have goOn (token : Token) (place : Place) :
      ((ignoredLine? place).map (·.later chars lines)).bind
          (fun last => some (token, last)) =
        ((ignoredLine? place).bind fun last => some (token, last)).map
          (Place.andLater chars lines) := by
    cases ignoredLine? place with
    | none => rfl
    | some last => rfl
  unfold directiveAt?
  simp only [Place.rest_later, Place.forward_later, Place.skipWhile_later,
    Place.endsLine_later, ignoredLine?_later]
  split
  · rfl
  · split
    · split
      · rfl
      · exact goOn _ _
    · split
      · cases fullAddress? _ with
        | none => rfl
        | some found =>
            dsimp only [bind, Option.bind]
            split
            · rfl
            · exact goOn _ _
      · exact goOn _ _

@[simp] theorem pushAfterKey?_later (token : Token) (count : Nat) :
    (layout.later chars lines).pushAfterKey? token count =
      (layout.pushAfterKey? token count).map (later chars lines) := by
  unfold pushAfterKey?
  rw [saveCandidate?_later]
  cases layout.saveCandidate? with
  | none => rfl
  | some saved =>
      simp only [Option.map_some, push_later]
      rfl

@[simp] theorem pushOutside?_later :
    (layout.later chars lines).pushOutside? =
      layout.pushOutside?.map (later chars lines) := by
  unfold pushOutside?
  rw [unwind_later, dropCandidate?_later]
  cases (layout.unwind (-1)).dropCandidate? with
  | none => rfl
  | some dropped => rfl

@[simp] theorem openFlow?_later (token : Token) :
    (layout.later chars lines).openFlow? token =
      (layout.openFlow? token).map (later chars lines) := by
  unfold openFlow?
  rw [saveCandidate?_later]
  cases layout.saveCandidate? with
  | none => rfl
  | some saved =>
      simp only [Option.map_some, push_later]
      rfl

@[simp] theorem closeFlow?_later (token : Token) :
    (layout.later chars lines).closeFlow? token =
      (layout.closeFlow? token).map (later chars lines) := by
  unfold closeFlow?
  rw [dropCandidate?_later, level_later]
  split
  · rfl
  · cases layout.dropCandidate? with
    | none => rfl
    | some dropped =>
        simp only [Option.map_some, push_later]
        rfl

@[simp] theorem pushSign?_later (block sign : Token) (allowKey : Bool) :
    (layout.later chars lines).pushSign? block sign allowKey =
      (layout.pushSign? block sign allowKey).map (later chars lines) := by
  unfold pushSign?
  simp only [level_later, allowKey_later, place_later, Place.column_later,
    tokens_later, openBlock_later]
  split
  · rfl
  · rw [← apply_ite (later chars lines), dropCandidate?_later]
    cases dropCandidate? _ with
    | none => rfl
    | some dropped =>
        simp only [Option.map_some, push_later]
        rfl

@[simp] theorem pushValue?_later :
    (layout.later chars lines).pushValue? =
      layout.pushValue?.map (later chars lines) := by
  have found : (layout.later chars lines).candidates.find?
      (fun found => found.level == layout.level) =
        (layout.candidates.find? fun found => found.level == layout.level).map
          (KeyCandidate.later chars lines) :=
    List.find?_map ..
  have others : (layout.later chars lines).candidates.filter
      (fun other => other.level != layout.level) =
        (layout.candidates.filter fun other =>
          other.level != layout.level).map (KeyCandidate.later chars lines) :=
    List.filter_map ..
  unfold pushValue?
  rw [level_later, found, others, pushSign?_later]
  cases layout.candidates.find? _ with
  | none => rfl
  | some found =>
      let marked : Layout := { layout with
        candidates := layout.candidates.filter fun other =>
          other.level != layout.level
        tokens := layout.tokens.extract 0 found.index ++ #[Token.key] ++
          layout.tokens.extract found.index layout.tokens.size }
      let opened := if layout.level == 0 then
        marked.openBlock found.column found.index .blockMappingStart else marked
      have same : (if layout.level == 0 then
          (marked.later chars lines).openBlock found.column found.index
            .blockMappingStart else marked.later chars lines) =
            opened.later chars lines := by
        rw [openBlock_later, ← apply_ite (later chars lines)]
      change some { ((if layout.level == 0 then
        (marked.later chars lines).openBlock found.column found.index
          .blockMappingStart else marked.later chars lines).push .value 1) with
            allowKey := false } = _
      rw [same, push_later]
      rfl

@[simp] theorem pushScalar_later (content : List Char) (plain allowKey : Bool)
    (place : Place) :
    (layout.later chars lines).pushScalar content plain allowKey
        (place.later chars lines) =
      (layout.pushScalar content plain allowKey place).later chars lines :=
  rfl

theorem scalarAt?_later (char : Char) :
    (layout.later chars lines).scalarAt? char =
      (layout.scalarAt? char).map (later chars lines) := by
  unfold scalarAt?
  simp only [level_later, place_later, Place.rest_later, Place.step_later,
    dropCandidate?_later, saveCandidate?_later]
  apply ite_later
  · cases layout.dropCandidate? with
    | none => rfl
    | some dropped =>
        simp only [Option.map_some, bind, Option.bind_some, blockScalar?_later,
          indent_later]
        cases blockScalar? (char == '>') dropped.indent layout.place.step with
        | none => rfl
        | some found => rfl
  · apply ite_later
    · cases layout.saveCandidate? with
      | none => rfl
      | some saved =>
          simp only [Option.map_some, bind, Option.bind_some, quotedScalar_later]
          cases quotedScalar (char == '"') (layout.place.rest.length + 1)
            layout.place.step with
          | ok found => rfl
          | error error =>
              cases error with
              | malformed => rfl
              | noCharacter code => rfl
    · apply ite_later
      · cases layout.saveCandidate? with
        | none => rfl
        | some saved =>
            simp only [Option.map_some, bind, Option.bind_some]
            have gap : (⟨[], layout.place.later chars lines, false⟩ : PlainGap) =
              PlainGap.later ⟨[], layout.place, false⟩ chars lines := rfl
            rw [gap, plainScalar_later]
            rfl
      · rfl

theorem tokenAt?_later (char : Char) :
    (layout.later chars lines).tokenAt? char =
      (layout.tokenAt? char).map (later chars lines) := by
  unfold tokenAt?
  simp only [level_later, place_later, Place.column_later, Place.step_later,
    pushOutside?_later, openFlow?_later, closeFlow?_later, dropCandidate?_later,
    pushSign?_later, pushValue?_later, scalarAt?_later, directiveAt?_later,
    Place.atMarker_later, Place.endsWord_later]
  have named {α : Type} (found : Option α) (token : α → Token)
      (count : α → Nat) :
      (found.bind fun name => (layout.later chars lines).pushAfterKey?
          (token name) (count name)) =
        (found.bind fun name => layout.pushAfterKey? (token name)
          (count name)).map (later chars lines) := by
    cases found with
    | none => rfl
    | some name => exact pushAfterKey?_later chars lines _ _
  apply ite_later
  · cases layout.pushOutside? with
    | none => rfl
    | some outside =>
        cases directiveAt? layout.place.step with
        | none => rfl
        | some found => rfl
  · apply ite_later
    · cases layout.pushOutside? with
      | none => rfl
      | some outside =>
          simp only [Option.map_some, push_later]
    · apply ite_later _ _ rfl
      apply ite_later _ _ rfl
      apply ite_later _ _ rfl
      apply ite_later _ _ rfl
      apply ite_later
      · cases layout.dropCandidate? with
        | none => rfl
        | some dropped =>
            simp only [Option.map_some, push_later]
            rfl
      · apply ite_later _ _ rfl
        apply ite_later _ _ rfl
        apply ite_later _ _ rfl
        apply ite_later _ _ (named (nameAfterSign? layout.place) _ _)
        apply ite_later _ _ (named (nameAfterSign? layout.place) _ _)
        exact ite_later _ _ (named (tagAt? layout.place) _ _) rfl

theorem run_later (fuel : Nat) :
    run fuel (layout.later chars lines) = run fuel layout := by
  induction fuel generalizing layout with
  | zero => rfl
  | succ fuel induction =>
      rw [run, run]
      change (if layout.isBroken = true then _ else _) = _
      split
      · rfl
      · rw [place_later, Place.rest_later, skipBlank_later, dropStale?_later]
        cases (skipBlank (layout.place.rest.length + 1) layout).dropStale? with
        | none => rfl
        | some fresh =>
            simp only [Option.map_some, bind, Option.bind_some, place_later,
              Place.column_later, unwind_later, Place.rest_later]
            cases (fresh.unwind fresh.place.column).place.rest with
            | nil =>
                dsimp only
                rw [dropCandidate?_later]
                cases ((fresh.unwind fresh.place.column).unwind
                  (-1)).dropCandidate? with
                | none => rfl
                | some last => rfl
            | cons char rest =>
                dsimp only
                rw [tokenAt?_later]
                cases (fresh.unwind fresh.place.column).tokenAt? char with
                | none => rfl
                | some next => exact induction

/-! ## Enough steps -/

variable {next : Layout}

theorem left_skipBlank_le (fuel : Nat) (layout : Layout) :
    (skipBlank fuel layout).place.left ≤ layout.place.left := by
  induction fuel generalizing layout with
  | zero => exact Nat.le_refl _
  | succ fuel induction =>
      have blank := layout.place.left_skipWhile_le (· == ' ')
      have comment := (layout.place.skipWhile (· == ' ')).left_skipComment_le
      rw [skipBlank]
      split
      · rename_i char start ends
        have before := Place.left_lineBreak?_lt ends
        have behind : (skipBlank fuel { layout with
            place := start
            allowKey := layout.allowKey || layout.level == 0 }).place.left ≤
              start.left := induction _
        omega
      · exact comment.trans blank

theorem place_unwind (column : Int) :
    (layout.unwind column).place = layout.place := by
  unfold unwind
  split
  · rfl
  · rfl

theorem place_openBlock (column index : Nat) (token : Token) :
    (layout.openBlock column index token).place = layout.place := by
  unfold openBlock
  split
  · rfl
  · rfl

theorem eq_of_dropCandidate? (dropped : layout.dropCandidate? = some next) :
    next = { layout with candidates := next.candidates } := by
  obtain ⟨-, same⟩ := Option.ite_none_left_eq_some.mp dropped
  cases same
  rfl

theorem eq_of_dropStale? (dropped : layout.dropStale? = some next) :
    next = { layout with candidates := next.candidates } := by
  obtain ⟨-, same⟩ := Option.ite_none_left_eq_some.mp dropped
  cases same
  rfl

theorem eq_of_saveCandidate? (saved : layout.saveCandidate? = some next) :
    next = { layout with candidates := next.candidates } := by
  unfold saveCandidate? at saved
  split at saved
  · obtain ⟨dropped, found, rfl⟩ := Option.map_eq_some_iff.mp saved
    rw [eq_of_dropCandidate? found]
  · cases saved
    rfl

theorem left_push (token : Token) (count : Nat) :
    (layout.push token count).place.left = layout.place.left - count :=
  layout.place.left_forward count

theorem left_pushAfterKey? {token : Token} {count : Nat}
    (pushed : layout.pushAfterKey? token count = some next) :
    next.place.left = layout.place.left - count := by
  obtain ⟨saved, found, rfl⟩ := Option.map_eq_some_iff.mp pushed
  rw [eq_of_saveCandidate? found]
  exact left_push token count

theorem place_of_pushOutside? (pushed : layout.pushOutside? = some next) :
    next.place = layout.place := by
  obtain ⟨dropped, found, rfl⟩ := Option.map_eq_some_iff.mp pushed
  rw [eq_of_dropCandidate? found]
  exact place_unwind _

theorem left_openFlow? {token : Token}
    (pushed : layout.openFlow? token = some next) :
    next.place.left = layout.place.left - 1 := by
  obtain ⟨saved, found, rfl⟩ := Option.map_eq_some_iff.mp pushed
  rw [eq_of_saveCandidate? found]
  exact left_push token 1

theorem left_closeFlow? {token : Token}
    (pushed : layout.closeFlow? token = some next) :
    next.place.left = layout.place.left - 1 := by
  obtain ⟨-, pushed⟩ := Option.ite_none_left_eq_some.mp pushed
  obtain ⟨dropped, found, rfl⟩ := Option.map_eq_some_iff.mp pushed
  rw [eq_of_dropCandidate? found]
  exact left_push token 1

theorem left_pushSign? {block sign : Token} {allowKey : Bool}
    (pushed : layout.pushSign? block sign allowKey = some next) :
    next.place.left = layout.place.left - 1 := by
  obtain ⟨-, pushed⟩ := Option.ite_none_left_eq_some.mp pushed
  obtain ⟨dropped, found, rfl⟩ := Option.map_eq_some_iff.mp pushed
  have opened : dropped.place = layout.place := by
    rw [eq_of_dropCandidate? found]
    dsimp only
    split
    · exact place_openBlock ..
    · rfl
  rw [← opened]
  exact left_push sign 1

theorem left_pushValue? (pushed : layout.pushValue? = some next) :
    next.place.left = layout.place.left - 1 := by
  unfold pushValue? at pushed
  split at pushed
  · cases pushed
    rw [left_push]
    split
    · rw [place_openBlock]
    · rfl
  · exact left_pushSign? pushed

theorem left_directiveAt?_le {place behind : Place} {token : Token}
    (found : directiveAt? place = some (token, behind)) :
    behind.left ≤ place.left := by
  unfold directiveAt? at found
  dsimp only at found
  generalize (place.rest.takeWhile isNameChar).length = length at found
  have name := place.left_forward length
  generalize place.forward length = after at found name
  have blank := after.left_skipWhile_le (· == ' ')
  generalize after.skipWhile (· == ' ') = start at found blank
  split at found
  · cases found
  · split at found
    · split at found
      · cases found
      · obtain ⟨last, ignored, same⟩ := Option.bind_eq_some_iff.mp found
        cases same
        have line := left_ignoredLine?_le ignored
        rw [Place.left_forward] at line
        omega
    · split at found
      · obtain ⟨⟨lead, rest⟩, address, found⟩ := Option.bind_eq_some_iff.mp found
        dsimp only at found
        split at found
        · cases found
        · obtain ⟨last, ignored, same⟩ := Option.bind_eq_some_iff.mp found
          cases same
          have line := left_ignoredLine?_le ignored
          have handle := start.left_forward (start.rest.takeWhile fun char =>
            char != ' ' && !isBreak char).length
          have gap := (start.forward (start.rest.takeWhile fun char =>
            char != ' ' && !isBreak char).length).left_skipWhile_le (· == ' ')
          rw [Place.left_forward] at line
          omega
      · obtain ⟨last, ignored, same⟩ := Option.bind_eq_some_iff.mp found
        cases same
        have line := left_ignoredLine?_le ignored
        have word := after.left_skipWhile_le fun char => !isBreak char
        omega

theorem count_of_nameAfterSign? {place : Place} {name : String} {count : Nat}
    (found : nameAfterSign? place = some (name, count)) : 0 < count := by
  obtain ⟨-, same⟩ := Option.ite_none_left_eq_some.mp found
  cases same
  omega

theorem length_of_escapedBytes? {text rest : List Char} {bytes : List UInt8}
    (found : escapedBytes? text = some (bytes, rest)) :
    rest.length ≤ text.length := by
  fun_induction escapedBytes? text generalizing bytes with
  | case1 first second text induction =>
      obtain ⟨byte, -, found⟩ := Option.bind_eq_some_iff.mp found
      obtain ⟨⟨others, last⟩, later, same⟩ := Option.bind_eq_some_iff.mp found
      cases same
      have behind := induction later
      simp only [List.length_cons]
      omega
  | case2 => cases found
  | case3 =>
      cases found
      exact Nat.le_refl _

theorem length_of_addressAt? {fuel : Nat} {text address rest : List Char}
    (found : addressAt? fuel text = some (address, rest)) :
    rest.length ≤ text.length := by
  induction fuel generalizing text address with
  | zero =>
      cases found
      exact Nat.le_refl _
  | succ fuel induction =>
      unfold addressAt? at found
      split at found
      · cases found
        exact Nat.le_refl _
      · rename_i char behind
        split at found
        · obtain ⟨⟨bytes, after⟩, escapes, found⟩ :=
            Option.bind_eq_some_iff.mp found
          obtain ⟨decoded, -, found⟩ := Option.bind_eq_some_iff.mp found
          obtain ⟨⟨others, last⟩, later, same⟩ :=
            Option.bind_eq_some_iff.mp found
          cases same
          exact (induction later).trans (length_of_escapedBytes? escapes)
        · split at found
          · obtain ⟨⟨others, last⟩, later, same⟩ :=
              Option.bind_eq_some_iff.mp found
            cases same
            have after := induction later
            rw [List.length_cons]
            omega
          · cases found
            exact Nat.le_refl _

theorem length_of_fullAddress? {text rest : List Char} {address : String}
    (found : fullAddress? text = some (address, rest)) :
    rest.length ≤ text.length := by
  obtain ⟨⟨chars, last⟩, read, found⟩ := Option.bind_eq_some_iff.mp found
  obtain ⟨-, same⟩ := Option.ite_none_left_eq_some.mp found
  cases same
  exact length_of_addressAt? read

theorem length_of_tagHandle? {text rest : List Char} {handle : String}
    (found : tagHandle? text = some (handle, rest)) :
    rest.length ≤ text.length := by
  unfold tagHandle? at found
  dsimp only at found
  split at found
  · split at found
    · rename_i behind stands
      cases found
      have dropped := congrArg List.length stands
      rw [List.length_drop, List.length_cons] at dropped
      omega
    · cases found
  · cases found
    exact Nat.le_refl _

/-- A tag that ends here has at least its sign. -/
theorem count_of_tagEnd {form handle : Option String}
    {address suffix : String} {char : Char} {text rest : List Char}
    {count : Nat}
    (found : (match rest with
      | [] => some (form, address, (char :: text).length - rest.length)
      | next :: _ =>
          if next == ' ' || isBreak next then
            some (form, address, (char :: text).length - rest.length)
          else none) = some (handle, suffix, count))
    (shorter : rest.length ≤ text.length) : 0 < count := by
  have positive : 0 < (char :: text).length - rest.length := by
    rw [List.length_cons]
    omega
  split at found
  · cases found
    exact positive
  · obtain ⟨-, same⟩ := Option.ite_none_right_eq_some.mp found
    cases same
    exact positive

theorem count_of_tagAt? {place : Place} {char : Char} {text : List Char}
    {handle : Option String} {suffix : String} {count : Nat}
    (stands : place.rest = char :: text)
    (found : tagAt? place = some (handle, suffix, count)) : 0 < count := by
  unfold tagAt? at found
  rw [stands, List.drop_one, List.tail_cons] at found
  dsimp only at found
  split at found
  · rename_i inner _
    obtain ⟨⟨first, after⟩, full, found⟩ := Option.bind_eq_some_iff.mp found
    obtain ⟨last, lead, found⟩ := Option.bind_eq_some_iff.mp found
    apply count_of_tagEnd found
    have closed : after = '>' :: last := Text.dropLead?_eq_some_iff.mp lead
    have shorter := length_of_fullAddress? full
    rw [closed, List.length_cons] at shorter
    change last.length ≤ _
    rw [List.length_cons]
    omega
  · split at found
    · exact count_of_tagEnd found (Nat.le_refl _)
    · obtain ⟨⟨first, inner⟩, handled, found⟩ := Option.bind_eq_some_iff.mp found
      obtain ⟨⟨second, last⟩, full, found⟩ := Option.bind_eq_some_iff.mp found
      apply count_of_tagEnd found
      exact (length_of_fullAddress? full).trans (length_of_tagHandle? handled)

theorem plainWordLength_pos {inFlow : Bool} {place : Place} {fuel : Nat}
    (enough : 0 < fuel) (goesOn : endsPlain inFlow place 0 = false) :
    0 < plainWordLength inFlow place fuel 0 := by
  have least (fuel distance : Nat) :
      distance ≤ plainWordLength inFlow place fuel distance := by
    induction fuel generalizing distance with
    | zero => exact Nat.le_refl _
    | succ fuel induction =>
        rw [plainWordLength]
        split
        · exact Nat.le_refl _
        · exact (Nat.le_succ distance).trans (induction (distance + 1))
  obtain ⟨fuel, rfl⟩ := Nat.exists_eq_add_one.mpr enough
  rw [plainWordLength, goesOn]
  exact least fuel 1

/-- Where a plain scalar starts, its first word is not empty. -/
theorem not_endsPlain_of_startsPlain {char : Char} {rest : List Char}
    (stands : layout.place.rest = char :: rest)
    (starts : layout.startsPlain = true) :
    char ≠ '#' ∧ endsPlain (layout.level > 0) layout.place 0 = false := by
  unfold startsPlain at starts
  rw [stands] at starts
  unfold endsPlain
  rw [Place.peek?, stands]
  simp only [List.getElem?_cons_zero, Nat.zero_add] at starts ⊢
  simp only [Bool.or_eq_true, Bool.and_eq_true, Bool.not_eq_true',
    Bool.or_eq_false_iff, beq_iff_eq] at starts
  rcases starts with ⟨word, plain⟩ | ⟨goesOn, rfl | ⟨outside, rfl | rfl⟩⟩
  · simp only [String.reduceToList, List.contains_eq_mem, List.mem_cons,
      List.not_mem_nil, or_false, decide_eq_false_iff_not, not_or] at plain
    simp [word, plain]
  · simp [isSpace, isBreak]
  · simp [isSpace, isBreak, outside]
  · simp [isSpace, isBreak, outside, goesOn]

theorem left_plainScalar_lt {inFlow : Bool} {indent : Int} {place : Place}
    {char : Char} {rest : List Char} (stands : place.rest = char :: rest)
    (notComment : char ≠ '#') (goesOn : endsPlain inFlow place 0 = false) :
    (plainScalar inFlow indent (place.rest.length + 1)
      ⟨[], place, false⟩).place.left < place.left := by
  have word : 0 < plainWordLength inFlow place place.rest.length 0 := by
    apply plainWordLength_pos _ goesOn
    rw [stands]
    exact Nat.succ_pos _
  have positive : 0 < place.left := by
    rw [Place.left, stands]
    exact Nat.succ_pos _
  rw [plainScalar]
  dsimp only
  generalize plainWordLength inFlow place place.rest.length 0 = length at word
  have behind := place.left_forward length
  have gap := left_plainGap_le (place.forward length)
  split
  · rename_i ends
    rw [stands] at ends
    simp [notComment, word.ne'] at ends
  · split
    · dsimp only
      omega
    · dsimp only
      have after := left_plainScalar_le inFlow indent place.rest.length
        (plainGap (place.forward length))
      omega

theorem left_scalarAt? {char : Char} {rest : List Char}
    (stands : layout.place.rest = char :: rest)
    (found : layout.scalarAt? char = some next) :
    next.place.left < layout.place.left ∨ next.isBroken = true := by
  have step := layout.place.left_step
  have positive : 0 < layout.place.left := by
    rw [Place.left, stands]
    exact Nat.succ_pos _
  unfold scalarAt? at found
  dsimp only at found
  split at found
  · obtain ⟨dropped, -, found⟩ := Option.bind_eq_some_iff.mp found
    obtain ⟨⟨content, behind⟩, read, same⟩ := Option.bind_eq_some_iff.mp found
    cases same
    have after := left_blockScalar?_le read
    left
    change behind.left < _
    omega
  · split at found
    · obtain ⟨saved, -, found⟩ := Option.bind_eq_some_iff.mp found
      split at found
      · rename_i content behind read
        cases found
        have after := left_quotedScalar_le read
        left
        change behind.left < _
        omega
      · cases found
        right
        simp [isBroken, push]
      · cases found
    · split at found
      · rename_i starts
        obtain ⟨saved, kept, found⟩ := Option.bind_eq_some_iff.mp found
        rw [eq_of_saveCandidate? kept] at found
        cases found
        obtain ⟨notComment, goesOn⟩ :=
          not_endsPlain_of_startsPlain stands starts
        left
        exact left_plainScalar_lt stands notComment goesOn
      · cases found

theorem some_of_ite {test : Prop} [Decidable test] {one other : Option Layout}
    (found : (if test then one else other) = some next) :
    one = some next ∨ other = some next := by
  split at found
  · exact .inl found
  · exact .inr found

theorem left_tokenAt? {char : Char} {rest : List Char}
    (stands : layout.place.rest = char :: rest)
    (found : layout.tokenAt? char = some next) :
    next.place.left < layout.place.left ∨ next.isBroken = true := by
  have step := layout.place.left_step
  have positive : 0 < layout.place.left := by
    rw [Place.left, stands]
    exact Nat.succ_pos _
  have consumed {count : Nat} (some_ : 0 < count)
      (left : next.place.left = layout.place.left - count) :
      next.place.left < layout.place.left ∨ next.isBroken = true := by
    omega
  unfold tokenAt? at found
  dsimp only at found
  rcases some_of_ite found with found | found
  · obtain ⟨outside, pushed, found⟩ := Option.bind_eq_some_iff.mp found
    obtain ⟨⟨token, behind⟩, read, same⟩ := Option.bind_eq_some_iff.mp found
    cases same
    have after := left_directiveAt?_le read
    left
    change behind.left < _
    omega
  rcases some_of_ite found with found | found
  · obtain ⟨outside, pushed, rfl⟩ := Option.map_eq_some_iff.mp found
    apply consumed (Nat.succ_pos 2)
    rw [left_push, place_of_pushOutside? pushed]
  rcases some_of_ite found with found | found
  · exact consumed Nat.one_pos (left_openFlow? found)
  rcases some_of_ite found with found | found
  · exact consumed Nat.one_pos (left_openFlow? found)
  rcases some_of_ite found with found | found
  · exact consumed Nat.one_pos (left_closeFlow? found)
  rcases some_of_ite found with found | found
  · exact consumed Nat.one_pos (left_closeFlow? found)
  rcases some_of_ite found with found | found
  · obtain ⟨dropped, kept, rfl⟩ := Option.map_eq_some_iff.mp found
    apply consumed Nat.one_pos
    rw [eq_of_dropCandidate? kept]
    exact left_push .flowEntry 1
  rcases some_of_ite found with found | found
  · exact consumed Nat.one_pos (left_pushSign? found)
  rcases some_of_ite found with found | found
  · exact consumed Nat.one_pos (left_pushSign? found)
  rcases some_of_ite found with found | found
  · exact consumed Nat.one_pos (left_pushValue? found)
  rcases some_of_ite found with found | found
  · obtain ⟨⟨name, count⟩, read, pushed⟩ := Option.bind_eq_some_iff.mp found
    exact consumed (count_of_nameAfterSign? read) (left_pushAfterKey? pushed)
  rcases some_of_ite found with found | found
  · obtain ⟨⟨name, count⟩, read, pushed⟩ := Option.bind_eq_some_iff.mp found
    exact consumed (count_of_nameAfterSign? read) (left_pushAfterKey? pushed)
  rcases some_of_ite found with found | found
  · obtain ⟨⟨handle, suffix, count⟩, read, pushed⟩ :=
      Option.bind_eq_some_iff.mp found
    exact consumed (count_of_tagAt? stands read) (left_pushAfterKey? pushed)
  · exact left_scalarAt? stands found

theorem run_of_isBroken {fuel : Nat} (broken : layout.isBroken = true) :
    run (fuel + 1) layout = some layout.tokens := by
  rw [run, broken]
  rfl

/-- More steps than there are characters make no difference. -/
theorem run_of_left_lt {fuel : Nat} (enough : layout.place.left < fuel)
    (more : Nat) : run (fuel + more) layout = run fuel layout := by
  induction fuel generalizing layout with
  | zero => omega
  | succ fuel induction =>
      rw [Nat.add_right_comm, run, run]
      split
      · rfl
      · have blank := left_skipBlank_le (layout.place.rest.length + 1) layout
        cases dropped : (skipBlank (layout.place.rest.length + 1)
          layout).dropStale? with
        | none => rfl
        | some fresh =>
            have kept : fresh.place = (skipBlank (layout.place.rest.length + 1)
                layout).place := by
              rw [eq_of_dropStale? dropped]
            simp only [bind, Option.bind_some]
            have same : (fresh.unwind fresh.place.column).place = fresh.place :=
              place_unwind _
            cases rest : (fresh.unwind fresh.place.column).place.rest with
            | nil => rfl
            | cons char behind =>
                dsimp only
                cases token : (fresh.unwind fresh.place.column).tokenAt? char with
                | none => rfl
                | some next =>
                    simp only [Option.bind_some]
                    rcases left_tokenAt? rest token with shorter | broken
                    · apply induction
                      rw [same, kept] at shorter
                      omega
                    · have positive : 0 < fuel := by
                        have some_ := congrArg List.length rest
                        rw [same, kept, List.length_cons] at some_
                        change Place.left _ = _ at some_
                        omega
                      obtain ⟨steps, rfl⟩ := Nat.exists_eq_add_one.mpr positive
                      rw [Nat.add_right_comm, run_of_isBroken broken,
                        run_of_isBroken broken]

end Layout

end Shortcode.Yaml
