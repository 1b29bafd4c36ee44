import Shortcode.Proofs.Outcome
import Shortcode.Proofs.Yaml.Place
import Shortcode.Yaml.Written

/-!
# Scalars further down

The readers of scalars do not depend on the offset and the line of a place, and
leave no more of the text than there was.
-/

namespace Shortcode.Yaml

variable {place : Place} (chars lines : Nat)

/-! ## Plain scalars -/

@[simp] theorem plainWordLength_later (inFlow : Bool) (fuel distance : Nat) :
    plainWordLength inFlow (place.later chars lines) fuel distance =
      plainWordLength inFlow place fuel distance := by
  induction fuel generalizing distance with
  | zero => rfl
  | succ fuel induction =>
      rw [plainWordLength, plainWordLength, induction]
      rfl

@[simp] theorem plainBreaks?_later (fuel : Nat) :
    plainBreaks? fuel (place.later chars lines) =
      (plainBreaks? fuel place).map (Place.andLater chars lines) := by
  induction fuel generalizing place with
  | zero => rfl
  | succ fuel induction =>
      rw [plainBreaks?, plainBreaks?, Place.step_later, Place.lineBreak?_later,
        Place.rest_later, induction]
      split
      · rfl
      · cases place.lineBreak? with
        | none => rfl
        | some found =>
            dsimp only [Option.map_some, Place.andLater]
            rw [Place.atMarker_later, induction]
            split
            · rfl
            · cases plainBreaks? fuel found.2 with
              | none => rfl
              | some breaks => rfl

/-- The gap further down. -/
def PlainGap.later (gap : PlainGap) (chars lines : Nat) : PlainGap :=
  { gap with place := gap.place.later chars lines }

@[simp] theorem plainGap_later :
    plainGap (place.later chars lines) = (plainGap place).later chars lines := by
  unfold plainGap
  simp only [Place.rest_later, Place.forward_later, Place.lineBreak?_later]
  cases (place.forward _).lineBreak? with
  | none => rfl
  | some found =>
      dsimp only [Option.map_some, Place.andLater]
      rw [Place.atMarker_later, Place.rest_later, plainBreaks?_later]
      split
      · rfl
      · cases plainBreaks? found.2.rest.length found.2 with
        | none => rfl
        | some breaks => rfl

/-- The scalar further down. -/
def PlainScalar.later (scalar : PlainScalar) (chars lines : Nat) : PlainScalar :=
  { scalar with place := scalar.place.later chars lines }

@[simp] theorem plainScalar_later (inFlow : Bool) (indent : Int) (fuel : Nat)
    (gap : PlainGap) :
    plainScalar inFlow indent fuel (gap.later chars lines) =
      (plainScalar inFlow indent fuel gap).later chars lines := by
  induction fuel generalizing gap with
  | zero => rfl
  | succ fuel induction =>
      rw [plainScalar, plainScalar]
      simp only [PlainGap.later, plainWordLength_later, Place.rest_later,
        Place.forward_later, plainGap_later]
      split
      · rfl
      · generalize plainGap (gap.place.forward _) = next
        rw [Place.column_later, ← PlainGap.later, induction]
        split
        · rfl
        · rfl

/-! ## Quoted scalars -/

@[simp] theorem quotedBreaks?_later (fuel : Nat) :
    quotedBreaks? fuel (place.later chars lines) =
      (quotedBreaks? fuel place).map (Place.andLater chars lines) := by
  induction fuel generalizing place with
  | zero => rfl
  | succ fuel induction =>
      rw [quotedBreaks?, quotedBreaks?]
      simp only [Place.atMarker_later, Place.skipWhile_later, Place.lineBreak?_later]
      split
      · rfl
      · cases (place.skipWhile _).lineBreak? with
        | none => rfl
        | some found =>
            dsimp only [Option.map_some, Place.andLater]
            rw [induction]
            cases quotedBreaks? fuel found.2 with
            | none => rfl
            | some breaks => rfl

theorem numberedEscape_later (width : Nat) :
    numberedEscape width (place.later chars lines) =
      (numberedEscape width place).map (Place.andLater chars lines) := by
  unfold numberedEscape
  rw [Place.rest_later, Place.forward_later]
  cases Text.hexNumber? width place.rest with
  | none => rfl
  | some code =>
      dsimp only
      split
      · rfl
      · rfl

theorem quotedEscape_later :
    quotedEscape (place.later chars lines) =
      (quotedEscape place).map (Place.andLater chars lines) := by
  unfold quotedEscape
  simp only [Place.rest_later, Place.step_later, numberedEscape_later,
    Place.lineBreak?_later]
  split
  · rfl
  · split
    · rfl
    · rfl
    · cases place.lineBreak? with
      | none => rfl
      | some found =>
          dsimp only [Option.map_some, Place.andLater]
          rw [Place.rest_later, quotedBreaks?_later]
          cases quotedBreaks? (found.2.rest.length + 1) found.2 with
          | none => rfl
          | some breaks => rfl

theorem quotedSpaces_later :
    quotedSpaces (place.later chars lines) =
      (quotedSpaces place).map (Place.andLater chars lines) := by
  unfold quotedSpaces
  simp only [Place.rest_later, Place.forward_later, Place.lineBreak?_later]
  cases (place.forward _).lineBreak? with
  | none =>
      dsimp only [Option.map_none]
      split
      · rfl
      · rfl
  | some found =>
      dsimp only [Option.map_some, Place.andLater]
      rw [Place.rest_later, quotedBreaks?_later]
      cases quotedBreaks? (found.2.rest.length + 1) found.2 with
      | none => rfl
      | some breaks => rfl

@[simp] theorem quotedScalar_later (double : Bool) (fuel : Nat) :
    quotedScalar double fuel (place.later chars lines) =
      (quotedScalar double fuel place).map (Place.andLater chars lines) := by
  induction fuel generalizing place with
  | zero => rfl
  | succ fuel induction =>
      let goOn (found : Except QuotedError (List Char × Place)) :
          Except QuotedError (List Char × Place) :=
        found >>= fun lead => quotedScalar double fuel lead.2 >>= fun others =>
          pure (lead.1 ++ others.1, others.2)
      have goOn_later (found : Except QuotedError (List Char × Place)) :
          goOn (found.map (Place.andLater chars lines)) =
            (goOn found).map (Place.andLater chars lines) := by
        cases found with
        | error error => rfl
        | ok found =>
            change (quotedScalar double fuel (found.2.later chars lines) >>= _) =
              Except.map _ (quotedScalar double fuel found.2 >>= _)
            rw [induction]
            cases quotedScalar double fuel found.2 with
            | error error => rfl
            | ok others => rfl
      rw [quotedScalar, quotedScalar]
      simp only [Place.rest_later, Place.step_later, Place.forward_later,
        quotedEscape_later, quotedSpaces_later]
      cases place.rest with
      | nil => rfl
      | cons char rest =>
          dsimp only
          generalize (char == if double = true then '"' else '\'') = closes
          split
          · exact goOn_later (.ok (['\''], place.forward 2))
          · split
            · rfl
            · split
              · exact goOn_later (quotedEscape place.step)
              · split
                · exact goOn_later (quotedSpaces place)
                · exact goOn_later (.ok ([char], place.step))

/-! ## Block scalars -/

theorem blockHead?_later :
    blockHead? (place.later chars lines) =
      (blockHead? place).map (Place.andLater chars lines) := by
  unfold blockHead?
  simp only [Place.rest_later, Place.forward_later]
  rw [apply_ite (Option.map (Place.andLater chars lines))]
  rfl

@[simp] theorem ignoredLine?_later :
    ignoredLine? (place.later chars lines) =
      (ignoredLine? place).map (·.later chars lines) := by
  unfold ignoredLine?
  simp only [Place.skipWhile_later, Place.skipComment_later,
    Place.lineBreak?_later, Place.rest_later]
  cases ((place.skipWhile _).skipComment).lineBreak? with
  | none =>
      dsimp only [Option.map_none]
      split
      · rfl
      · rfl
  | some found => rfl

@[simp] theorem blockIndentation_later (fuel widest : Nat) :
    blockIndentation fuel widest (place.later chars lines) =
      Prod.map id (Place.andLater chars lines)
        (blockIndentation fuel widest place) := by
  induction fuel generalizing widest place with
  | zero => rfl
  | succ fuel induction =>
      rw [blockIndentation, blockIndentation]
      simp only [Place.lineBreak?_later, Place.rest_later, Place.step_later]
      cases place.lineBreak? with
      | none =>
          dsimp only [Option.map_none]
          split
          · rw [induction]
            rfl
          · rfl
      | some found =>
          dsimp only [Option.map_some, Place.andLater]
          rw [induction]
          rfl

@[simp] theorem blockBreaks_later (indent fuel : Nat) :
    blockBreaks indent fuel (place.later chars lines) =
      Place.andLater chars lines (blockBreaks indent fuel place) := by
  induction fuel generalizing place with
  | zero => rfl
  | succ fuel induction =>
      rw [blockBreaks, blockBreaks]
      simp only [missingSpaces, Place.column_later, Place.rest_later,
        Place.forward_later, Place.lineBreak?_later]
      cases (place.forward _).lineBreak? with
      | none => rfl
      | some found =>
          dsimp only [Option.map_some, Place.andLater]
          rw [induction]
          rfl

@[simp] theorem blockLines_later (folding : Bool) (chomping : Chomping)
    (indent fuel : Nat) (breaks : List Char) :
    blockLines folding chomping indent fuel breaks (place.later chars lines) =
      Place.andLater chars lines
        (blockLines folding chomping indent fuel breaks place) := by
  induction fuel generalizing breaks place with
  | zero => rfl
  | succ fuel induction =>
      rw [blockLines, blockLines]
      simp only [Place.column_later, Place.rest_later, Place.forward_later,
        Place.lineBreak?_later]
      split
      · cases (place.forward _).lineBreak? with
        | none =>
            simp only [Option.map_none, blockBreaks_later, Place.andLater,
              Place.column_later, Place.rest_later, induction]
            generalize blockBreaks indent _ _ = blank
            split
            · rfl
            · rfl
        | some found =>
            simp only [Option.map_some, blockBreaks_later, Place.andLater,
              Place.column_later, Place.rest_later, induction]
            generalize blockBreaks indent _ _ = blank
            split
            · rfl
            · rfl
      · rfl

theorem blockScalar?_later (folding : Bool) (indent : Int) :
    blockScalar? folding indent (place.later chars lines) =
      (blockScalar? folding indent place).map
        (Place.andLater chars lines) := by
  unfold blockScalar?
  rw [blockHead?_later]
  cases blockHead? place with
  | none => rfl
  | some found =>
      dsimp only [Option.map_some, Option.bind_some, Place.andLater]
      rw [ignoredLine?_later]
      cases ignoredLine? found.2 with
      | none => rfl
      | some start =>
          simp only [Option.map_some, Place.rest_later]
          cases found.1.increment with
          | none =>
              simp only [blockIndentation_later, Prod.map, id_eq, Place.andLater,
                blockLines_later]
          | some increment =>
              simp only [blockBreaks_later, Place.andLater, blockLines_later]

/-! ## What is left -/

section Left

variable {next : Place} {content : List Char}

theorem left_plainBreaks?_le {fuel : Nat}
    (found : plainBreaks? fuel place = some (content, next)) :
    next.left ≤ place.left := by
  induction fuel generalizing place content with
  | zero =>
      cases found
      exact Nat.le_refl _
  | succ fuel induction =>
      rw [plainBreaks?] at found
      split at found
      · have behind := induction found
        rw [Place.left_step] at behind
        omega
      · split at found
        · cases found
          exact Nat.le_refl _
        · rename_i char start ends
          have before := Place.left_lineBreak?_lt ends
          split at found
          · cases found
          · obtain ⟨⟨breaks, last⟩, later, same⟩ := Option.map_eq_some_iff.mp found
            cases same
            have behind := induction later
            omega

theorem left_plainGap_le (place : Place) :
    (plainGap place).place.left ≤ place.left := by
  have behind := place.left_forward (place.rest.takeWhile (· == ' ')).length
  unfold plainGap
  dsimp only
  split
  · dsimp only
    omega
  · rename_i first start ends
    have before := Place.left_lineBreak?_lt ends
    split
    · dsimp only
      omega
    · split
      · dsimp only
        omega
      · rename_i breaks last found
        have after := left_plainBreaks?_le found
        dsimp only
        omega

theorem left_plainScalar_le (inFlow : Bool) (indent : Int) (fuel : Nat)
    (gap : PlainGap) :
    (plainScalar inFlow indent fuel gap).place.left ≤ gap.place.left := by
  induction fuel generalizing gap with
  | zero => exact Nat.le_refl _
  | succ fuel induction =>
      rw [plainScalar]
      dsimp only
      generalize plainWordLength inFlow gap.place gap.place.rest.length 0 = length
      split
      · exact Nat.le_refl _
      · have word := gap.place.left_forward length
        have behind := left_plainGap_le (gap.place.forward length)
        split
        · dsimp only
          omega
        · dsimp only
          have after := induction (plainGap (gap.place.forward length))
          omega

theorem left_quotedBreaks?_le {fuel : Nat}
    (found : quotedBreaks? fuel place = some (content, next)) :
    next.left ≤ place.left := by
  induction fuel generalizing place content with
  | zero => cases found
  | succ fuel induction =>
      rw [quotedBreaks?] at found
      have blank := place.left_skipWhile_le fun char => char == ' ' || char == '\t'
      split at found
      · cases found
      · dsimp only at found
        split at found
        · cases found
          exact blank
        · rename_i char start ends
          have before := Place.left_lineBreak?_lt ends
          obtain ⟨⟨breaks, last⟩, later, same⟩ := Option.map_eq_some_iff.mp found
          cases same
          have behind := induction later
          omega

theorem left_numberedEscape_le {width : Nat}
    (found : numberedEscape width place = .ok (content, next)) :
    next.left ≤ place.left := by
  unfold numberedEscape at found
  split at found
  · cases found
  · split at found
    · cases found
    · cases found
      rw [Place.left_forward]
      omega

theorem left_quotedEscape_le (found : quotedEscape place = .ok (content, next)) :
    next.left ≤ place.left := by
  have step := place.left_step
  unfold quotedEscape at found
  split at found
  · cases found
  · split at found
    · cases found
      omega
    · have behind := left_numberedEscape_le found
      omega
    · split at found
      · cases found
      · rename_i _ start ends
        have before := Place.left_lineBreak?_lt ends
        split at found
        · rename_i breaks read
          cases found
          have behind := left_quotedBreaks?_le read
          omega
        · cases found

theorem left_quotedSpaces_le (found : quotedSpaces place = .ok (content, next)) :
    next.left ≤ place.left := by
  unfold quotedSpaces at found
  dsimp only at found
  generalize (place.rest.takeWhile fun char =>
    char == ' ' || char == '\t').length = length at found
  have spaces := place.left_forward length
  split at found
  · split at found
    · cases found
    · cases found
      omega
  · rename_i first start ends
    have before := Place.left_lineBreak?_lt ends
    split at found
    · rename_i breaks last read
      cases found
      have behind := left_quotedBreaks?_le read
      omega
    · cases found

theorem left_quotedScalar_le {double : Bool} {fuel : Nat}
    (found : quotedScalar double fuel place = .ok (content, next)) :
    next.left ≤ place.left := by
  induction fuel generalizing place content with
  | zero => cases found
  | succ fuel induction =>
      have goOn {first : Except QuotedError (List Char × Place)}
          (bound : ∀ lead start, first = .ok (lead, start) →
            start.left ≤ place.left)
          (run : (first >>= fun lead =>
            quotedScalar double fuel lead.2 >>= fun others =>
              pure (lead.1 ++ others.1, others.2)) = .ok (content, next)) :
          next.left ≤ place.left := by
        obtain ⟨⟨lead, start⟩, read, run⟩ := exists_of_bind_eq_ok run
        obtain ⟨⟨others, last⟩, later, same⟩ := exists_of_bind_eq_ok run
        cases same
        exact (induction later).trans (bound lead start read)
      have step := place.left_step
      rw [quotedScalar] at found
      cases rest : place.rest with
      | nil =>
          rw [rest] at found
          cases found
      | cons char rest =>
          rw [‹place.rest = _›] at found
          dsimp only at found
          generalize (char == if double = true then '"' else '\'') = closes
            at found
          split at found
          · apply goOn _ found
            rintro lead start ⟨⟩
            rw [Place.left_forward]
            omega
          · split at found
            · cases found
              omega
            · split at found
              · apply goOn _ found
                intro lead start read
                exact (left_quotedEscape_le read).trans (by omega)
              · split at found
                · exact goOn (fun _ _ => left_quotedSpaces_le) found
                · apply goOn _ found
                  rintro lead start ⟨⟩
                  omega

theorem left_blockHead?_le {head : BlockHead}
    (found : blockHead? place = some (head, next)) : next.left ≤ place.left := by
  unfold blockHead? at found
  obtain ⟨-, same⟩ := Option.ite_none_right_eq_some.mp found
  obtain ⟨-, rfl⟩ := Prod.mk.inj (Option.some.inj same)
  rw [Place.left_forward]
  omega

theorem left_ignoredLine?_le (found : ignoredLine? place = some next) :
    next.left ≤ place.left := by
  have blank := place.left_skipWhile_le (· == ' ')
  have comment := (place.skipWhile (· == ' ')).left_skipComment_le
  unfold ignoredLine? at found
  dsimp only at found
  split at found
  · rename_i char start ends
    have before := Place.left_lineBreak?_lt ends
    cases found
    omega
  · split at found
    · cases found
      omega
    · cases found

theorem left_blockIndentation_le (fuel widest : Nat) (place : Place) :
    (blockIndentation fuel widest place).2.2.left ≤ place.left := by
  induction fuel generalizing widest place with
  | zero => exact Nat.le_refl _
  | succ fuel induction =>
      rw [blockIndentation]
      split
      · rename_i char start ends
        have before := Place.left_lineBreak?_lt ends
        have behind := induction widest start
        dsimp only
        omega
      · split
        · have step := place.left_step
          have behind := induction (max widest place.step.column) place.step
          dsimp only
          omega
        · exact Nat.le_refl _

theorem left_blockBreaks_le (indent fuel : Nat) (place : Place) :
    (blockBreaks indent fuel place).2.left ≤ place.left := by
  induction fuel generalizing place with
  | zero => exact Nat.le_refl _
  | succ fuel induction =>
      have spaces := place.left_forward (missingSpaces indent place)
      rw [blockBreaks]
      dsimp only
      split
      · rename_i char start ends
        have before := Place.left_lineBreak?_lt ends
        have behind := induction start
        dsimp only
        omega
      · dsimp only
        omega

theorem left_blockLines_le (folding : Bool) (chomping : Chomping)
    (indent fuel : Nat) (breaks : List Char) (place : Place) :
    (blockLines folding chomping indent fuel breaks place).2.left ≤
      place.left := by
  induction fuel generalizing breaks place with
  | zero => exact Nat.le_refl _
  | succ fuel induction =>
      rw [blockLines]
      dsimp only
      split
      · generalize (place.rest.takeWhile fun char => !isBreak char).length = length
        have line := place.left_forward length
        cases ends : (place.forward length).lineBreak? with
        | none =>
            dsimp only
            have blank := left_blockBreaks_le indent
              ((place.forward length).rest.length + 1) (place.forward length)
            generalize blockBreaks indent _ (place.forward length) = found at *
            split
            · have behind := induction found.1 found.2
              dsimp only
              omega
            · dsimp only
              omega
        | some found =>
            obtain ⟨char, start⟩ := found
            have before := Place.left_lineBreak?_lt ends
            dsimp only
            have blank := left_blockBreaks_le indent (start.rest.length + 1) start
            generalize blockBreaks indent _ start = found at *
            split
            · have behind := induction found.1 found.2
              dsimp only
              omega
            · dsimp only
              omega
      · exact Nat.le_refl _

theorem left_blockScalar?_le {folding : Bool} {indent : Int}
    (found : blockScalar? folding indent place = some (content, next)) :
    next.left ≤ place.left := by
  obtain ⟨⟨head, behind⟩, read, found⟩ := Option.bind_eq_some_iff.mp found
  obtain ⟨start, ignored, found⟩ := Option.map_eq_some_iff.mp found
  have first := left_blockHead?_le read
  have second := left_ignoredLine?_le ignored
  dsimp only at found
  generalize (max (indent + 1) 1).toNat = least at found
  generalize start.rest.length + 1 = fuel at found
  split at found
  · have third := left_blockIndentation_le fuel 0 start
    generalize blockIndentation fuel 0 start = blank at found third
    have fourth := left_blockLines_le folding head.chomping
      (max least blank.2.1) fuel blank.1 blank.2.2
    rw [found] at fourth
    dsimp only at fourth
    omega
  · rename_i increment _
    have third := left_blockBreaks_le (least + increment - 1) fuel start
    generalize blockBreaks (least + increment - 1) fuel start = blank
      at found third
    have fourth := left_blockLines_le folding head.chomping
      (least + increment - 1) fuel blank.1 blank.2
    rw [found] at fourth
    dsimp only at fourth
    omega

end Left

end Shortcode.Yaml
