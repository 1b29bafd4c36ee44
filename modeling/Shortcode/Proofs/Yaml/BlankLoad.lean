import Shortcode.Proofs.Outcome
import Shortcode.Proofs.Yaml.BlankScalar

/-!
# Blanks in front of a mapping

What starts with a blank that is part of a word is no mapping, and is not
nothing.  So blank lines in front of a mapping, or of nothing, are made of
spaces, and can be left out.
-/

namespace Shortcode.Yaml

/-! ## The value of a word -/

theorem Node.ofTokens_scalar (content : String) (plain : Bool)
    (rest : List Token) :
    Node.ofTokens (.scalar content plain :: rest) =
      (Assemble.finish.run ⟨rest, [], defaultHandles, false⟩).map fun last =>
        (some (.scalar (Assemble.scalarKind none plain content) content),
          last.2.tied) := by
  have room : 4 * (Token.scalar content plain :: rest).length + 8 =
      4 * rest.length + 10 + 1 + 1 := by
    rw [List.length_cons]
    omega
  unfold Node.ofTokens
  rw [room]
  simp [Assemble.document, Assemble.current, Assemble.node,
    Assemble.takeAnchor?, Assemble.takeTag?, Assemble.content,
    Assemble.remember, Assemble.advance, Assemble.place]
  cases Assemble.finish.run ⟨rest, [], defaultHandles, false⟩ with
  | error failure => rfl
  | ok last => rfl

/-- Only a scalar that is tagged as nothing is nothing, and none is a
mapping. -/
theorem ne_of_scalarValue {tag : Tag} {content : String} {value : Value}
    (notNull : tag ≠ .null) (found : scalarValue tag content = .ok value) :
    value.opened ≠ .null ∧ ∀ entries, value.opened ≠ .map entries := by
  cases tag with
  | null => contradiction
  | text =>
      cases found
      simp [Value.opened]
  | bool =>
      obtain ⟨flag, -, rfl⟩ := exists_of_map_eq_ok (eq_ok_of_mapError found)
      simp [Value.opened]
  | int =>
      obtain ⟨number, -, rfl⟩ := exists_of_map_eq_ok (eq_ok_of_mapError found)
      simp [Value.opened]
  | float =>
      obtain ⟨number, -, rfl⟩ := exists_of_map_eq_ok (eq_ok_of_mapError found)
      simp [Value.opened]
  | timestamp =>
      replace found := eq_ok_of_mapError found
      unfold timestampValue at found
      split at found
      · obtain ⟨day, -, rfl⟩ := exists_of_map_eq_ok (eq_ok_of_mapError found)
        simp [Value.opened]
      · obtain ⟨time, -, rfl⟩ := exists_of_map_eq_ok (eq_ok_of_mapError found)
        simp [Value.opened]
      · cases found
  | binary =>
      replace found : binaryValue content.toList = .ok value := found
      unfold binaryValue at found
      split at found
      · cases found
        simp [Value.opened]
      · cases found
  | merge | default | sequence | mapping | pairs | set | unknown => cases found

theorem ofPlain_ne_null {char : Char} {content : List Char}
    (blank : Text.isBlank char = true) (word : isSpace char = false) :
    Tag.ofPlain (String.ofList (char :: content)) ≠ .null := by
  have notEnd : char ≠ '\n' := by
    rintro rfl
    cases word
  have first : (dropLineEnd (char :: content)).head? = some char := by
    unfold dropLineEnd
    split
    · rename_i ends
      cases content with
      | nil => simp [notEnd] at ends
      | cons next content => rfl
    · rfl
  have visible : nullWords.all (fun word =>
      word.toList.head?.all (!Text.isBlank ·)) = true := by rfl
  have noNull : nullWords.contains
      (String.ofList (dropLineEnd (char :: content))) = false := by
    rw [List.contains_eq_any_beq, List.any_eq_false]
    intro null member same
    have notBlank := List.all_eq_true.mp visible null member
    rw [← beq_iff_eq.mp same, String.toList_ofList, first, Option.all_some,
      blank] at notBlank
    cases notBlank
  have nonempty : (String.ofList (char :: content)).isEmpty = false := by
    simp
  unfold Tag.ofPlain
  simp only [String.toList_ofList, noNull, nonempty, Bool.and_false,
    Bool.or_self, Bool.false_eq_true, if_false]
  split_ifs
  all_goals simp

theorem ne_of_load_word {text content : List Char} {char : Char}
    {rest : List Token} {value : Value} (blank : Text.isBlank char = true)
    (word : isSpace char = false)
    (tokens : tokens? text =
      some (.scalar (String.ofList (char :: content)) true :: rest))
    (loads : load text = .ok value) :
    value ≠ .null ∧ ∀ entries, value ≠ .map entries := by
  unfold load at loads
  rw [tokens] at loads
  obtain ⟨⟨node, tied⟩, built, found⟩ := exists_of_bind_eq_ok loads
  rw [Node.ofTokens_scalar] at built
  obtain ⟨last, -, same⟩ := exists_of_map_eq_ok built
  cases same
  obtain ⟨shown, read, rfl⟩ := exists_of_map_eq_ok (eq_ok_of_mapError found)
  have notNull : Tag.ofPlain (String.ofList (char :: content)) ≠ .null :=
    ofPlain_ne_null blank word
  apply ne_of_scalarValue notNull
  rw [Node.value] at read
  simp only [Node.scalarValue, Node.scalar?, Assemble.scalarKind, if_true] at read
  split at read
  · cases read
  · exact eq_ok_of_mapError read

/-! ## Blanks in front of a mapping -/

/-- Spaces and line ends up to another character are spacing up to the spaces on
the line of that character. -/
theorem exists_isSpacing {lead rest : List Char} {char : Char}
    (chars : ∀ other ∈ lead, other = ' ' ∨ isBreak other = true)
    (inLine : isBreak char = false) :
    ∃ blank spaces, lead = blank ++ spaces ∧ (∀ other ∈ spaces, other = ' ') ∧
      Layout.IsSpacing blank (spaces ++ char :: rest) := by
  -- The spaces in front of the character are those at the end of the lead.
  obtain ⟨spaces, blank, reversed, isSpaces, stops⟩ :=
    Text.exists_stretch (· == ' ') lead.reverse
  have cut : lead = blank.reverse ++ spaces.reverse := by
    rw [← List.reverse_append, ← reversed, List.reverse_reverse]
  have onlySpaces : ∀ other ∈ spaces.reverse, other = ' ' := by
    intro other member
    exact beq_iff_eq.mp (isSpaces other (List.mem_reverse.mp member))
  refine ⟨blank.reverse, spaces.reverse, cut, onlySpaces, ?_, ?_⟩
  · exact fun other member => chars other (cut ▸ List.mem_append_left _ member)
  · intro last isLast
    have member : last ∈ lead :=
      cut ▸ List.mem_append_left _ (List.mem_of_getLast? isLast)
    have notSpace : last ≠ ' ' := by
      rw [List.getLast?_reverse] at isLast
      simpa using stops last isLast
    refine ⟨(chars last member).resolve_left notSpace, ?_⟩
    rintro ⟨-, newline⟩
    generalize spaces.reverse = indent at onlySpaces newline
    cases indent with
    | nil =>
        obtain rfl := Option.some.inj newline
        cases inLine
    | cons space indent =>
        obtain rfl := Option.some.inj newline
        cases onlySpaces '\n' List.mem_cons_self

theorem exists_tokens_of_load {text : List Char} {value : Value}
    (loads : load text = .ok value) :
    text.all isAllowed = true ∧ ∃ tokens, tokens? text = some tokens := by
  cases found : tokens? text with
  | none =>
      unfold load at loads
      rw [found] at loads
      cases loads
  | some tokens =>
      refine ⟨?_, tokens, rfl⟩
      unfold tokens? at found
      split at found
      · assumption
      · cases found

theorem head?_ne_of_allBlank {blank text : List Char}
    (allBlank : Text.AllBlank blank) (nonempty : blank ≠ []) :
    (blank ++ text).head? ≠ some '\ufeff' := by
  obtain ⟨char, blank, rfl⟩ := List.exists_cons_of_ne_nil nonempty
  have visible : char ≠ '\ufeff' :=
    ne_of_isBlank (allBlank char List.mem_cons_self) (by decide)
  simpa using visible

/-- If anything comes of a line that holds blanks alone, and another blank than
spaces, it is a text. -/
theorem ne_of_load_blank {lead run rest : List Char} {char lineEnd : Char}
    {value : Value} (chars : ∀ other ∈ lead, other = ' ' ∨ isBreak other = true)
    (allBlank : Text.AllBlank (lead ++ char :: run))
    (inLine : ∀ other ∈ char :: run, isBreak other = false)
    (notSpace : char ≠ ' ') (ends : isBreak lineEnd = true)
    (loads : load (lead ++ char :: run ++ lineEnd :: rest) = .ok value) :
    value ≠ .null ∧ ∀ entries, value ≠ .map entries := by
  have charBlank := allBlank char (by simp)
  have charInLine := inLine char List.mem_cons_self
  have blankRun : Text.AllBlank (char :: run) := fun other member =>
    allBlank other (List.mem_append_right lead member)
  let behind := char :: (run ++ lineEnd :: rest)
  obtain ⟨blank, spaces, rfl, onlySpaces, spacing⟩ :=
    exists_isSpacing chars charInLine
  obtain ⟨allowed, tokens, found⟩ := exists_tokens_of_load loads
  have shape : blank ++ spaces ++ char :: run ++ lineEnd :: rest =
      blank ++ (spaces ++ behind) := by simp [behind]
  have ran := found
  rw [tokens?_eq (head?_ne_of_allBlank allBlank (by simp)), if_pos allowed,
    shape, run_start_of_isSpacing spacing, Option.map_eq_some_iff] at ran
  obtain ⟨array, ran, rfl⟩ := ran
  let place := Place.ofText (spaces ++ behind)
  have stands : place.rest.dropWhile (· == ' ') = behind := by
    change (spaces ++ behind).dropWhile (· == ' ') = behind
    apply Text.dropWhile_append_of_stops
    · exact fun other member => beq_iff_eq.mpr (onlySpaces other member)
    · simp [behind, notSpace]
  cases word : isSpace char with
  | true =>
      -- the only other blank that separates words is no YAML here
      have tab : char = '\t' := by
        simpa [isSpace, notSpace, charInLine] using word
      subst tab
      rw [Layout.run_of_tab _ rfl stands] at ran
      cases ran
  | false =>
      rw [Layout.run_start_of_word _ stands charBlank word] at ran
      have isRest : IsBlankRest (char :: run) (place.skipWhile (· == ' ')) := by
        refine ⟨⟨lineEnd, rest, ends, ?_⟩, blankRun, inLine⟩
        rw [Place.rest_skipWhile, stands]
        rfl
      have kept := Layout.first_of_run_afterScalar isRest
        (List.cons_ne_nil _ _) (by simpa using notSpace) ran
      rw [← Place.rest_skipWhile] at stands
      obtain ⟨content, first⟩ := Layout.first_afterScalar charBlank word stands
      rw [first, ← Array.getElem?_toList, ← List.head?_eq_getElem?] at kept
      obtain ⟨others, tokens⟩ := List.head?_eq_some_iff.mp kept
      rw [tokens] at found
      exact ne_of_load_word charBlank word found loads

theorem exists_lineEnd {char : Char} (behind : List Char)
    (inLine : isBreak char = false)
    (ends : (char :: behind).getLast? = some '\n') :
    ∃ run lineEnd rest, behind = run ++ lineEnd :: rest ∧
      (∀ other ∈ char :: run, isBreak other = false) ∧
      isBreak lineEnd = true := by
  obtain ⟨run, after, rfl, inside, stops⟩ :=
    Text.exists_stretch (!isBreak ·) behind
  have allInLine : ∀ other ∈ char :: run, isBreak other = false := by
    rw [List.forall_mem_cons]
    refine ⟨inLine, fun other member => ?_⟩
    simpa using inside other member
  cases after with
  | nil =>
      rw [List.append_nil] at ends
      cases allInLine '\n' (List.mem_of_getLast? ends)
  | cons lineEnd rest =>
      have isEnd : isBreak lineEnd = true := by simpa using stops lineEnd rfl
      exact ⟨run, lineEnd, rest, rfl, allInLine, isEnd⟩

/-- Blank lines in front of a mapping, or of nothing, are made of spaces. -/
theorem chars_of_load {blank text : List Char} {value : Value}
    (allBlank : Text.AllBlank blank) (ends : blank.getLast? = some '\n')
    (loads : load (blank ++ text) = .ok value)
    (mapping : value = .null ∨ ∃ entries, value = .map entries) :
    ∀ char ∈ blank, char = ' ' ∨ isBreak char = true := by
  obtain ⟨before, behind, rfl, inside, stops⟩ :=
    Text.exists_stretch (fun char => char == ' ' || isBreak char) blank
  have lead : ∀ other ∈ before, other = ' ' ∨ isBreak other = true := by
    intro other member
    simpa using inside other member
  cases behind with
  | nil => rwa [List.append_nil]
  | cons char behind =>
      have notSpacing : char ≠ ' ' ∧ isBreak char = false := by
        simpa using stops char rfl
      exfalso
      obtain ⟨run, lineEnd, rest, rfl, inLine, isEnd⟩ :=
        exists_lineEnd behind notSpacing.2 (by simpa using ends)
      have shape : before ++ char :: (run ++ lineEnd :: rest) ++ text =
          before ++ char :: run ++ lineEnd :: (rest ++ text) := by simp
      have line : before ++ char :: run <+:
          before ++ char :: (run ++ lineEnd :: rest) :=
        ⟨lineEnd :: rest, by simp⟩
      rw [shape] at loads
      obtain ⟨notNull, noMap⟩ := ne_of_load_blank lead
        (fun other member => allBlank other (line.subset member)) inLine
        notSpacing.1 isEnd loads
      rcases mapping with rfl | ⟨entries, rfl⟩
      · exact notNull rfl
      · exact noMap entries rfl

theorem load_of_blank_append {blank text : List Char} {value : Value}
    (allBlank : Text.AllBlank blank) (ends : blank.getLast? = some '\n')
    (unmarked : text.head? ≠ some '\ufeff')
    (loads : load (blank ++ text) = .ok value)
    (mapping : value = .null ∨ ∃ entries, value = .map entries) :
    load text = .ok value := by
  have spacing : Layout.IsSpacing blank text := by
    refine ⟨chars_of_load allBlank ends loads mapping, ?_⟩
    rw [ends]
    rintro last ⟨⟩
    exact ⟨rfl, by simp⟩
  have unmarkedBlank : (blank ++ text).head? ≠ some '\ufeff' := by
    apply head?_ne_of_allBlank allBlank
    rintro rfl
    cases ends
  have allowed := (exists_tokens_of_load loads).1
  have allowedText : text.all isAllowed = true := by
    rw [List.all_append, Bool.and_eq_true] at allowed
    exact allowed.2
  have same : tokens? (blank ++ text) = tokens? text := by
    rw [tokens?_eq unmarkedBlank, tokens?_eq unmarked, if_pos allowed,
      if_pos allowedText, run_start_of_isSpacing spacing]
  unfold load at loads ⊢
  rwa [← same]

/-- Blank lines in front of a mapping, or of nothing, do not change what a loader
makes of a text, unless a byte order mark follows. -/
def Loader.IgnoresBlankLines (loader : Loader) : Prop :=
  ∀ (blank text : List Char) (value : Value), Text.AllBlank blank →
    blank.getLast? = some '\n' → text.head? ≠ some '\ufeff' →
    loader (blank ++ text) = .ok value →
    (value = .null ∨ ∃ entries, value = .map entries) →
      loader text = .ok value

theorem ignoresBlankLines_loader : loader.IgnoresBlankLines := by
  intro blank text value allBlank ends unmarked loads mapping
  have loaded := load_of_blank_append allBlank ends unmarked
    (eq_ok_of_mapError loads) mapping
  rw [loader, loaded]
  rfl

end Shortcode.Yaml
