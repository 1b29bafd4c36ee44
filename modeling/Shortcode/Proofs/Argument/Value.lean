import Mathlib.Data.List.Infix
import Shortcode.Proofs.Argument.Reading

/-!
# Values as they are written

`StartsWithValue` says which value stands at the start of a text and what
follows it.  A text in quotes ends with the first quote that no backslash takes
along, a word where it does not go on, and a numeral is the longest one there.
-/

namespace Shortcode

/-- What is written between the quotes of a text, and what it stands for. -/
inductive Spells : (written content : List Char) → Prop where
  | nil : Spells [] []
  | plain {char : Char} {written content : List Char} :
      char ≠ '"' → char ≠ '\\' → Spells written content →
      Spells (char :: written) (char :: content)
  | escaped {char : Char} {written content : List Char} :
      char = '"' ∨ char = '\\' → Spells written content →
      Spells ('\\' :: char :: written) (char :: content)
  | kept {char : Char} {written content : List Char} :
      char ≠ '"' → char ≠ '\\' → Spells written content →
      Spells ('\\' :: char :: written) ('\\' :: char :: content)

/-- The word for a flag. -/
def flagWord (flag : Bool) : List Char :=
  if flag then "true".toList else "false".toList

namespace Numeral

/-- No longer numeral stands at the start of the text. -/
structure LongestIn (numeral : Numeral) (text : List Char) : Prop where
  wellFormed : numeral.WellFormed
  lead : numeral.print <+: text
  longest : ∀ other : Numeral, other.WellFormed → other.print <+: text →
    other.print.length ≤ numeral.print.length

/-- The number that the numeral stands for, in floating point behind a point. -/
def scalar (numeral : Numeral) : Scalar :=
  match numeral.fraction? with
  | none => .int numeral.value
  | some fraction =>
    let size := Decimal.ofScientific
      (Arguments.digitsValue (numeral.whole ++ fraction)) (-fraction.length)
    .float (if numeral.negative then -size else size)

end Numeral

namespace Arguments

/-- The text starts with the value and goes on with the rest. -/
inductive StartsWithValue : (text : List Char) → Scalar → (rest : List Char) →
    Prop where
  | text {written content rest : List Char} : Spells written content →
      StartsWithValue ('"' :: (written ++ '"' :: rest))
        (.text (String.ofList content)) rest
  | flag {flag : Bool} {rest : List Char} :
      (∀ char ∈ rest.head?, isWordChar char = false) →
      StartsWithValue (flagWord flag ++ rest) (.bool flag) rest
  | number {numeral : Numeral} {rest : List Char} :
      numeral.LongestIn (numeral.print ++ rest) → numeral.Convertible →
      StartsWithValue (numeral.print ++ rest) numeral.scalar rest

/-! ## Texts in quotes -/

theorem readText?_of_spells {written content : List Char}
    (spells : Spells written content) (rest : List Char) :
    readText? (written ++ '"' :: rest) = some (content, rest) := by
  induction spells with
  | nil => rfl
  | plain noQuote noBackslash _ induction =>
      simp [readText?, noBackslash, induction]
  | escaped special _ induction =>
      simp [readText?, special, induction]
  | kept noQuote noBackslash _ induction =>
      simp [readText?, noQuote, noBackslash, induction]

theorem exists_spells_of_readText? {text content rest : List Char}
    (read : readText? text = some (content, rest)) :
    ∃ written, Spells written content ∧ text = written ++ '"' :: rest := by
  fun_induction readText? text generalizing content with
  | case1 => cases read
  | case2 tail =>
      cases read
      exact ⟨[], .nil, rfl⟩
  | case3 char tail decoded =>
      rename_i induction
      obtain ⟨⟨inner, after⟩, found, same⟩ := Option.map_eq_some_iff.mp read
      cases same
      obtain ⟨written, spells, rfl⟩ := induction found
      refine ⟨'\\' :: char :: written, ?_, rfl⟩
      by_cases special : char = '"' ∨ char = '\\'
      · simpa [decoded, special] using Spells.escaped special spells
      · obtain ⟨noQuote, noBackslash⟩ := not_or.mp special
        simpa [decoded, special] using Spells.kept noQuote noBackslash spells
  | case4 char tail noQuote noPair induction =>
      obtain ⟨⟨inner, after⟩, found, same⟩ := Option.map_eq_some_iff.mp read
      cases same
      obtain ⟨written, spells, rfl⟩ := induction found
      refine ⟨char :: written, .plain noQuote ?_ spells, rfl⟩
      -- A backslash stands alone at the end of a text only, and no quote follows.
      intro backslash
      cases written with
      | nil => exact noPair _ _ backslash rfl
      | cons next others => exact noPair _ _ backslash rfl

theorem readText?_eq_some_iff {text content rest : List Char} :
    readText? text = some (content, rest) ↔
      ∃ written, Spells written content ∧ text = written ++ '"' :: rest := by
  constructor
  · exact exists_spells_of_readText?
  · rintro ⟨written, spells, rfl⟩
    exact readText?_of_spells spells rest

/-! ## Words -/

theorem dropWord?_eq_some_iff {word : String} {text rest : List Char} :
    dropWord? word text = some rest ↔ text = word.toList ++ rest ∧
      ∀ char ∈ rest.head?, isWordChar char = false := by
  unfold dropWord?
  cases found : Text.dropLead? word.toList text with
  | none =>
      have missing : ∀ tail, text ≠ word.toList ++ tail := by
        rintro tail rfl
        rw [Text.dropLead?_append] at found
        cases found
      simp [missing]
  | some tail =>
      obtain rfl := Text.dropLead?_eq_some_iff.mp found
      rw [List.append_right_inj]
      cases tail with
      | nil =>
          constructor
          · rintro ⟨⟩
            exact ⟨rfl, by simp⟩
          · rintro ⟨rfl, _⟩
            rfl
      | cons char tail =>
          constructor
          · intro stopped
            by_cases goesOn : isWordChar char = true
            · simp [goesOn] at stopped
            · obtain rfl : char :: tail = rest := by simpa [goesOn] using stopped
              exact ⟨rfl, by simpa using goesOn⟩
          · rintro ⟨rfl, stops⟩
            simp [stops char rfl]

/-! ## Numerals -/

theorem numeralValue?_of_convertible {numeral : Numeral}
    (wellFormed : numeral.WellFormed) (short : numeral.Short)
    (convertible : numeral.Convertible) :
    numeralValue? numeral.negative numeral.unsigned =
      .ok (some numeral.scalar) := by
  unfold Numeral.Convertible at convertible
  cases point : numeral.fraction? with
  | none =>
      have noPoint := Numeral.point_notMem_whole wellFormed
      simp only [point] at convertible
      obtain ⟨nonempty, inRange⟩ := convertible
      have value : wholeValue? numeral.negative numeral.whole =
          some numeral.value := wholeValue?_eq_some_iff.mpr ⟨rfl, inRange⟩
      simp [numeralValue?, Numeral.unsigned, Numeral.scalar, point, nonempty,
        noPoint, Nat.not_lt.mpr (short point), value]
  | some fraction =>
      have noPoint := Numeral.point_notMem_whole wellFormed
      have different : ∀ char ∈ numeral.whole, (char != '.') = true := by
        intro char member
        rw [bne_iff_ne]
        rintro rfl
        exact noPoint member
      have digits : ¬ (numeral.whole.isEmpty && fraction.isEmpty) = true := by
        simpa [point, ← not_and_or] using convertible
      simp [numeralValue?, Numeral.unsigned, Numeral.scalar, point, pointValue?,
        List.takeWhile_append_of_pos different,
        List.dropWhile_append_of_pos different, digits]

end Arguments

namespace Numeral

theorem count_point_print_le {numeral : Numeral}
    (wellFormed : numeral.WellFormed) : numeral.print.count '.' ≤ 1 := by
  have noPoint : ∀ digits : List Char, (∀ char ∈ digits, char.isDigit = true) →
      digits.count '.' = 0 := by
    intro digits all
    rw [List.count_eq_zero]
    intro member
    have digit := all '.' member
    revert digit
    decide
  have unsigned : numeral.unsigned.count '.' ≤ 1 := by
    unfold Numeral.unsigned
    cases point : numeral.fraction? with
    | none => simp [noPoint _ wellFormed.whole]
    | some fraction =>
        simp [noPoint _ wellFormed.whole,
          noPoint _ (wellFormed.fraction fraction point)]
  unfold print
  split
  · simpa using unsigned
  · exact unsigned

theorem mem_print_of_mem_unsigned {numeral : Numeral} {char : Char}
    (member : char ∈ numeral.unsigned) : char ∈ numeral.print := by
  unfold print
  split
  · exact List.mem_cons_of_mem _ member
  · exact member

/-- A hyphen stands at the start of a numeral only. -/
theorem mem_unsigned_of_mem_tail {numeral : Numeral} {char : Char}
    (member : char ∈ numeral.print.tail) : char ∈ numeral.unsigned := by
  unfold print at member
  split at member
  · exact member
  · exact List.mem_of_mem_tail member

/-- A numeral goes on with a digit, or with a point if it has none. -/
theorem exists_print_eq_append {numeral : Numeral}
    (wellFormed : numeral.WellFormed) {char : Char}
    (goesOn : char.isDigit = true ∨ numeral.fraction? = none ∧ char = '.') :
    ∃ other : Numeral, other.WellFormed ∧
      other.print = numeral.print ++ [char] := by
  have joined : ∀ {digits : List Char},
      (∀ digit ∈ digits, digit.isDigit = true) → char.isDigit = true →
      ∀ digit ∈ digits ++ [char], digit.isDigit = true := by
    intro digits all last digit member
    rcases List.mem_append.mp member with inside | here
    · exact all digit inside
    · exact List.mem_singleton.mp here ▸ last
  have found : ∃ other : Numeral, other.print = numeral.print ++ [char] ∧
      (∀ digit ∈ other.whole, digit.isDigit = true) ∧
      ∀ fraction ∈ other.fraction?, ∀ digit ∈ fraction,
        digit.isDigit = true := by
    cases point : numeral.fraction? with
    | none =>
        rcases goesOn with digit | ⟨_, rfl⟩
        · refine ⟨{ numeral with whole := numeral.whole ++ [char] }, ?_,
            joined wellFormed.whole digit, by simp [point]⟩
          cases sign : numeral.negative <;> simp [print, unsigned, point, sign]
        · refine ⟨{ numeral with fraction? := some [] }, ?_,
            wellFormed.whole, by simp⟩
          cases sign : numeral.negative <;> simp [print, unsigned, point, sign]
    | some fraction =>
        rcases goesOn with digit | ⟨missing, _⟩
        · refine ⟨{ numeral with fraction? := some (fraction ++ [char]) }, ?_,
            wellFormed.whole, ?_⟩
          · cases sign : numeral.negative <;> simp [print, unsigned, point, sign]
          · rintro _ ⟨⟩
            exact joined (wellFormed.fraction fraction point) digit
        · rw [point] at missing
          cases missing
  obtain ⟨other, printed, whole, fraction⟩ := found
  exact ⟨other, ⟨by simp [printed], whole, fraction⟩, printed⟩

theorem longestIn_append_iff {numeral : Numeral}
    (wellFormed : numeral.WellFormed) {rest : List Char} :
    numeral.LongestIn (numeral.print ++ rest) ↔ numeral.EndsBefore rest := by
  constructor
  · intro longest char first
    obtain ⟨others, rfl⟩ := List.head?_eq_some_iff.mp first
    have stops : ¬ (char.isDigit = true ∨
        numeral.fraction? = none ∧ char = '.') := by
      intro goesOn
      obtain ⟨other, otherFormed, printed⟩ :=
        exists_print_eq_append wellFormed goesOn
      have lead : other.print <+: numeral.print ++ char :: others := by
        rw [printed]
        exact ⟨others, by simp⟩
      have shorter := longest.longest other otherFormed lead
      rw [printed, List.length_append, List.length_singleton] at shorter
      omega
    obtain ⟨noDigit, noPoint⟩ := not_or.mp stops
    exact ⟨by simpa using noDigit, not_and.mp noPoint⟩
  · intro ends
    refine ⟨wellFormed, List.prefix_append _ _, ?_⟩
    intro other otherFormed lead
    by_contra longer
    have within : numeral.print <+: other.print :=
      List.prefix_of_prefix_length_le (List.prefix_append _ rest) lead
        (Nat.le_of_lt (Nat.lt_of_not_le longer))
    obtain ⟨more, printed⟩ := within
    rw [← printed, List.prefix_append_right_inj] at lead
    cases more with
    | nil => simp [← printed] at longer
    | cons char others =>
        obtain ⟨last, rfl⟩ := lead
        obtain ⟨noDigit, noPoint⟩ := ends char rfl
        have member : char ∈ other.unsigned := by
          obtain ⟨first, tail, begins⟩ :=
            List.exists_cons_of_ne_nil wellFormed.nonempty
          apply mem_unsigned_of_mem_tail
          simp [← printed, begins]
        rcases mem_unsigned otherFormed member with digit | rfl
        · simp [digit] at noDigit
        · have once := count_point_print_le otherFormed
          have before : '.' ∈ numeral.print := by
            cases point : numeral.fraction? with
            | none => exact absurd rfl (noPoint point)
            | some fraction =>
                apply mem_print_of_mem_unsigned
                simp [unsigned, point]
          rw [← printed, List.count_append, List.count_cons_self] at once
          have counted := List.count_pos_iff.mpr before
          omega

end Numeral

namespace Arguments

/-! ## Values -/

/-- No more digits follow one another than are ever converted. -/
def ShortDigitRuns (text : List Char) : Prop :=
  ∀ digits : List Char, digits <:+: text →
    (∀ char ∈ digits, char.isDigit = true) → digits.length ≤ digitLimit

theorem ShortDigitRuns.of_infix {text part : List Char}
    (short : ShortDigitRuns text) (inside : part <:+: text) :
    ShortDigitRuns part :=
  fun digits within => short digits (within.trans inside)

theorem shortDigitRuns_of_length {text : List Char}
    (few : text.length ≤ digitLimit) : ShortDigitRuns text :=
  fun _ inside _ => inside.length_le.trans few

theorem ShortDigitRuns.numeral {text : List Char} (short : ShortDigitRuns text)
    {numeral : Numeral} (wellFormed : numeral.WellFormed)
    (lead : numeral.print <+: text) : numeral.Short := by
  intro point
  refine short numeral.whole ?_ wellFormed.whole
  have within : numeral.whole <:+ numeral.print := by
    unfold Numeral.print
    split
    · simp [Numeral.unsigned, point, List.suffix_cons]
    · simp [Numeral.unsigned, point]
  exact within.isInfix.trans lead.isInfix

theorem readValue_text {written content : List Char}
    (spells : Spells written content) (rest : List Char) (key : String) :
    readValue key ('"' :: (written ++ '"' :: rest)) =
      .ok (.text (String.ofList content), rest) := by
  simp [readValue, readText?_of_spells spells]

theorem readValue_flag {rest : List Char}
    (stops : ∀ char ∈ rest.head?, isWordChar char = false) (flag : Bool)
    (key : String) :
    readValue key (flagWord flag ++ rest) = .ok (.bool flag, rest) := by
  have word : ∀ {word : String},
      dropWord? word (word.toList ++ rest) = some rest :=
    dropWord?_eq_some_iff.mpr ⟨rfl, stops⟩
  cases flag with
  | true =>
      have found : dropWord? "true" (flagWord true ++ rest) = some rest := word
      simp only [readValue, found]
      rfl
  | false =>
      have found : dropWord? "false" (flagWord false ++ rest) = some rest := word
      have missing : dropWord? "true" (flagWord false ++ rest) = none := rfl
      simp only [readValue, missing, found]
      rfl

theorem readValue_number {numeral : Numeral} {rest : List Char}
    (longest : numeral.LongestIn (numeral.print ++ rest))
    (short : numeral.Short) (convertible : numeral.Convertible) (key : String) :
    readValue key (numeral.print ++ rest) = .ok (numeral.scalar, rest) := by
  have wellFormed := longest.wellFormed
  have ends := (Numeral.longestIn_append_iff wellFormed).mp longest
  rw [readValue_print wellFormed ends,
    numeralValue?_of_convertible wellFormed short convertible]

theorem startsWithValue_of_readNumber? {text rest : List Char}
    {scalar : Scalar} (read : readNumber? text = .ok (some (scalar, rest))) :
    StartsWithValue text scalar rest := by
  obtain ⟨numeral, wellFormed, ends, rfl, converted⟩ :=
    exists_numeral_of_readNumber? read
  have short : numeral.Short := by
    by_contra long
    rw [numeralValue?_of_not_short wellFormed long] at converted
    cases converted
  have convertible : numeral.Convertible := by
    by_contra unfit
    rw [numeralValue?_of_not_convertible wellFormed short unfit] at converted
    cases converted
  rw [numeralValue?_of_convertible wellFormed short convertible] at converted
  cases converted
  exact .number ((Numeral.longestIn_append_iff wellFormed).mpr ends) convertible

theorem readValue_of_startsWithValue {text rest : List Char} {scalar : Scalar}
    (short : ShortDigitRuns text) (starts : StartsWithValue text scalar rest)
    (key : String) : readValue key text = .ok (scalar, rest) := by
  cases starts with
  | text spells => exact readValue_text spells rest key
  | flag stops => exact readValue_flag stops _ key
  | number longest convertible =>
      exact readValue_number longest
        (short.numeral longest.wellFormed longest.lead) convertible key

/-- Why no value stands at the start of the text. -/
inductive LacksValue : (text : List Char) → ArgumentProblem → Prop where
  | unclosedText {text : List Char} :
      (∀ written content rest, Spells written content →
        text ≠ written ++ '"' :: rest) →
      LacksValue ('"' :: text) .unclosedText
  | invalidValue {text : List Char} : text.head? ≠ some '"' →
      (∀ scalar rest, ¬ StartsWithValue text scalar rest) →
      LacksValue text .invalidValue

theorem startsWithValue_or_lacksValue (text : List Char) :
    (∃ scalar rest, StartsWithValue text scalar rest) ∨
      ∃ problem, LacksValue text problem := by
  by_cases starts : ∃ scalar rest, StartsWithValue text scalar rest
  · exact .inl starts
  · have noValue : ∀ scalar rest, ¬ StartsWithValue text scalar rest :=
      fun scalar rest value => starts ⟨scalar, rest, value⟩
    by_cases quoted : text.head? = some '"'
    · obtain ⟨tail, rfl⟩ := List.head?_eq_some_iff.mp quoted
      refine .inr ⟨_, .unclosedText ?_⟩
      rintro written content rest spells rfl
      exact noValue _ rest (.text spells)
    · exact .inr ⟨_, .invalidValue quoted noValue⟩

theorem readValue_of_lacksValue {text : List Char} {problem : ArgumentProblem}
    (short : ShortDigitRuns text) (lacks : LacksValue text problem)
    (key : String) : readValue key text = .error (.malformed key problem) := by
  cases lacks with
  | @unclosedText tail unclosed =>
      cases found : readText? tail with
      | none => simp [readValue, found]
      | some answer =>
          obtain ⟨written, spells, cut⟩ := readText?_eq_some_iff.mp found
          exact absurd cut (unclosed written _ _ spells)
  | invalidValue unquoted noValue =>
      have noWord : ∀ flag rest, ¬ (text = flagWord flag ++ rest ∧
          ∀ char ∈ rest.head?, isWordChar char = false) := by
        rintro flag rest ⟨rfl, stops⟩
        exact noValue _ rest (.flag stops)
      unfold readValue
      split
      · exact absurd rfl unquoted
      · split
        · rename_i found
          exact absurd (dropWord?_eq_some_iff.mp found) (noWord true _)
        · split
          · rename_i found
            exact absurd (dropWord?_eq_some_iff.mp found) (noWord false _)
          · split
            · rename_i found
              exact absurd (startsWithValue_of_readNumber? found) (noValue _ _)
            · rfl
            · rename_i failed
              obtain ⟨numeral, rest, wellFormed, _, rfl, long, _⟩ :=
                exists_numeral_of_readNumber?_error failed
              exact absurd (short.numeral wellFormed (List.prefix_append _ _))
                long

theorem StartsWithValue.suffix {text rest : List Char} {scalar : Scalar}
    (starts : StartsWithValue text scalar rest) : rest <:+ text := by
  cases starts with
  | @text written _ _ _ => exact ⟨'"' :: (written ++ ['"']), by simp⟩
  | flag _ => exact List.suffix_append _ _
  | number _ _ => exact List.suffix_append _ _

/-- A value starts with a visible character. -/
theorem StartsWithValue.exists_head? {text rest : List Char} {scalar : Scalar}
    (starts : StartsWithValue text scalar rest) :
    ∃ first, text.head? = some first ∧ Text.isBlank first = false := by
  cases starts with
  | text _ => exact ⟨'"', rfl, by decide⟩
  | @flag flag _ _ =>
      cases flag with
      | true => exact ⟨'t', rfl, by decide⟩
      | false => exact ⟨'f', rfl, by decide⟩
  | number longest _ =>
      obtain ⟨first, others, written, visible, _⟩ :=
        longest.wellFormed.exists_head?
      exact ⟨first, by simp [written], visible⟩

end Arguments

end Shortcode
