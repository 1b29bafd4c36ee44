import Shortcode.Call
import Shortcode.Proofs.Argument.Mapping
import Shortcode.Proofs.Argument.Value
import Shortcode.Proofs.Decimal.Nearest

/-!
# The grammar of a list of arguments

`IsList` derives a list of pairs from a text without running the reader, and
`BreaksOff` says where a text stops being such a list.  Where no row of digits
is too long, the reader answers with the one or reports the other.
-/

namespace Shortcode

/-- Behind a point a numeral stands for the floating-point number nearest to it,
sign aside. -/
theorem Numeral.exists_rounds {numeral : Numeral} {fraction : List Char}
    (point : numeral.fraction? = some fraction) :
    ∃ size : Float,
      numeral.scalar = .float (if numeral.negative then -size else size) ∧
      Decimal.Rounds (Arguments.digitsValue (numeral.whole ++ fraction) /
        10 ^ fraction.length) (Decimal.decode size) := by
  have rounds := Decimal.rounds_ofScientific
    (Arguments.digitsValue (numeral.whole ++ fraction)) (-fraction.length)
  rw [zpow_neg, zpow_natCast, ← div_eq_mul_inv] at rounds
  refine ⟨_, ?_, rounds⟩
  unfold Numeral.scalar
  rw [point]

namespace Arguments

/-- A pair stands at the start of the text. -/
inductive StartsWithPair : (text : List Char) → String × Scalar →
    (rest : List Char) → Prop where
  | intro {key before after valueText rest : List Char} {scalar : Scalar} :
      IsKey key → Text.AllBlank before → Text.AllBlank after →
      StartsWithValue valueText scalar rest →
      StartsWithPair (key ++ (before ++ '=' :: (after ++ valueText)))
        (String.ofList key, scalar) rest

/-- Pairs stand at the start of the text, with separators or none before each. -/
inductive StartsWithPairs : (text : List Char) → List (String × Scalar) →
    (rest : List Char) → Prop where
  | nil {text : List Char} : StartsWithPairs text [] text
  | cons {separators text rest last : List Char} {pair : String × Scalar}
      {pairs : List (String × Scalar)} :
      AllSeparators separators → StartsWithPair text pair rest →
      StartsWithPairs rest pairs last →
      StartsWithPairs (separators ++ text) (pair :: pairs) last

/-- The whole text is a list of these pairs. -/
def IsList (text : List Char) (pairs : List (String × Scalar)) : Prop :=
  ∃ rest, StartsWithPairs text pairs rest ∧ AllSeparators rest

/-- Why no pair with this key stands at the start of the text. -/
inductive Malformed : (text key : List Char) → ArgumentProblem → Prop where
  | missingName {rest : List Char} : Malformed ('=' :: rest) [] .missingName
  | missingEquals {key before rest : List Char} : IsKey key →
      Text.AllBlank before →
      (∀ char ∈ (before ++ rest).head?, isKeyChar char = false) →
      (∀ char ∈ rest.head?, char ≠ '=' ∧ Text.isBlank char = false) →
      Malformed (key ++ (before ++ rest)) key .missingEquals
  | missingValue {key before after : List Char} : IsKey key →
      Text.AllBlank before → Text.AllBlank after →
      Malformed (key ++ (before ++ '=' :: after)) key .missingValue
  | value {key before after valueText : List Char} {first : Char}
      {problem : ArgumentProblem} : IsKey key →
      Text.AllBlank before → Text.AllBlank after →
      valueText.head? = some first → Text.isBlank first = false →
      LacksValue valueText problem →
      Malformed (key ++ (before ++ '=' :: (after ++ valueText))) key problem

/-- The pairs of the text go as far as a malformed one. -/
def BreaksOff (text key : List Char) (problem : ArgumentProblem) : Prop :=
  ∃ pairs separators rest, StartsWithPairs text pairs (separators ++ rest) ∧
    AllSeparators separators ∧ Malformed rest key problem

/-! ## One pair -/

/-- What is left behind the separators starts with a pair or is malformed. -/
theorem startsWithPair_or_malformed {text : List Char} {first : Char}
    (begins : text.head? = some first) (noSeparator : isSeparator first = false) :
    (∃ pair rest, StartsWithPair text pair rest) ∨
      ∃ key problem, Malformed text key problem := by
  obtain ⟨key, behind, rfl, inside, stops⟩ := Text.exists_stretch isKeyChar text
  have chars : ∀ char ∈ key,
      char ≠ '=' ∧ char ≠ ',' ∧ Text.isBlank char = false :=
    fun char member => isKeyChar_iff.mp (inside char member)
  by_cases empty : key = []
  · subst empty
    obtain ⟨rest, rfl⟩ := List.head?_eq_some_iff.mp begins
    have equals : first = '=' := by
      have stopped := stops first rfl
      simp only [isSeparator, Bool.or_eq_false_iff] at noSeparator
      simpa [isKeyChar, noSeparator] using stopped
    subst equals
    exact .inr ⟨[], _, .missingName⟩
  · have isKey : IsKey key := ⟨empty, chars⟩
    obtain ⟨before, rest, rfl, blankBefore, visible⟩ :=
      Text.exists_stretch Text.isBlank behind
    by_cases equals : rest.head? = some '='
    · obtain ⟨tail, rfl⟩ := List.head?_eq_some_iff.mp equals
      obtain ⟨after, valueText, rfl, blankAfter, valueVisible⟩ :=
        Text.exists_stretch Text.isBlank tail
      cases value : valueText.head? with
      | none =>
          rw [List.head?_eq_none_iff.mp value, List.append_nil]
          exact .inr ⟨key, _, .missingValue isKey blankBefore blankAfter⟩
      | some initial =>
          rcases startsWithValue_or_lacksValue valueText with
            ⟨scalar, last, starts⟩ | ⟨problem, lacks⟩
          · exact .inl ⟨_, last, .intro isKey blankBefore blankAfter starts⟩
          · exact .inr ⟨key, problem, .value isKey blankBefore blankAfter value
              (valueVisible initial value) lacks⟩
    · refine .inr ⟨key, _, .missingEquals isKey blankBefore stops ?_⟩
      intro char here
      refine ⟨?_, visible char here⟩
      rintro rfl
      exact equals here

theorem startsWithPair_of_value {key valueText rest : List Char}
    {scalar : Scalar} (isKey : IsKey key)
    (value : StartsWithValue valueText scalar rest) :
    StartsWithPair (key ++ '=' :: valueText) (String.ofList key, scalar) rest :=
  .intro isKey Text.allBlank_nil Text.allBlank_nil value

theorem StartsWithPair.suffix {text rest : List Char} {pair : String × Scalar}
    (starts : StartsWithPair text pair rest) :
    rest <:+ text ∧ rest.length < text.length := by
  obtain @⟨key, before, after, valueText, _, _, _, _, _, value⟩ := starts
  refine ⟨value.suffix.trans (suffix_of_value key before after valueText), ?_⟩
  have shorter := value.suffix.length_le
  simp only [List.length_append, List.length_cons]
  omega

theorem readPair_of_startsWithPair {text rest : List Char}
    {pair : String × Scalar} (short : ShortDigitRuns text)
    (starts : StartsWithPair text pair rest) :
    readPair text = .ok (pair, rest) := by
  obtain @⟨key, before, after, valueText, _, _, isKey, blankBefore, blankAfter,
    value⟩ := starts
  obtain ⟨first, begins, visible⟩ := value.exists_head?
  have inside := (suffix_of_value key before after valueText).isInfix
  rw [readPair_of_isKey isKey blankBefore blankAfter begins visible,
    readValue_of_startsWithValue (short.of_infix inside) value]
  rfl

theorem readPair_of_malformed {text key : List Char} {problem : ArgumentProblem}
    (short : ShortDigitRuns text) (malformed : Malformed text key problem) :
    readPair text = .error (.malformed (String.ofList key) problem) := by
  cases malformed with
  | missingName => simp [readPair, isKeyChar]
  | @missingEquals key before rest isKey blank stops visible =>
      obtain ⟨taken, dropped⟩ := cut_of_isKey isKey stops
      have trimmed : Text.trimStart (before ++ rest) = rest :=
        Text.dropWhile_append_of_stops blank
          fun char first => (visible char first).2
      rw [readPair]
      simp only [taken, dropped, trimmed]
      cases rest with
      | nil => simp [isKey.1]
      | cons char rest => simp [isKey.1, (visible char rfl).1]
  | missingValue isKey blankBefore blankAfter =>
      rw [readPair_append_equals isKey blankBefore, Text.trimStart,
        List.dropWhile_eq_nil_iff.mpr blankAfter]
  | @value key before after valueText _ _ isKey blankBefore blankAfter begins
      visible lacks =>
      have inside := (suffix_of_value key before after valueText).isInfix
      rw [readPair_of_isKey isKey blankBefore blankAfter begins visible,
        readValue_of_lacksValue (short.of_infix inside) lacks]
      rfl

/-! ## The list -/

theorem StartsWithPairs.suffix {text rest : List Char}
    {pairs : List (String × Scalar)} (starts : StartsWithPairs text pairs rest) :
    rest <:+ text := by
  induction starts with
  | nil => exact List.suffix_rfl
  | cons _ starts _ induction =>
      exact (induction.trans starts.suffix.1).trans (List.suffix_append _ _)

theorem readFrom_of_startsWithPairs {text rest : List Char}
    {pairs : List (String × Scalar)} (short : ShortDigitRuns text)
    (starts : StartsWithPairs text pairs rest) (found : Arguments) :
    readFrom found text = readFrom (insertAll found pairs) rest := by
  induction starts generalizing found with
  | nil => rfl
  | @cons separators text _ _ pair _ separate starts _ induction =>
      have shortPair : ShortDigitRuns text :=
        short.of_infix (List.suffix_append separators text).isInfix
      have read := readPair_of_startsWithPair shortPair starts
      rw [readFrom_append separate read,
        induction (shortPair.of_infix starts.suffix.1.isInfix)]
      rfl

theorem read_of_isList {text : List Char} {pairs : List (String × Scalar)}
    (short : ShortDigitRuns text) (list : IsList text pairs) :
    read text = .ok (insertAll [] pairs) := by
  obtain ⟨rest, starts, separate⟩ := list
  rw [read, readFrom_of_startsWithPairs short starts]
  exact readFrom_of_separators (List.dropWhile_eq_nil_iff.mpr separate) _

theorem Malformed.exists_head? {text key : List Char}
    {problem : ArgumentProblem} (malformed : Malformed text key problem) :
    ∃ first, text.head? = some first ∧ isSeparator first = false := by
  have ofKey : ∀ {key : List Char} (rest : List Char), IsKey key →
      ∃ first, (key ++ rest).head? = some first ∧ isSeparator first = false := by
    intro key rest isKey
    obtain ⟨first, others, rfl⟩ := List.exists_cons_of_ne_nil isKey.1
    obtain ⟨_, noComma, visible⟩ := isKey.2 first List.mem_cons_self
    exact ⟨first, rfl, by simp [isSeparator, noComma, visible]⟩
  cases malformed with
  | missingName => exact ⟨'=', rfl, by decide⟩
  | missingEquals isKey => exact ofKey _ isKey
  | missingValue isKey => exact ofKey _ isKey
  | value isKey => exact ofKey _ isKey

theorem read_of_breaksOff {text key : List Char} {problem : ArgumentProblem}
    (short : ShortDigitRuns text) (breaks : BreaksOff text key problem) :
    read text = .error (.malformed (String.ofList key) problem) := by
  obtain ⟨pairs, separators, rest, starts, separate, malformed⟩ := breaks
  obtain ⟨first, begins, noSeparator⟩ := malformed.exists_head?
  obtain ⟨others, rfl⟩ := List.head?_eq_some_iff.mp begins
  have dropped : (separators ++ first :: others).dropWhile isSeparator =
      first :: others := by
    apply Text.dropWhile_append_of_stops separate
    rintro char ⟨⟩
    exact noSeparator
  have shortRest : ShortDigitRuns (first :: others) :=
    short.of_infix ((List.suffix_append _ _).trans starts.suffix).isInfix
  rw [read, readFrom_of_startsWithPairs short starts]
  refine readFrom_of_readPair_error ?_ ?_ _
  · simp [dropped]
  · rw [dropped]
    exact readPair_of_malformed shortRest malformed

theorem isList_or_breaksOff (text : List Char) :
    (∃ pairs, IsList text pairs) ∨
      ∃ key problem, BreaksOff text key problem := by
  obtain ⟨lead, behind, cut, separate, stops⟩ :=
    Text.exists_stretch isSeparator text
  cases begins : behind.head? with
  | none =>
      rw [List.head?_eq_none_iff.mp begins, List.append_nil] at cut
      exact .inl ⟨[], text, .nil, cut ▸ separate⟩
  | some first =>
      rcases startsWithPair_or_malformed begins (stops first begins) with
        ⟨pair, rest, starts⟩ | ⟨key, problem, malformed⟩
      · have shorter : rest.length < text.length := by
          rw [cut, List.length_append]
          have inside := starts.suffix.2
          omega
        rcases isList_or_breaksOff rest with
          ⟨pairs, last, more, ends⟩ |
            ⟨key, problem, pairs, separators, last, more, breaks⟩
        · exact .inl ⟨pair :: pairs, last, cut ▸ .cons separate starts more,
            ends⟩
        · exact .inr ⟨key, problem, pair :: pairs, separators, last,
            cut ▸ .cons separate starts more, breaks⟩
      · exact .inr ⟨key, problem, [], _, _, cut ▸ .nil, separate, malformed⟩
termination_by text.length

/-- The reader answers with the mapping of a list, and reports the pair at which
any other text breaks off. -/
theorem readArguments_follows_grammar {text : List Char}
    (short : ShortDigitRuns text) (name : String) (line : Int) :
    (∀ arguments, Head.readArguments name line text = .ok arguments ↔
      ∃ pairs, IsList text pairs ∧ Collects pairs arguments) ∧
    (∀ failure, Head.readArguments name line text = .error failure ↔
      ∃ key problem, BreaksOff text key problem ∧
        failure = .fault ⟨line, .argument name (String.ofList key) problem⟩) ∧
    ((∀ pairs, ¬ IsList text pairs) → ∃ key problem,
      Head.readArguments name line text =
        .error (.fault ⟨line, .argument name key problem⟩)) := by
  have listed : ∀ pairs, IsList text pairs →
      Head.readArguments name line text = .ok (insertAll [] pairs) := by
    intro pairs list
    simp [Head.readArguments, read_of_isList short list]
  have broken : ∀ key problem, BreaksOff text key problem →
      Head.readArguments name line text =
        .error (.fault ⟨line, .argument name (String.ofList key) problem⟩) := by
    intro key problem breaks
    simp [Head.readArguments, read_of_breaksOff short breaks, Head.failure]
  have covered := isList_or_breaksOff text
  refine ⟨?_, ?_, ?_⟩
  · intro arguments
    constructor
    · intro read
      rcases covered with ⟨pairs, list⟩ | ⟨key, problem, breaks⟩
      · rw [listed pairs list] at read
        exact ⟨pairs, list, collects_iff.mpr (Except.ok.inj read).symm⟩
      · rw [broken key problem breaks] at read
        cases read
    · rintro ⟨pairs, list, collects⟩
      rw [listed pairs list, collects_iff.mp collects]
  · intro failure
    constructor
    · intro failed
      rcases covered with ⟨pairs, list⟩ | ⟨key, problem, breaks⟩
      · rw [listed pairs list] at failed
        cases failed
      · rw [broken key problem breaks] at failed
        exact ⟨key, problem, breaks, (Except.error.inj failed).symm⟩
    · rintro ⟨key, problem, breaks, rfl⟩
      exact broken key problem breaks
  · intro none
    rcases covered with ⟨pairs, list⟩ | ⟨key, problem, breaks⟩
    · exact absurd list (none pairs)
    · exact ⟨_, problem, broken key problem breaks⟩

/-! ## A list of every kind of value -/

/-- A numeral goes no further than a character that is neither a digit nor a
point. -/
theorem startsWithValue_numeral {numeral : Numeral} {stop : Char}
    (wellFormed : numeral.WellFormed) (convertible : numeral.Convertible)
    (digit : stop.isDigit = false) (point : stop ≠ '.') (rest : List Char) :
    StartsWithValue (numeral.print ++ stop :: rest) numeral.scalar
      (stop :: rest) := by
  have ends : numeral.EndsBefore (stop :: rest) := by
    rintro char ⟨⟩
    exact ⟨digit, fun _ => point⟩
  exact .number ((Numeral.longestIn_append_iff wellFormed).mpr ends) convertible

theorem wellFormed_digit (negative : Bool) {digit : Char}
    (isDigit : digit.isDigit = true) :
    Numeral.WellFormed ⟨negative, [digit], none⟩ := by
  refine ⟨?_, by simpa using isDigit, by simp⟩
  cases negative <;> simp [Numeral.print, Numeral.unsigned]

/-- Pairs need no separator behind a quote or between a digit and a letter. -/
def mixedList : List Char := "k=\"\\\"\\n\"a=1b=true,a=-2c=2.5 ".toList

def mixedPairs : List (String × Scalar) :=
  [("k", .text "\"\\n"), ("a", .int 1), ("b", .bool true), ("a", .int (-2)),
    ("c", .float (Decimal.ofScientific 25 (-1)))]

theorem isList_mixedList : IsList mixedList mixedPairs := by
  have isKey : ∀ letter : Char, isKeyChar letter = true → IsKey [letter] :=
    fun letter char =>
      ⟨by simp, List.forall_mem_singleton.mpr (isKeyChar_iff.mp char)⟩
  have quoted : Spells ['\\', '"', '\\', 'n'] ['"', '\\', 'n'] :=
    .escaped (.inl rfl) (.kept (by decide) (by decide) .nil)
  have one : Numeral.Convertible ⟨false, ['1'], none⟩ := by
    unfold Numeral.Convertible
    decide
  have two : Numeral.Convertible ⟨true, ['2'], none⟩ := by
    unfold Numeral.Convertible
    decide
  have half : Numeral.WellFormed ⟨false, ['2'], some ['5']⟩ :=
    ⟨List.cons_ne_nil _ _, List.forall_mem_singleton.mpr (by decide), by simp⟩
  have flag : StartsWithValue ("true".toList ++ ",a=-2c=2.5 ".toList) (.bool true)
      ",a=-2c=2.5 ".toList := by
    refine @StartsWithValue.flag true _ ?_
    rintro char ⟨⟩
    decide
  have nothing : AllSeparators [] := by simp [AllSeparators]
  have comma : AllSeparators [','] := List.forall_mem_singleton.mpr (by decide)
  refine ⟨" ".toList, ?_, List.forall_mem_singleton.mpr (by decide)⟩
  refine .cons nothing (startsWithPair_of_value (isKey 'k' (by decide))
    (.text quoted)) ?_
  refine .cons nothing (startsWithPair_of_value (isKey 'a' (by decide))
    (startsWithValue_numeral (wellFormed_digit false (by decide)) one
      (by decide) (by decide) "=true,a=-2c=2.5 ".toList)) ?_
  refine .cons nothing (startsWithPair_of_value (isKey 'b' (by decide)) flag) ?_
  refine .cons comma (startsWithPair_of_value (isKey 'a' (by decide))
    (startsWithValue_numeral (wellFormed_digit true (by decide)) two
      (by decide) (by decide) "=2.5 ".toList)) ?_
  exact .cons nothing (startsWithPair_of_value (isKey 'c' (by decide))
    (startsWithValue_numeral half (.inl (by decide)) (by decide) (by decide)
      [])) .nil

theorem readArguments_mixedList :
    ShortDigitRuns mixedList ∧ Head.readArguments "x" 1 mixedList =
      .ok [("k", .text "\"\\n"), ("a", .int (-2)), ("b", .bool true),
        ("c", .float (Decimal.ofScientific 25 (-1)))] := by
  have short : ShortDigitRuns mixedList := shortDigitRuns_of_length (by decide)
  exact ⟨short, ((readArguments_follows_grammar short "x" 1).1 _).mpr
    ⟨mixedPairs, isList_mixedList,
      collects_iff.mpr (by with_unfolding_all rfl)⟩⟩

end Arguments

end Shortcode
