import Mathlib.Algebra.Group.Int.Defs
import Shortcode.Argument
import Shortcode.Proofs.Outcome
import Shortcode.Proofs.Text.Search

/-!
# Numbers as they are written

A `Numeral` is a number in a list of arguments: a hyphen or none, digits, and a
point with more digits or none.  The reader takes as much of a text as makes a
numeral, whether it stands for a number or not.
-/

namespace Shortcode

/-- A number in a list of arguments. -/
structure Numeral where
  negative : Bool
  whole : List Char
  /-- The digits behind the point, if there is one. -/
  fraction? : Option (List Char)

namespace Numeral

/-- The numeral without its sign. -/
def unsigned (numeral : Numeral) : List Char :=
  match numeral.fraction? with
  | none => numeral.whole
  | some fraction => numeral.whole ++ '.' :: fraction

def print (numeral : Numeral) : List Char :=
  if numeral.negative then '-' :: numeral.unsigned else numeral.unsigned

structure WellFormed (numeral : Numeral) : Prop where
  nonempty : numeral.print ≠ []
  whole : ∀ char ∈ numeral.whole, char.isDigit = true
  fraction : ∀ fraction ∈ numeral.fraction?, ∀ char ∈ fraction,
    char.isDigit = true

/-- The text behind the numeral does not go on with it. -/
def EndsBefore (numeral : Numeral) (rest : List Char) : Prop :=
  ∀ char ∈ rest.head?, char.isDigit = false ∧
    (numeral.fraction? = none → char ≠ '.')

/-- What the digits in front of the point stand for. -/
def value (numeral : Numeral) : Int :=
  let size : Int := Arguments.digitsValue numeral.whole
  if numeral.negative then -size else size

/-- The numeral stands for a whole number of 64 bits, or has a point and at
least one digit. -/
def Convertible (numeral : Numeral) : Prop :=
  match numeral.fraction? with
  | none => numeral.whole ≠ [] ∧
      -2 ^ 63 ≤ numeral.value ∧ numeral.value ≤ 2 ^ 63 - 1
  | some fraction => numeral.whole ≠ [] ∨ fraction ≠ []

/-- The reader converts the digits, if there is no point among them. -/
def Short (numeral : Numeral) : Prop :=
  numeral.fraction? = none → numeral.whole.length ≤ digitLimit

theorem point_notMem_whole {numeral : Numeral} (wellFormed : numeral.WellFormed) :
    '.' ∉ numeral.whole := by
  intro member
  have digit := wellFormed.whole '.' member
  revert digit
  decide

theorem mem_unsigned {numeral : Numeral} (wellFormed : numeral.WellFormed)
    {char : Char} (member : char ∈ numeral.unsigned) :
    char.isDigit = true ∨ char = '.' := by
  unfold unsigned at member
  cases point : numeral.fraction? with
  | none =>
      rw [point] at member
      exact .inl (wellFormed.whole char member)
  | some fraction =>
      rw [point] at member
      rcases List.mem_append.mp member with before | behind
      · exact .inl (wellFormed.whole char before)
      · rcases List.mem_cons.mp behind with rfl | later
        · exact .inr rfl
        · exact .inl (wellFormed.fraction fraction point char later)

theorem isBlank_of_isDigit {char : Char} (digit : char.isDigit = true) :
    Text.isBlank char = false := by
  have range : 48 ≤ char.toNat ∧ char.toNat ≤ 57 := by
    simpa [Char.isDigit, UInt32.le_iff_toNat_le] using digit
  simp only [Text.isBlank, Text.inRanges, Text.blankRanges, List.any_cons,
    List.any_nil, Bool.or_false, Bool.or_eq_false_iff, Bool.and_eq_false_iff,
    decide_eq_false_iff_not]
  omega

/-- A numeral starts neither with a blank nor with a quote or a word. -/
theorem WellFormed.exists_head? {numeral : Numeral}
    (wellFormed : numeral.WellFormed) : ∃ first others,
    numeral.print = first :: others ∧ Text.isBlank first = false ∧
      first ≠ '"' ∧ first ≠ 't' ∧ first ≠ 'f' := by
  obtain ⟨first, others, written⟩ :=
    List.exists_cons_of_ne_nil wellFormed.nonempty
  refine ⟨first, others, written, ?_⟩
  have kind : first = '-' ∨ first.isDigit = true ∨ first = '.' := by
    unfold print at written
    split at written
    · exact .inl (List.cons.inj written).1.symm
    · exact .inr (mem_unsigned wellFormed (by simp [written]))
  rcases kind with rfl | digit | rfl
  · decide
  · refine ⟨isBlank_of_isDigit digit, ?_, ?_, ?_⟩
    all_goals
      rintro rfl
      revert digit
      decide
  · decide

end Numeral

namespace Arguments

/-! ## How far a numeral goes -/

theorem numeralLength_digits {digits : List Char}
    (all : ∀ char ∈ digits, char.isDigit = true) (pointSeen : Bool)
    (rest : List Char) :
    numeralLength pointSeen (digits ++ rest) =
      digits.length + numeralLength pointSeen rest := by
  induction digits with
  | nil => simp
  | cons char digits induction =>
      obtain ⟨digit, others⟩ := List.forall_mem_cons.mp all
      have noPoint : char ≠ '.' := by
        rintro rfl
        revert digit
        decide
      simp only [List.cons_append, numeralLength, beq_iff_eq, noPoint, digit,
        if_true, if_false, induction others, List.length_cons]
      omega

theorem numeralLength_of_stop {pointSeen : Bool} {rest : List Char}
    (stop : ∀ char ∈ rest.head?, char.isDigit = false ∧
      (char = '.' → pointSeen = true)) :
    numeralLength pointSeen rest = 0 := by
  cases rest with
  | nil => rfl
  | cons char rest =>
      obtain ⟨noDigit, point⟩ := stop char rfl
      by_cases dot : char = '.'
      · simp [numeralLength, dot, point dot]
      · simp [numeralLength, dot, noDigit]

theorem numeralLength_unsigned {numeral : Numeral}
    (wellFormed : numeral.WellFormed) {rest : List Char}
    (ends : numeral.EndsBefore rest) :
    numeralLength false (numeral.unsigned ++ rest) =
      numeral.unsigned.length := by
  unfold Numeral.unsigned
  cases point : numeral.fraction? with
  | none =>
      have stop : numeralLength false rest = 0 := by
        refine numeralLength_of_stop ?_
        intro char first
        obtain ⟨noDigit, noPoint⟩ := ends char first
        exact ⟨noDigit, fun dot => absurd dot (noPoint point)⟩
      simp only [numeralLength_digits wellFormed.whole, stop, Nat.add_zero]
  | some fraction =>
      have stop : numeralLength true rest = 0 := by
        refine numeralLength_of_stop ?_
        intro char first
        exact ⟨(ends char first).1, fun _ => rfl⟩
      have behind : numeralLength false ('.' :: (fraction ++ rest)) =
          fraction.length + 1 := by
        simp [numeralLength,
          numeralLength_digits (wellFormed.fraction fraction point), stop]
      simp only [List.append_assoc, List.cons_append,
        numeralLength_digits wellFormed.whole, behind, List.length_append,
        List.length_cons]

/-! ## What a numeral stands for -/

theorem splitSign_print {numeral : Numeral} (wellFormed : numeral.WellFormed)
    (rest : List Char) :
    splitSign (numeral.print ++ rest) =
      (numeral.negative, numeral.unsigned ++ rest) := by
  have nonempty := wellFormed.nonempty
  cases sign : numeral.negative with
  | true => simp [Numeral.print, sign, splitSign]
  | false =>
      simp only [Numeral.print, sign, Bool.false_eq_true, if_false]
        at nonempty ⊢
      obtain ⟨first, others, written⟩ := List.exists_cons_of_ne_nil nonempty
      have noHyphen : first ≠ '-' := by
        rintro rfl
        have member : '-' ∈ numeral.unsigned := by simp [written]
        rcases Numeral.mem_unsigned wellFormed member with digit | dot
        · revert digit
          decide
        · revert dot
          decide
      simp [written, splitSign, noHyphen]

/-- The reader takes the whole numeral. -/
theorem readNumber?_print {numeral : Numeral} (wellFormed : numeral.WellFormed)
    {rest : List Char} (ends : numeral.EndsBefore rest) :
    readNumber? (numeral.print ++ rest) =
      (numeralValue? numeral.negative numeral.unsigned).map
        (Option.map fun number => (number, rest)) := by
  simp only [readNumber?, splitSign_print wellFormed,
    numeralLength_unsigned wellFormed ends, List.take_left, List.drop_left]

theorem wholeValue?_eq_some_iff {negative : Bool} {digits : List Char}
    {number : Int} :
    wholeValue? negative digits = some number ↔
      number = (if negative then -(digitsValue digits : Int)
        else digitsValue digits) ∧
        -2 ^ 63 ≤ number ∧ number ≤ 2 ^ 63 - 1 := by
  unfold wholeValue?
  dsimp only
  generalize (if negative then -(digitsValue digits : Int)
    else digitsValue digits) = signed
  constructor
  · intro found
    split at found
    · rename_i inRange
      obtain ⟨least, greatest⟩ := Bool.and_eq_true_iff.mp inRange
      obtain rfl := Option.some.inj found
      exact ⟨rfl, of_decide_eq_true least, of_decide_eq_true greatest⟩
    · cases found
  · rintro ⟨rfl, least, greatest⟩
    rw [if_pos]
    exact Bool.and_eq_true_iff.mpr
      ⟨decide_eq_true least, decide_eq_true greatest⟩

theorem numeralValue?_of_not_convertible {numeral : Numeral}
    (wellFormed : numeral.WellFormed) (short : numeral.Short)
    (unfit : ¬ numeral.Convertible) :
    numeralValue? numeral.negative numeral.unsigned = .ok none := by
  unfold Numeral.Convertible at unfit
  cases point : numeral.fraction? with
  | none =>
      have few := short point
      have noPoint := Numeral.point_notMem_whole wellFormed
      simp only [point] at unfit
      by_cases empty : numeral.whole = []
      · simp [numeralValue?, Numeral.unsigned, point, empty]
      · have outside : wholeValue? numeral.negative numeral.whole = none := by
          rw [Option.eq_none_iff_forall_not_mem]
          intro number found
          obtain ⟨rfl, inRange⟩ := wholeValue?_eq_some_iff.mp found
          exact unfit ⟨empty, inRange⟩
        simp [numeralValue?, Numeral.unsigned, point, empty, noPoint,
          Nat.not_lt.mpr few, outside]
  | some fraction =>
      have bare : numeral.whole = [] ∧ fraction = [] := by
        simpa [point] using unfit
      simp [numeralValue?, Numeral.unsigned, point, bare, pointValue?]

theorem numeralValue?_of_not_short {numeral : Numeral}
    (wellFormed : numeral.WellFormed) (long : ¬ numeral.Short) :
    numeralValue? numeral.negative numeral.unsigned =
      .error (.tooManyDigits numeral.whole.length) := by
  obtain ⟨point, many⟩ := Classical.not_imp.mp long
  have noPoint := Numeral.point_notMem_whole wellFormed
  have empty : numeral.whole ≠ [] := by
    intro empty
    simp [empty] at many
  simp [numeralValue?, Numeral.unsigned, point, empty, noPoint,
    Nat.not_le.mp many]

theorem readValue_print {numeral : Numeral} (wellFormed : numeral.WellFormed)
    {rest : List Char} (ends : numeral.EndsBefore rest) (key : String) :
    readValue key (numeral.print ++ rest) =
      match numeralValue? numeral.negative numeral.unsigned with
      | .ok (some scalar) => .ok (scalar, rest)
      | .ok none => .error (.malformed key .invalidValue)
      | .error error => .error error := by
  obtain ⟨first, others, written, _, noQuote, notTrue, notFalse⟩ :=
    wellFormed.exists_head?
  have number := readNumber?_print wellFormed ends
  rw [written, List.cons_append] at number ⊢
  have noWord : ∀ word letter, word.toList.head? = some letter →
      first ≠ letter → dropWord? word (first :: (others ++ rest)) = none := by
    intro word letter starts different
    have missing : Text.dropLead? word.toList (first :: (others ++ rest)) =
        none := by
      rw [Text.dropLead?_eq_none_iff]
      intro begins
      obtain ⟨more, cut⟩ := begins
      cases letters : word.toList with
      | nil => simp [letters] at starts
      | cons char tail =>
          rw [letters] at starts cut
          exact different ((List.cons.inj cut).1.symm.trans
            (Option.some.inj starts))
    simp [dropWord?, missing]
  have noTrue := noWord "true" 't' rfl notTrue
  have noFalse := noWord "false" 'f' rfl notFalse
  unfold readValue
  split
  · rename_i quoted
    exact absurd (List.cons.inj quoted).1 noQuote
  · rw [noTrue, noFalse, number]
    cases numeralValue? numeral.negative numeral.unsigned with
    | error error => rfl
    | ok answer => cases answer <;> rfl

/-- A conversion fails for the number of digits only. -/
theorem eq_of_numeralValue?_error {negative : Bool} {digits : List Char}
    {error : ArgumentError}
    (failed : numeralValue? negative digits = .error error) :
    error = .tooManyDigits digits.length ∧ digitLimit < digits.length ∧
      '.' ∉ digits := by
  unfold numeralValue? at failed
  split at failed
  · cases failed
  · split at failed
    · cases failed
    · rename_i noPoint
      split at failed
      · rename_i many
        cases failed
        exact ⟨rfl, many, by simpa using noPoint⟩
      · cases failed

theorem readNumber?_of_head? {text : List Char}
    (stop : ∀ char ∈ text.head?, char ≠ '-' ∧ char ≠ '.' ∧
      char.isDigit = false) : readNumber? text = .ok none := by
  have unsigned : splitSign text = (false, text) := by
    unfold splitSign
    split
    · exact absurd rfl (stop '-' rfl).1
    · rfl
  have empty : numeralLength false text = 0 := by
    refine numeralLength_of_stop ?_
    intro char first
    obtain ⟨_, noPoint, noDigit⟩ := stop char first
    exact ⟨noDigit, fun dot => absurd dot noPoint⟩
  simp [readNumber?, unsigned, empty, numeralValue?, Except.map]

/-- A text without a sign starts with digits and a point as far as these go. -/
theorem exists_unsigned (negative : Bool) (text : List Char) :
    ∃ numeral : Numeral, numeral.negative = negative ∧
      (∀ char ∈ numeral.whole, char.isDigit = true) ∧
      (∀ fraction ∈ numeral.fraction?, ∀ char ∈ fraction,
        char.isDigit = true) ∧
      ∃ rest, text = numeral.unsigned ++ rest ∧ numeral.EndsBefore rest := by
  obtain ⟨whole, behind, rfl, digits, stops⟩ :=
    Text.exists_stretch Char.isDigit text
  by_cases point : behind.head? = some '.'
  · obtain ⟨others, rfl⟩ := List.head?_eq_some_iff.mp point
    obtain ⟨fraction, rest, rfl, moreDigits, moreStops⟩ :=
      Text.exists_stretch Char.isDigit others
    refine ⟨⟨negative, whole, some fraction⟩, rfl, digits, ?_, rest, ?_, ?_⟩
    · rintro _ ⟨⟩
      exact moreDigits
    · rw [Numeral.unsigned, List.append_assoc, List.cons_append]
    · intro char first
      refine ⟨moreStops char first, ?_⟩
      rintro ⟨⟩
  · refine ⟨⟨negative, whole, none⟩, rfl, digits, ?_, behind, rfl, ?_⟩
    · rintro _ ⟨⟩
    · intro char first
      refine ⟨stops char first, fun _ => ?_⟩
      rintro rfl
      exact point first

/-- A text starts with a numeral, or no number is read from it. -/
theorem exists_print_or_readNumber?_eq_none (text : List Char) :
    (∃ (numeral : Numeral) (rest : List Char), numeral.WellFormed ∧
      numeral.EndsBefore rest ∧ text = numeral.print ++ rest) ∨
    readNumber? text = .ok none := by
  by_cases sign : text.head? = some '-'
  · obtain ⟨unsigned, rfl⟩ := List.head?_eq_some_iff.mp sign
    obtain ⟨numeral, negative, whole, fraction, rest, rfl, ends⟩ :=
      exists_unsigned true unsigned
    have printed : numeral.print = '-' :: numeral.unsigned := by
      simp [Numeral.print, negative]
    refine .inl ⟨numeral, rest, ⟨by simp [printed], whole, fraction⟩, ends, ?_⟩
    rw [printed, List.cons_append]
  · obtain ⟨numeral, positive, whole, fraction, rest, rfl, ends⟩ :=
      exists_unsigned false text
    have printed : numeral.print = numeral.unsigned := by
      simp [Numeral.print, positive]
    by_cases empty : numeral.unsigned = []
    · refine .inr (readNumber?_of_head? ?_)
      rw [empty, List.nil_append] at sign ⊢
      intro char first
      obtain ⟨noDigit, noPoint⟩ := ends char first
      refine ⟨?_, noPoint ?_, noDigit⟩
      · rintro rfl
        exact sign first
      · unfold Numeral.unsigned at empty
        cases point : numeral.fraction? with
        | none => rfl
        | some digits => simp [point] at empty
    · exact .inl ⟨numeral, rest, ⟨printed ▸ empty, whole, fraction⟩, ends,
        by rw [printed]⟩

/-- A number that cannot be read is a whole number with too many digits. -/
theorem exists_numeral_of_readNumber?_error {text : List Char}
    {error : ArgumentError} (failed : readNumber? text = .error error) :
    ∃ (numeral : Numeral) (rest : List Char), numeral.WellFormed ∧
      numeral.EndsBefore rest ∧ text = numeral.print ++ rest ∧
      ¬ numeral.Short ∧ error = .tooManyDigits numeral.whole.length := by
  rcases exists_print_or_readNumber?_eq_none text with
    ⟨numeral, rest, wellFormed, ends, rfl⟩ | none
  · rw [readNumber?_print wellFormed ends] at failed
    obtain ⟨rfl, many, noPoint⟩ :=
      eq_of_numeralValue?_error (eq_error_of_map_eq_error failed)
    have whole : numeral.fraction? = none := by
      rw [Option.eq_none_iff_forall_not_mem]
      intro fraction same
      simp [Numeral.unsigned, Option.mem_def.mp same] at noPoint
    have unsigned : numeral.unsigned = numeral.whole := by
      simp [Numeral.unsigned, whole]
    rw [unsigned] at many ⊢
    refine ⟨numeral, rest, wellFormed, ends, rfl, ?_, rfl⟩
    exact fun short => Nat.not_lt_of_le (short whole) many
  · rw [failed] at none
    cases none

/-- A number that is read is the value of the numeral in front of what is left. -/
theorem exists_numeral_of_readNumber? {text rest : List Char} {scalar : Scalar}
    (read : readNumber? text = .ok (some (scalar, rest))) :
    ∃ numeral : Numeral, numeral.WellFormed ∧ numeral.EndsBefore rest ∧
      text = numeral.print ++ rest ∧
      numeralValue? numeral.negative numeral.unsigned = .ok (some scalar) := by
  rcases exists_print_or_readNumber?_eq_none text with
    ⟨numeral, after, wellFormed, ends, rfl⟩ | none
  · rw [readNumber?_print wellFormed ends] at read
    obtain ⟨number, converted, same⟩ := exists_of_map_eq_ok read
    obtain ⟨_, rfl, pair⟩ := Option.map_eq_some_iff.mp same
    cases pair
    exact ⟨numeral, wellFormed, ends, rfl, converted⟩
  · rw [read] at none
    cases none

/-- A number is read as a whole number of 64 bits or as one with a point, and
nothing behind it is lost. -/
theorem scalar_of_readNumber? {text rest : List Char} {scalar : Scalar}
    (read : readNumber? text = .ok (some (scalar, rest))) :
    rest <:+ text ∧
      ((∃ number : Int, scalar = .int number ∧
        -2 ^ 63 ≤ number ∧ number ≤ 2 ^ 63 - 1) ∨
        ∃ number, scalar = .float number) := by
  obtain ⟨numeral, _, _, rfl, converted⟩ := exists_numeral_of_readNumber? read
  refine ⟨List.suffix_append _ _, ?_⟩
  unfold numeralValue? at converted
  split at converted
  · cases converted
  · split at converted
    · obtain ⟨float, _, rfl⟩ :=
        Option.map_eq_some_iff.mp (Except.ok.inj converted)
      exact .inr ⟨float, rfl⟩
    · split at converted
      · cases converted
      · obtain ⟨whole, found, rfl⟩ :=
          Option.map_eq_some_iff.mp (Except.ok.inj converted)
        exact .inl ⟨whole, rfl, (wholeValue?_eq_some_iff.mp found).2⟩

end Arguments

end Shortcode
