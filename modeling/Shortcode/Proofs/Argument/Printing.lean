import Shortcode.Call
import Shortcode.Proofs.Argument.Mapping
import Shortcode.Proofs.Argument.Value

/-!
# Lists of arguments in print

Pairs that are printed with separators between them are read back: a text with
its quotes and backslashes escaped, a flag as its word and a whole number in
decimal digits.
-/

namespace Shortcode

/-- The content of a text with a backslash before each quote and backslash. -/
def escape (content : List Char) : List Char :=
  content.flatMap fun char =>
    if char = '"' ∨ char = '\\' then ['\\', char] else [char]

/-- Texts, flags and whole numbers of 64 bits. -/
def Scalar.Printable : Scalar → Prop
  | .text _ => True
  | .bool _ => True
  | .int number => -2 ^ 63 ≤ number ∧ number ≤ 2 ^ 63 - 1
  | .float _ => False

def Scalar.print : Scalar → List Char
  | .text content => '"' :: (escape content.toList ++ ['"'])
  | .bool flag => flagWord flag
  | .int number => (toString number).toList
  | .float _ => []

theorem spells_escape (content : List Char) : Spells (escape content) content := by
  induction content with
  | nil => exact .nil
  | cons char rest induction =>
      by_cases special : char = '"' ∨ char = '\\'
      · have written : escape (char :: rest) = '\\' :: char :: escape rest := by
          simp [escape, special]
        exact written ▸ .escaped special induction
      · have written : escape (char :: rest) = char :: escape rest := by
          simp [escape, special]
        obtain ⟨noQuote, noBackslash⟩ := not_or.mp special
        exact written ▸ .plain noQuote noBackslash induction

/-! ## Whole numbers -/

/-- The whole number in decimal digits. -/
def Numeral.ofInt (number : Int) : Numeral :=
  ⟨decide (number < 0), Nat.toDigits 10 number.natAbs, none⟩

namespace Numeral

theorem print_ofInt (number : Int) :
    (ofInt number).print = (toString number).toList := by
  cases number with
  | ofNat size => simp [ofInt, print, unsigned, toString, Int.repr, Nat.repr]
  | negSucc size => simp [ofInt, print, unsigned, toString, Int.repr, Nat.repr]

theorem wellFormed_ofInt (number : Int) : (ofInt number).WellFormed := by
  refine ⟨?_, ?_, by simp [ofInt]⟩
  · unfold print
    split
    · simp
    · simp [unsigned, ofInt, Nat.toDigits_ne_nil]
  · exact fun char member => Nat.isDigit_of_mem_toDigits (by decide) (by decide) member

theorem value_ofInt (number : Int) : (ofInt number).value = number := by
  have size : Arguments.digitsValue (Nat.toDigits 10 number.natAbs) =
      number.natAbs := Nat.ofDigitChars_ten_toDigits
  simp only [value, ofInt, size, decide_eq_true_eq]
  omega

theorem convertible_ofInt {number : Int} (least : -2 ^ 63 ≤ number)
    (greatest : number ≤ 2 ^ 63 - 1) : (ofInt number).Convertible :=
  ⟨Nat.toDigits_ne_nil, (value_ofInt number).symm ▸ ⟨least, greatest⟩⟩

theorem short_ofInt {number : Int} (least : -2 ^ 63 ≤ number)
    (greatest : number ≤ 2 ^ 63 - 1) : (ofInt number).Short := by
  intro _
  have size : number.natAbs < 10 ^ 19 := by omega
  have few : (Nat.toDigits 10 number.natAbs).length ≤ 19 :=
    (Nat.length_toDigits_le_iff (by decide) (by decide)).mpr size
  exact few.trans (by decide)

end Numeral

namespace Text

theorem le_toNat_of_isAlphanum {char : Char} (alphanum : char.isAlphanum = true) :
    48 ≤ char.toNat := by
  have signs : ∀ code < 48, (Char.ofNat code).isAlphanum = false := by decide
  by_contra small
  rw [← Char.ofNat_toNat char, signs _ (by omega)] at alphanum
  cases alphanum

/-- No letter or numeral separates words. -/
theorem isAlphanumeric_of_isBlank {char : Char} (blank : isBlank char = true) :
    isAlphanumeric char = false := by
  have apart : ∀ range ∈ blankRanges, ∀ other ∈ alphanumericRanges,
      range.2 < other.1 ∨ other.2 < range.1 := by decide +kernel
  have ascii : ∀ range ∈ blankRanges, range.2 < 48 ∨ 128 ≤ range.1 := by decide
  obtain ⟨range, member, inside⟩ := List.any_eq_true.mp blank
  obtain ⟨first, last⟩ : range.1 ≤ char.toNat ∧ char.toNat ≤ range.2 := by
    simpa using inside
  unfold isAlphanumeric
  split
  · rw [Bool.eq_false_iff]
    intro alphanum
    have code := le_toNat_of_isAlphanum alphanum
    have away := ascii range member
    omega
  · rw [inRanges, List.any_eq_false]
    intro other listed
    have away := apart range member other listed
    simp only [Bool.and_eq_true, decide_eq_true_eq]
    omega

end Text

namespace Arguments

/-! ## One pair -/

/-- A separator ends every word and every numeral. -/
theorem stops_of_isSeparator {char : Char} (separator : isSeparator char = true) :
    isWordChar char = false ∧ char.isDigit = false ∧ char ≠ '.' := by
  rcases Bool.or_eq_true_iff.mp separator with blank | comma
  · refine ⟨?_, ?_, ?_⟩
    · have noLetter := Text.isAlphanumeric_of_isBlank blank
      have noLine : char ≠ '_' := by
        rintro rfl
        revert blank
        decide
      simp [isWordChar, noLetter, noLine]
    · rw [Bool.eq_false_iff]
      intro digit
      rw [Numeral.isBlank_of_isDigit digit] at blank
      cases blank
    · rintro rfl
      revert blank
      decide
  · obtain rfl : char = ',' := by simpa using comma
    decide

theorem exists_head?_print {scalar : Scalar} (printable : scalar.Printable)
    (rest : List Char) : ∃ first, (scalar.print ++ rest).head? = some first ∧
      Text.isBlank first = false := by
  cases scalar with
  | text content => exact ⟨'"', rfl, by decide⟩
  | bool flag =>
      cases flag with
      | true => exact ⟨'t', rfl, by decide⟩
      | false => exact ⟨'f', rfl, by decide⟩
  | int number =>
      obtain ⟨first, others, written, visible, _⟩ :=
        (Numeral.wellFormed_ofInt number).exists_head?
      rw [Scalar.print, ← Numeral.print_ofInt, written]
      exact ⟨first, rfl, visible⟩
  | float _ => cases printable

theorem readValue_scalar {scalar : Scalar} (printable : scalar.Printable)
    {rest : List Char} (stops : ∀ char ∈ rest.head?, isSeparator char = true)
    (key : String) :
    readValue key (scalar.print ++ rest) = .ok (scalar, rest) := by
  cases scalar with
  | text content =>
      have read := readValue_text (spells_escape content.toList) rest key
      simpa [Scalar.print] using read
  | bool flag =>
      exact readValue_flag
        (fun char first => (stops_of_isSeparator (stops char first)).1) flag key
  | int number =>
      obtain ⟨least, greatest⟩ := printable
      have ends : (Numeral.ofInt number).EndsBefore rest := by
        intro char first
        obtain ⟨_, noDigit, noPoint⟩ := stops_of_isSeparator (stops char first)
        exact ⟨noDigit, fun _ => noPoint⟩
      have read := readValue_number
        ((Numeral.longestIn_append_iff (Numeral.wellFormed_ofInt number)).mpr ends)
        (Numeral.short_ofInt least greatest)
        (Numeral.convertible_ofInt least greatest) key
      rw [Scalar.print, ← Numeral.print_ofInt, read]
      exact congrArg (fun number => Except.ok (Scalar.int number, rest))
        (Numeral.value_ofInt number)
  | float _ => cases printable

def printPair (pair : String × Scalar) : List Char :=
  pair.1.toList ++ '=' :: pair.2.print

theorem readPair_printPair {pair : String × Scalar} (isKey : IsKey pair.1.toList)
    (printable : pair.2.Printable) {rest : List Char}
    (stops : ∀ char ∈ rest.head?, isSeparator char = true) :
    readPair (printPair pair ++ rest) = .ok (pair, rest) := by
  obtain ⟨first, begins, visible⟩ := exists_head?_print printable rest
  have read := readPair_of_isKey isKey Text.allBlank_nil Text.allBlank_nil begins
    visible
  rw [readValue_scalar printable stops] at read
  simpa [printPair, Except.map] using read

/-! ## The list -/

/-- The pairs in print, a gap behind each for the number of those to come. -/
def printPairs (gap : Nat → List Char) : List (String × Scalar) → List Char
  | [] => []
  | [pair] => printPair pair
  | pair :: next :: rest =>
    printPair pair ++ (gap (rest.length + 1) ++ printPairs gap (next :: rest))

/-- Not nothing, and nothing but commas and blanks. -/
def IsGap (text : List Char) : Prop := text ≠ [] ∧ AllSeparators text

theorem readFrom_printPairs {gap : Nat → List Char}
    {pairs : List (String × Scalar)}
    (keys : ∀ pair ∈ pairs, IsKey pair.1.toList)
    (values : ∀ pair ∈ pairs, pair.2.Printable)
    (gaps : ∀ count, IsGap (gap count)) {lead : List Char}
    (separate : AllSeparators lead) (found : Arguments) :
    readFrom found (lead ++ printPairs gap pairs) =
      .ok (insertAll found pairs) := by
  induction pairs generalizing lead found with
  | nil =>
      rw [printPairs, List.append_nil]
      exact readFrom_of_separators (List.dropWhile_eq_nil_iff.mpr separate) found
  | cons pair rest induction =>
      obtain ⟨isKey, keys⟩ := List.forall_mem_cons.mp keys
      obtain ⟨printable, values⟩ := List.forall_mem_cons.mp values
      cases rest with
      | nil =>
          have read := readPair_printPair isKey printable
            (by simp : ∀ char ∈ [].head?, isSeparator char = true)
          rw [List.append_nil] at read
          rw [printPairs, readFrom_append separate read]
          exact readFrom_of_separators rfl _
      | cons next others =>
          obtain ⟨nonempty, gapSeparates⟩ := gaps (others.length + 1)
          have stops : ∀ char ∈ (gap (others.length + 1) ++
              printPairs gap (next :: others)).head?,
              isSeparator char = true := by
            intro char first
            rw [List.head?_append_of_ne_nil _ nonempty] at first
            exact gapSeparates char (List.mem_of_mem_head? first)
          rw [printPairs, readFrom_append separate
            (readPair_printPair isKey printable stops),
            induction keys values gapSeparates]
          rfl

/-- What is printed is read back, the last value of a repeated key winning. -/
theorem readArguments_printPairs {pairs : List (String × Scalar)}
    {gap : Nat → List Char} (keys : ∀ pair ∈ pairs, IsKey pair.1.toList)
    (values : ∀ pair ∈ pairs, pair.2.Printable)
    (gaps : ∀ count, IsGap (gap count)) (name : String) (line : Int) :
    Head.readArguments name line (printPairs gap pairs) =
      .ok (insertAll [] pairs) ∧ Collects pairs (insertAll [] pairs) := by
  have nothing : AllSeparators [] := by simp [AllSeparators]
  have read := readFrom_printPairs keys values gaps nothing []
  rw [List.nil_append] at read
  refine ⟨?_, collects_insertAll pairs⟩
  simp [Head.readArguments, Arguments.read, read]

/-- A text with everything that is special, a flag and the least whole number. -/
def printable : List (String × Scalar) :=
  [("t", .text "\\\"\n, \\)"), ("f", .bool true),
    ("t", .int (-9223372036854775808))]

def tabOrComma (count : Nat) : List Char :=
  if count % 2 = 0 then ['\t', ','] else [',', ' ']

theorem readArguments_printable :
    (∀ pair ∈ printable, IsKey pair.1.toList) ∧
      (∀ pair ∈ printable, pair.2.Printable) ∧
      (∀ count, IsGap (tabOrComma count)) ∧
      printPairs tabOrComma printable =
        "t=\"\\\\\\\"\n, \\\\)\"\t,f=true, t=-9223372036854775808".toList ∧
      Head.readArguments "x" 1 (printPairs tabOrComma printable) =
        .ok [("t", .int (-9223372036854775808)), ("f", .bool true)] := by
  have isKey : ∀ name : String, name.toList ≠ [] →
      name.toList.all isKeyChar = true → IsKey name.toList :=
    fun name nonempty all => ⟨nonempty, fun char inside =>
      isKeyChar_iff.mp (List.all_eq_true.mp all char inside)⟩
  have keys : ∀ pair ∈ printable, IsKey pair.1.toList := by
    simp only [printable, List.forall_mem_cons]
    exact ⟨isKey "t" (by decide) (by decide), isKey "f" (by decide) (by decide),
      isKey "t" (by decide) (by decide), List.forall_mem_nil _⟩
  have values : ∀ pair ∈ printable, pair.2.Printable := by
    simp [printable, Scalar.Printable]
  have gaps : ∀ count, IsGap (tabOrComma count) := by
    have separate : ∀ text : List Char, text.all isSeparator = true →
        AllSeparators text := fun text => List.all_eq_true.mp
    intro count
    unfold tabOrComma
    split
    · exact ⟨by decide, separate _ (by decide)⟩
    · exact ⟨by decide, separate _ (by decide)⟩
  exact ⟨keys, values, gaps, by with_unfolding_all rfl,
    (readArguments_printPairs keys values gaps "x" 1).1⟩

end Arguments

end Shortcode
