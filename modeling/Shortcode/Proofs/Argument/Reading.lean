import Mathlib.Data.List.Nodup
import Shortcode.Proofs.Argument.Numeral

/-!
# What a list of arguments is read as

Every argument has a key and a value that are written in the text.  A list that
cannot be read has a pair to blame, or a whole number with too many digits.
-/

namespace Shortcode

/-- The text may be the key of an argument. -/
def IsKey (key : List Char) : Prop :=
  key ≠ [] ∧ ∀ char ∈ key, char ≠ '=' ∧ char ≠ ',' ∧ Text.isBlank char = false

/-- A text has the characters of the document, and a whole number 64 bits. -/
def Scalar.WrittenIn (text : List Char) : Scalar → Prop
  | .text content => ∀ char ∈ content.toList, char ∈ text
  | .int number => -2 ^ 63 ≤ number ∧ number ≤ 2 ^ 63 - 1
  | .float _ => True
  | .bool _ => True

theorem Scalar.WrittenIn.mono {text larger : List Char} {scalar : Scalar}
    (written : scalar.WrittenIn text) (inside : text <:+ larger) :
    scalar.WrittenIn larger := by
  cases scalar with
  | text content => exact fun char member => inside.subset (written char member)
  | int number => exact written
  | float number => trivial
  | bool flag => trivial

namespace Arguments

theorem isKeyChar_iff {char : Char} :
    isKeyChar char = true ↔
      char ≠ '=' ∧ char ≠ ',' ∧ Text.isBlank char = false := by
  simp [isKeyChar, and_assoc]

/-! ## One value -/

theorem suffix_of_readText? {text content rest : List Char}
    (read : readText? text = some (content, rest)) :
    rest <:+ text ∧ ∀ char ∈ content, char ∈ text := by
  fun_induction readText? text generalizing content with
  | case1 => cases read
  | case2 tail =>
      cases read
      exact ⟨List.suffix_cons _ _, by simp⟩
  | case3 char tail decoded =>
      rename_i induction
      obtain ⟨⟨inner, after⟩, found, same⟩ := Option.map_eq_some_iff.mp read
      cases same
      obtain ⟨behind, members⟩ := induction found
      refine ⟨behind.trans ⟨['\\', char], rfl⟩, ?_⟩
      intro other member
      rcases List.mem_append.mp member with here | later
      · -- A backslash is dropped in front of a quote or a backslash only.
        have inside : decoded ⊆ ['\\', char] := by
          unfold decoded
          split <;> simp
        exact List.mem_append_left tail (inside here)
      · simp [members other later]
  | case4 char tail _ _ induction =>
      obtain ⟨⟨inner, after⟩, found, same⟩ := Option.map_eq_some_iff.mp read
      cases same
      obtain ⟨behind, members⟩ := induction found
      refine ⟨behind.trans (List.suffix_cons _ _), ?_⟩
      intro other member
      rcases List.mem_cons.mp member with rfl | later
      · exact List.mem_cons_self
      · exact List.mem_cons_of_mem _ (members other later)

theorem suffix_of_dropWord? {word : String} {text rest : List Char}
    (dropped : dropWord? word text = some rest) : rest <:+ text := by
  have lead : ∀ tail, Text.dropLead? word.toList text = some tail →
      tail <:+ text := by
    intro tail found
    exact ⟨word.toList, (Text.dropLead?_eq_some_iff.mp found).symm⟩
  unfold dropWord? at dropped
  split at dropped
  · rename_i char tail found
    split at dropped
    · cases dropped
    · cases dropped
      exact lead _ found
  · exact lead _ dropped

theorem writtenIn_of_readValue {key : String} {text rest : List Char}
    {scalar : Scalar} (read : readValue key text = .ok (scalar, rest)) :
    rest <:+ text ∧ scalar.WrittenIn text := by
  unfold readValue at read
  split at read
  · rename_i tail
    split at read
    · rename_i content after found
      cases read
      obtain ⟨behind, members⟩ := suffix_of_readText? found
      refine ⟨behind.trans (List.suffix_cons _ _), ?_⟩
      intro char member
      rw [String.toList_ofList] at member
      exact List.mem_cons_of_mem _ (members char member)
    · cases read
  · split at read
    · rename_i after found
      cases read
      exact ⟨suffix_of_dropWord? found, trivial⟩
    · split at read
      · rename_i after found
        cases read
        exact ⟨suffix_of_dropWord? found, trivial⟩
      · split at read
        · rename_i pair found
          cases read
          obtain ⟨behind, ⟨number, rfl, inRange⟩ | ⟨number, rfl⟩⟩ :=
            scalar_of_readNumber? found
          · exact ⟨behind, inRange⟩
          · exact ⟨behind, trivial⟩
        · cases read
        · cases read

/-- A value that cannot be read is malformed, or is a numeral with too many
digits. -/
theorem exists_of_readValue_error {key : String} {text : List Char}
    {error : ArgumentError} (failed : readValue key text = .error error) :
    (∃ problem, error = .malformed key problem) ∨
      ∃ (numeral : Numeral) (rest : List Char), numeral.WellFormed ∧
        numeral.EndsBefore rest ∧ text = numeral.print ++ rest ∧
        ¬ numeral.Short ∧ error = .tooManyDigits numeral.whole.length := by
  unfold readValue at failed
  split at failed
  · split at failed
    · cases failed
    · cases failed
      exact .inl ⟨_, rfl⟩
  · split at failed
    · cases failed
    · split at failed
      · cases failed
      · split at failed
        · cases failed
        · cases failed
          exact .inl ⟨_, rfl⟩
        · rename_i other number
          cases failed
          exact .inr (exists_numeral_of_readNumber?_error number)

/-! ## One pair -/

/-- A pair is a key, an equals sign with blanks around it, and a value. -/
theorem exists_of_readPair {text : List Char}
    {answer : Except ArgumentError ((String × Scalar) × List Char)}
    (read : readPair text = answer) :
    (∃ key problem, answer = .error (.malformed key problem)) ∨
    ∃ key before after valueText, IsKey key ∧ Text.AllBlank before ∧
      Text.AllBlank after ∧
      text = key ++ (before ++ '=' :: (after ++ valueText)) ∧
      (readValue (String.ofList key) valueText).map
        (fun (scalar, rest) => ((String.ofList key, scalar), rest)) = answer := by
  have blanks : ∀ part : List Char,
      Text.AllBlank (part.takeWhile Text.isBlank) :=
    fun part char => List.mem_takeWhile_imp
  have cut : ∀ part : List Char,
      part = part.takeWhile Text.isBlank ++ Text.trimStart part :=
    fun part => List.takeWhile_append_dropWhile.symm
  unfold readPair at read
  dsimp only at read
  split at read
  · exact .inl ⟨_, _, read.symm⟩
  · rename_i nonempty
    split at read
    · rename_i tail trimmed
      split at read
      · exact .inl ⟨_, _, read.symm⟩
      · refine .inr ⟨text.takeWhile isKeyChar, _, _, Text.trimStart tail,
          ⟨?_, ?_⟩, blanks (text.dropWhile isKeyChar), blanks tail, ?_, read⟩
        · intro empty
          simp [empty] at nonempty
        · intro char member
          exact isKeyChar_iff.mp (List.mem_takeWhile_imp member)
        · rw [← cut tail, ← trimmed, ← cut (text.dropWhile isKeyChar),
            List.takeWhile_append_dropWhile]
    · exact .inl ⟨_, _, read.symm⟩

theorem suffix_of_value (key before after valueText : List Char) :
    valueText <:+ key ++ (before ++ '=' :: (after ++ valueText)) :=
  ⟨key ++ (before ++ '=' :: after), by simp⟩

theorem writtenIn_of_readPair {text rest : List Char} {pair : String × Scalar}
    (read : readPair text = .ok (pair, rest)) :
    rest <:+ text ∧ IsKey pair.1.toList ∧ pair.2.WrittenIn text := by
  rcases exists_of_readPair read with
    ⟨_, _, failed⟩ | ⟨key, before, after, valueText, isKey, _, _, rfl, value⟩
  · cases failed
  · obtain ⟨⟨scalar, last⟩, valueRead, same⟩ := exists_of_map_eq_ok value
    cases same
    have place := suffix_of_value key before after valueText
    obtain ⟨behind, written⟩ := writtenIn_of_readValue valueRead
    exact ⟨behind.trans place, by simpa using isKey, written.mono place⟩

theorem exists_key_of_readPair {text rest : List Char}
    {pair : String × Scalar} (read : readPair text = .ok (pair, rest)) :
    ∃ key, IsKey key ∧ ∃ more, text = key ++ more := by
  rcases exists_of_readPair read with
    ⟨_, _, failed⟩ | ⟨key, _, _, _, isKey, _, _, cut, _⟩
  · cases failed
  · exact ⟨key, isKey, _, cut⟩

/-- A key goes as far as its characters do. -/
theorem cut_of_isKey {key rest : List Char} (isKey : IsKey key)
    (stops : ∀ char ∈ rest.head?, isKeyChar char = false) :
    (key ++ rest).takeWhile isKeyChar = key ∧
      (key ++ rest).dropWhile isKeyChar = rest := by
  have inside : ∀ char ∈ key, isKeyChar char = true :=
    fun char member => isKeyChar_iff.mpr (isKey.2 char member)
  exact ⟨Text.takeWhile_append_of_stops inside stops,
    Text.dropWhile_append_of_stops inside stops⟩

theorem not_isKeyChar_of_allBlank {before rest : List Char}
    (blank : Text.AllBlank before)
    (stops : ∀ char ∈ rest.head?, isKeyChar char = false) :
    ∀ char ∈ (before ++ rest).head?, isKeyChar char = false := by
  cases before with
  | nil => exact stops
  | cons first others =>
      rintro char ⟨⟩
      simp [isKeyChar, blank first List.mem_cons_self]

theorem readPair_append_equals {key before : List Char} (isKey : IsKey key)
    (blank : Text.AllBlank before) (tail : List Char) :
    readPair (key ++ (before ++ '=' :: tail)) =
      match Text.trimStart tail with
      | [] => .error (.malformed (String.ofList key) .missingValue)
      | valueText => (readValue (String.ofList key) valueText).map
          fun (scalar, rest) => ((String.ofList key, scalar), rest) := by
  have stops : ∀ char ∈ ('=' :: tail).head?, isKeyChar char = false ∧
      Text.isBlank char = false := by
    rintro char ⟨⟩
    decide
  obtain ⟨taken, dropped⟩ := cut_of_isKey isKey
    (not_isKeyChar_of_allBlank blank fun char first => (stops char first).1)
  have trimmed : Text.trimStart (before ++ '=' :: tail) = '=' :: tail :=
    Text.dropWhile_append_of_stops blank fun char first => (stops char first).2
  rw [readPair]
  simp only [taken, dropped, trimmed]
  cases Text.trimStart tail <;> simp [isKey.1]

/-- Blanks may stand around the equals sign. -/
theorem readPair_of_isKey {key before after valueText : List Char}
    (isKey : IsKey key) (blankBefore : Text.AllBlank before)
    (blankAfter : Text.AllBlank after) {first : Char}
    (begins : valueText.head? = some first)
    (visible : Text.isBlank first = false) :
    readPair (key ++ (before ++ '=' :: (after ++ valueText))) =
      (readValue (String.ofList key) valueText).map
        fun (scalar, rest) => ((String.ofList key, scalar), rest) := by
  have value : Text.trimStart (after ++ valueText) = valueText := by
    refine Text.dropWhile_append_of_stops blankAfter ?_
    intro char here
    rw [begins] at here
    cases here
    exact visible
  rw [readPair_append_equals isKey blankBefore, value]
  cases valueText with
  | nil => cases begins
  | cons char rest => rfl

/-! ## The whole list -/

/-- The keys are distinct, and the keys and values are written in the text. -/
structure WrittenIn (text : List Char) (arguments : Arguments) : Prop where
  distinct : (arguments.map Prod.fst).Nodup
  keys : ∀ entry ∈ arguments, IsKey entry.1.toList
  values : ∀ entry ∈ arguments, entry.2.WrittenIn text

theorem mem_insert {key : String} {scalar : Scalar} {arguments : Arguments}
    {entry : String × Scalar} (member : entry ∈ arguments.insert key scalar) :
    entry = (key, scalar) ∨ entry ∈ arguments := by
  induction arguments with
  | nil => simpa [insert] using member
  | cons first rest induction =>
      rw [insert] at member
      split at member
      · rcases List.mem_cons.mp member with here | later
        · exact .inl here
        · exact .inr (List.mem_cons_of_mem _ later)
      · rcases List.mem_cons.mp member with here | later
        · exact .inr (List.mem_cons.mpr (.inl here))
        · exact (induction later).imp_right (List.mem_cons_of_mem _)

theorem nodup_insert {key : String} {scalar : Scalar} {arguments : Arguments}
    (distinct : (arguments.map Prod.fst).Nodup) :
    ((arguments.insert key scalar).map Prod.fst).Nodup := by
  induction arguments with
  | nil => simp [insert]
  | cons first rest induction =>
      obtain ⟨absent, others⟩ := List.nodup_cons.mp distinct
      rw [insert]
      split
      · rename_i same
        obtain rfl : first.1 = key := by simpa using same
        exact List.nodup_cons.mpr ⟨absent, others⟩
      · rename_i different
        refine List.nodup_cons.mpr ⟨?_, induction others⟩
        intro member
        obtain ⟨entry, inserted, same⟩ := List.mem_map.mp member
        rcases mem_insert inserted with rfl | old
        · exact different (by simpa using same.symm)
        · exact absent (List.mem_map.mpr ⟨entry, old, same⟩)

theorem WrittenIn.insert {text : List Char} {arguments : Arguments}
    (written : arguments.WrittenIn text) {key : String} {scalar : Scalar}
    (isKey : IsKey key.toList) (valued : scalar.WrittenIn text) :
    (Arguments.insert key scalar arguments).WrittenIn text := by
  refine ⟨nodup_insert written.distinct, ?_, ?_⟩
  · intro entry member
    rcases mem_insert member with rfl | old
    · exact isKey
    · exact written.keys entry old
  · intro entry member
    rcases mem_insert member with rfl | old
    · exact valued
    · exact written.values entry old

theorem writtenIn_of_readFrom {whole text : List Char}
    {found arguments : Arguments} (inside : text <:+ whole)
    (written : found.WrittenIn whole)
    (read : readFrom found text = .ok arguments) :
    arguments.WrittenIn whole := by
  fun_induction readFrom found text with
  | case1 found text start =>
      cases read
      exact written
  | case2 found text start nonempty pair rest pairRead induction =>
      have started : start <:+ whole :=
        (List.dropWhile_suffix isSeparator).trans inside
      obtain ⟨behind, isKey, valued⟩ := writtenIn_of_readPair pairRead
      exact induction (behind.trans started)
        (written.insert isKey (valued.mono started)) read
  | case3 => cases read

theorem writtenIn_of_read {text : List Char} {arguments : Arguments}
    (found : Arguments.read text = .ok arguments) :
    arguments.WrittenIn text := by
  have empty : WrittenIn text [] := by
    constructor <;> simp
  exact writtenIn_of_readFrom List.suffix_rfl empty found

/-! ## Places of the reader -/

/-- The reader of the text has set `found` and goes on with what is left. -/
inductive Reaches (text : List Char) : Arguments → List Char → Prop where
  | start : Reaches text [] text
  | separator {found : Arguments} {char : Char} {rest : List Char} :
      Reaches text found (char :: rest) → isSeparator char = true →
      Reaches text found rest
  | pair {found : Arguments} {before rest : List Char}
      {entry : String × Scalar} :
      Reaches text found before → readPair before = .ok (entry, rest) →
      Reaches text (found.insert entry.1 entry.2) rest

/-- The reader of the text comes to the value of this key. -/
def ReachesValue (text key valueText : List Char) : Prop :=
  ∃ found before after, IsKey key ∧ Text.AllBlank before ∧
    Text.AllBlank after ∧
    Reaches text found (key ++ (before ++ '=' :: (after ++ valueText)))

theorem dropWhile_of_isKey {key : List Char} (isKey : IsKey key)
    (rest : List Char) :
    (key ++ rest).dropWhile isSeparator = key ++ rest := by
  obtain ⟨nonempty, chars⟩ := isKey
  obtain ⟨char, others, rfl⟩ := List.exists_cons_of_ne_nil nonempty
  obtain ⟨_, noComma, visible⟩ := chars char List.mem_cons_self
  simp [isSeparator, noComma, visible]

theorem readFrom_of_readPair_ok {text rest : List Char}
    {entry : String × Scalar}
    (read : readPair (text.dropWhile isSeparator) = .ok (entry, rest))
    (found : Arguments) :
    readFrom found text = readFrom (found.insert entry.1 entry.2) rest := by
  rw [readFrom]
  split
  · rename_i empty
    rw [List.isEmpty_iff.mp empty] at read
    cases read
  · split
    · rename_i pairRead
      rw [read] at pairRead
      cases pairRead
      rfl
    · rename_i pairRead
      rw [read] at pairRead
      cases pairRead

theorem readFrom_of_readPair_error {text : List Char} {error : ArgumentError}
    (nonempty : text.dropWhile isSeparator ≠ [])
    (failed : readPair (text.dropWhile isSeparator) = .error error)
    (found : Arguments) : readFrom found text = .error error := by
  rw [readFrom]
  split
  · rename_i empty
    exact absurd (List.isEmpty_iff.mp empty) nonempty
  · split
    · rename_i pairRead
      rw [failed] at pairRead
      cases pairRead
    · rename_i pairRead
      rw [failed] at pairRead
      exact congrArg Except.error (Except.error.inj pairRead).symm

theorem readFrom_of_separators {text : List Char}
    (empty : text.dropWhile isSeparator = []) (found : Arguments) :
    readFrom found text = .ok found := by
  rw [readFrom]
  simp [empty]

theorem readFrom_cons_of_isSeparator {char : Char}
    (separator : isSeparator char = true) (rest : List Char)
    (found : Arguments) : readFrom found (char :: rest) = readFrom found rest := by
  have same : (char :: rest).dropWhile isSeparator =
      rest.dropWhile isSeparator := List.dropWhile_cons_of_pos separator
  by_cases empty : rest.dropWhile isSeparator = []
  · rw [readFrom_of_separators empty, readFrom_of_separators (same.trans empty)]
  · cases read : readPair (rest.dropWhile isSeparator) with
    | error error =>
        rw [readFrom_of_readPair_error empty read]
        exact readFrom_of_readPair_error (same ▸ empty) (same ▸ read) found
    | ok answer =>
        rw [readFrom_of_readPair_ok read]
        exact readFrom_of_readPair_ok (same ▸ read) found

def AllSeparators (text : List Char) : Prop :=
  ∀ char ∈ text, isSeparator char = true

/-- Separators are passed over in front of a pair. -/
theorem readFrom_append {separators text rest : List Char}
    {pair : String × Scalar} (separate : AllSeparators separators)
    (read : readPair text = .ok (pair, rest)) (found : Arguments) :
    readFrom found (separators ++ text) =
      readFrom (found.insert pair.1 pair.2) rest := by
  refine readFrom_of_readPair_ok ?_ found
  rw [List.dropWhile_append_of_pos separate]
  obtain ⟨key, isKey, more, rfl⟩ := exists_key_of_readPair read
  rwa [dropWhile_of_isKey isKey more]

theorem Reaches.dropWhile {text rest : List Char} {found : Arguments}
    (reaches : Reaches text found rest) :
    Reaches text found (rest.dropWhile isSeparator) := by
  induction rest with
  | nil => exact reaches
  | cons char rest induction =>
      rw [List.dropWhile_cons]
      split
      · rename_i separates
        exact induction (reaches.separator separates)
      · exact reaches

theorem Reaches.read_eq {text rest : List Char} {found : Arguments}
    (reaches : Reaches text found rest) :
    Arguments.read text = readFrom found rest := by
  induction reaches with
  | start => rfl
  | separator _ separates induction =>
      rw [induction, readFrom_cons_of_isSeparator separates]
  | @pair found before rest entry _ read induction =>
      -- A pair that can be read begins with its key, so nothing is passed over.
      have started : before.dropWhile isSeparator = before := by
        obtain ⟨key, isKey, more, rfl⟩ := exists_key_of_readPair read
        exact dropWhile_of_isKey isKey more
      rw [induction]
      exact readFrom_of_readPair_ok (started.symm ▸ read) found

/-- The first value that cannot be read is the one to blame. -/
theorem read_of_reachesValue {text key valueText : List Char}
    (reaches : ReachesValue text key valueText) {first : Char}
    (begins : valueText.head? = some first)
    (visible : Text.isBlank first = false) {error : ArgumentError}
    (failed : readValue (String.ofList key) valueText = .error error) :
    Arguments.read text = .error error := by
  obtain ⟨found, before, after, isKey, blankBefore, blankAfter, place⟩ := reaches
  have started :=
    dropWhile_of_isKey isKey (before ++ '=' :: (after ++ valueText))
  have pair := readPair_of_isKey isKey blankBefore blankAfter begins visible
  rw [failed] at pair
  rw [place.read_eq]
  refine readFrom_of_readPair_error ?_ (started.symm ▸ pair) found
  rw [started]
  exact List.append_ne_nil_of_left_ne_nil isKey.1 _

/-! ## Numerals among the values -/

theorem read_of_reachesValue_print {numeral : Numeral}
    (wellFormed : numeral.WellFormed) {text key rest : List Char}
    (reaches : ReachesValue text key (numeral.print ++ rest))
    {error : ArgumentError}
    (failed : readValue (String.ofList key) (numeral.print ++ rest) =
      .error error) : Arguments.read text = .error error := by
  obtain ⟨first, others, written, visible, _⟩ := wellFormed.exists_head?
  have begins : (numeral.print ++ rest).head? = some first := by
    rw [written]
    rfl
  exact read_of_reachesValue reaches begins visible failed

/-- A numeral that stands for no number is reported with its key. -/
theorem read_of_not_convertible {numeral : Numeral}
    (wellFormed : numeral.WellFormed) (short : numeral.Short)
    (unfit : ¬ numeral.Convertible) {text key rest : List Char}
    (ends : numeral.EndsBefore rest)
    (reaches : ReachesValue text key (numeral.print ++ rest)) :
    Arguments.read text =
      .error (.malformed (String.ofList key) .invalidValue) := by
  refine read_of_reachesValue_print wellFormed reaches ?_
  rw [readValue_print wellFormed ends,
    numeralValue?_of_not_convertible wellFormed short unfit]

/-- A numeral with too many digits is not reported with its key. -/
theorem read_of_not_short {numeral : Numeral}
    (wellFormed : numeral.WellFormed) (long : ¬ numeral.Short)
    {text key rest : List Char} (ends : numeral.EndsBefore rest)
    (reaches : ReachesValue text key (numeral.print ++ rest)) :
    Arguments.read text = .error (.tooManyDigits numeral.whole.length) := by
  refine read_of_reachesValue_print wellFormed reaches ?_
  rw [readValue_print wellFormed ends,
    numeralValue?_of_not_short wellFormed long]

/-- The reader comes to a whole number with so many digits, more than are ever
converted. -/
def MeetsLongNumeral (text : List Char) (count : Nat) : Prop :=
  ∃ (numeral : Numeral) (key rest : List Char), numeral.WellFormed ∧
    numeral.EndsBefore rest ∧ ¬ numeral.Short ∧ numeral.whole.length = count ∧
    ReachesValue text key (numeral.print ++ rest)

theorem meetsLongNumeral_of_readFrom {whole text : List Char}
    {found : Arguments} {count : Nat} (reaches : Reaches whole found text)
    (failed : readFrom found text = .error (.tooManyDigits count)) :
    MeetsLongNumeral whole count := by
  fun_induction readFrom found text with
  | case1 => cases failed
  | case2 found text start nonempty pair rest pairRead induction =>
      exact induction (reaches.dropWhile.pair pairRead) failed
  | case3 found text start nonempty other pairRead =>
      cases failed
      rcases exists_of_readPair pairRead with
        ⟨_, _, same⟩ |
          ⟨key, before, after, valueText, isKey, blankBefore, blankAfter, cut,
            value⟩
      · cases same
      · rcases exists_of_readValue_error (eq_error_of_map_eq_error value) with
          ⟨_, same⟩ | ⟨numeral, rest, wellFormed, ends, rfl, long, same⟩
        · cases same
        · have place : Reaches whole found start := reaches.dropWhile
          rw [cut] at place
          exact ⟨numeral, key, rest, wellFormed, ends, long,
            (ArgumentError.tooManyDigits.inj same).symm, found, before, after,
            isKey, blankBefore, blankAfter, place⟩

theorem read_eq_tooManyDigits_iff {text : List Char} {count : Nat} :
    Arguments.read text = .error (.tooManyDigits count) ↔
      MeetsLongNumeral text count := by
  constructor
  · exact meetsLongNumeral_of_readFrom .start
  · rintro ⟨numeral, key, rest, wellFormed, ends, long, rfl, reaches⟩
    exact read_of_not_short wellFormed long ends reaches

end Arguments

end Shortcode
