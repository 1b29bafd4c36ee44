import Shortcode.Call
import Shortcode.Proofs.Argument.Reading
import Shortcode.Proofs.Text.Search

/-!
# What the text of a call is read as

The text of a call is a name and a list of arguments in parentheses, or there
is a problem to report on its line.  There is one failure of another kind: a
whole number with too many digits among the arguments.
-/

namespace Shortcode

/-- A problem of reading, not one of expanding. -/
def Problem.Syntactic : Problem → Prop
  | .unknown _ _ => False
  | .render _ _ => False
  | _ => True

/-- A fault is a problem of reading, on this line. -/
def Failure.FoundAt (line : Int) : Failure → Prop
  | .fault located => located.line = line ∧ located.problem.Syntactic
  | .tooManyDigits _ => True

/-- The text may be the name of a call. -/
def IsName (name : List Char) : Prop :=
  name ≠ [] ∧
    ∀ char ∈ name, char.isAlphanum = true ∨ char = '_' ∨ char = '-'

namespace Head

/-- The text of a call, cut at its parentheses. -/
def Encloses (text nameText argumentText : List Char) : Prop :=
  ∃ after, text = nameText ++ '(' :: (argumentText ++ ')' :: after) ∧
    '(' ∉ nameText ∧ ')' ∉ after

/-- The reader comes to a whole number with too many digits. -/
def MeetsLongNumeral (text : List Char) (count : Nat) : Prop :=
  ∃ nameText argumentText, Encloses text nameText argumentText ∧
    IsName (Text.trim nameText) ∧
    Arguments.MeetsLongNumeral (Text.trim argumentText) count

theorem isNameChar_iff {char : Char} :
    isNameChar char = true ↔
      char.isAlphanum = true ∨ char = '_' ∨ char = '-' := by
  simp [isNameChar, or_assoc]

theorem readName_of_isName {text : List Char} (isName : IsName (Text.trim text))
    (line : Int) :
    readName line text = .ok (String.ofList (Text.trim text)) := by
  obtain ⟨nonempty, chars⟩ := isName
  have all : (Text.trim text).all isNameChar = true :=
    List.all_eq_true.mpr fun char member => isNameChar_iff.mpr (chars char member)
  simp [readName, nonempty, all]

theorem readName_of_not_isName {text : List Char}
    (notName : ¬ IsName (Text.trim text)) (line : Int) :
    ∃ problem : Problem, problem.Syntactic ∧
      readName line text = .error (failure line problem) := by
  unfold readName
  dsimp only
  split
  · exact ⟨.emptyName, trivial, rfl⟩
  · rename_i nonempty
    split
    · exact ⟨.invalidName _, trivial, rfl⟩
    · rename_i valid
      refine absurd ⟨by simpa using nonempty, ?_⟩ notName
      intro char member
      have all : (Text.trim text).all isNameChar = true := by simpa using valid
      exact isNameChar_iff.mp (List.all_eq_true.mp all char member)

theorem readArguments_eq_tooManyDigits_iff {name : String} {line : Int}
    {text : List Char} {count : Nat} :
    readArguments name line text = .error (.tooManyDigits count) ↔
      Arguments.MeetsLongNumeral text count := by
  rw [← Arguments.read_eq_tooManyDigits_iff]
  unfold readArguments
  cases Arguments.read text with
  | ok arguments => simp
  | error error => cases error <;> simp [failure]

theorem foundAt_of_readArguments_error {name : String} {line : Int}
    {text : List Char} {failure : Failure}
    (failed : readArguments name line text = .error failure) :
    failure.FoundAt line := by
  unfold readArguments at failed
  split at failed
  · cases failed
  · cases failed
    exact ⟨rfl, trivial⟩
  · cases failed
    trivial

theorem readArguments_eq_ok_iff {name : String} {line : Int}
    {text : List Char} {arguments : Arguments} :
    readArguments name line text = .ok arguments ↔
      Arguments.read text = .ok arguments := by
  unfold readArguments
  cases Arguments.read text with
  | ok found => simp
  | error error => cases error <;> simp

theorem read_of_encloses {text nameText argumentText : List Char}
    (encloses : Encloses text nameText argumentText)
    (isName : IsName (Text.trim nameText)) (line : Int) :
    read line text =
      (readArguments (String.ofList (Text.trim nameText)) line
        (Text.trim argumentText)).map
          fun arguments => ⟨String.ofList (Text.trim nameText), arguments⟩ := by
  obtain ⟨after, rfl, before, behind⟩ := encloses
  have opened := Text.splitAt?_singleton_append before
    (argumentText ++ ')' :: after)
  have closed := Text.splitAtLast?_append behind argumentText
  simp only [read, opened, readName_of_isName isName line, closed, bind,
    Except.bind]
  cases readArguments _ line (Text.trim argumentText) <;> rfl

/-- A text without a name in front of parentheses is a problem. -/
theorem read_cases (line : Int) (text : List Char) :
    (∃ problem : Problem, problem.Syntactic ∧
      read line text = .error (failure line problem)) ∨
    ∃ nameText argumentText, Encloses text nameText argumentText ∧
      IsName (Text.trim nameText) := by
  cases opened : Text.splitAt? ['('] text with
  | none =>
      refine .inl ⟨.missingParenthesis (String.ofList text), trivial, ?_⟩
      simp only [read, opened]
      rfl
  | some parts =>
      obtain ⟨nameText, rest⟩ := parts
      obtain ⟨cut, before⟩ := Text.eq_append_of_splitAt?_singleton opened
      by_cases isName : IsName (Text.trim nameText)
      · cases closed : Text.splitAtLast? ')' rest with
        | none =>
            let name := String.ofList (Text.trim nameText)
            refine .inl ⟨.unclosedParenthesis name, trivial, ?_⟩
            simp only [read, opened, readName_of_isName isName line, closed]
            rfl
        | some others =>
            obtain ⟨argumentText, after⟩ := others
            obtain ⟨inner, behind⟩ := Text.eq_append_of_splitAtLast? closed
            rw [inner] at cut
            exact .inr ⟨nameText, argumentText, ⟨after, cut, before, behind⟩,
              isName⟩
      · obtain ⟨problem, syntactic, named⟩ :=
          readName_of_not_isName isName line
        refine .inl ⟨problem, syntactic, ?_⟩
        simp only [read, opened, named]
        rfl

theorem foundAt_of_read_error {line : Int} {text : List Char}
    {failure : Failure} (failed : read line text = .error failure) :
    failure.FoundAt line := by
  rcases read_cases line text with
    ⟨problem, syntactic, same⟩ | ⟨nameText, argumentText, encloses, isName⟩
  · rw [failed] at same
    cases same
    exact ⟨rfl, syntactic⟩
  · have same := read_of_encloses encloses isName line
    exact foundAt_of_readArguments_error
      (eq_error_of_map_eq_error (same.symm.trans failed))

theorem read_eq_tooManyDigits_iff {line : Int} {text : List Char}
    {count : Nat} :
    read line text = .error (.tooManyDigits count) ↔
      MeetsLongNumeral text count := by
  constructor
  · intro failed
    rcases read_cases line text with
      ⟨problem, _, same⟩ | ⟨nameText, argumentText, encloses, isName⟩
    · rw [failed] at same
      cases same
    · have same := read_of_encloses encloses isName line
      exact ⟨nameText, argumentText, encloses, isName,
        readArguments_eq_tooManyDigits_iff.mp
          (eq_error_of_map_eq_error (same.symm.trans failed))⟩
  · rintro ⟨nameText, argumentText, encloses, isName, meets⟩
    rw [read_of_encloses encloses isName line,
      readArguments_eq_tooManyDigits_iff.mpr meets]
    rfl

theorem Encloses.mem_paren {text nameText argumentText : List Char}
    (encloses : Encloses text nameText argumentText) : '(' ∈ text := by
  obtain ⟨after, rfl, _, _⟩ := encloses
  simp

theorem Encloses.infix {text nameText argumentText : List Char}
    (encloses : Encloses text nameText argumentText) :
    argumentText <:+: text := by
  obtain ⟨after, rfl, _, _⟩ := encloses
  exact ⟨nameText ++ ['('], ')' :: after, by simp⟩

/-- A call is read if a name stands in front of parentheses and arguments
between them. -/
theorem read_eq_ok_iff {line : Int} {text : List Char} {head : Head} :
    read line text = .ok head ↔
      ∃ nameText argumentText, Encloses text nameText argumentText ∧
        IsName (Text.trim nameText) ∧
        head.name = String.ofList (Text.trim nameText) ∧
        Arguments.read (Text.trim argumentText) = .ok head.arguments := by
  constructor
  · intro found
    rcases read_cases line text with
      ⟨problem, _, same⟩ | ⟨nameText, argumentText, encloses, isName⟩
    · rw [found] at same
      cases same
    · have same := read_of_encloses encloses isName line
      obtain ⟨arguments, read, rfl⟩ :=
        exists_of_map_eq_ok (same.symm.trans found)
      exact ⟨nameText, argumentText, encloses, isName, rfl,
        readArguments_eq_ok_iff.mp read⟩
  · rintro ⟨nameText, argumentText, encloses, isName, named, read⟩
    rw [read_of_encloses encloses isName line,
      readArguments_eq_ok_iff.mpr read, ← named]
    rfl

/-- The line is for failures only. -/
theorem read_of_line {line : Int} {text : List Char} {head : Head}
    (found : read line text = .ok head) (other : Int) :
    read other text = .ok head :=
  read_eq_ok_iff.mpr (read_eq_ok_iff.mp found)

/-- A name, and arguments that stand in the text. -/
theorem writtenIn_of_read {line : Int} {text : List Char} {head : Head}
    (found : read line text = .ok head) :
    IsName head.name.toList ∧ ∃ argumentText, argumentText <:+: text ∧
      head.arguments.WrittenIn argumentText := by
  obtain ⟨nameText, argumentText, encloses, isName, named, read⟩ :=
    read_eq_ok_iff.mp found
  refine ⟨by simpa [named] using isName, _, ?_,
    Arguments.writtenIn_of_read read⟩
  exact (Text.trim_infix argumentText).trans encloses.infix

end Head

end Shortcode
