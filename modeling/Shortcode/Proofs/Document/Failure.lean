import Shortcode.Proofs.Document.Printing
import Shortcode.Proofs.Document.Moves

/-!
# Documents that cannot be read

A reader fails at the delimiter that it has come to, with a problem on the line
of the delimiter.  There is one failure without a place: a whole number whose
digits are too many to be converted.
-/

namespace Shortcode

/-- A tag that cannot be read is a call that cannot, or opens a body that does
not end. -/
theorem exists_of_readTag_error {shape : Shape} {line : Int}
    {text : List Char} {failure : Failure}
    (failed : readTag shape line text = .error failure) :
    ∃ content rest, text = content ++ (shape.closer ++ rest) ∧
      '\n' ∉ content ∧ ¬ shape.closer <:+: content ∧
      (Head.read line (Text.trim content) = .error failure ∨
        ∃ name, failure = .fault ⟨line, .unclosedBody name⟩) := by
  cases readTag_eq_iff.mp failed with
  | failed split _ headFailed =>
      obtain ⟨cut, single, absent⟩ := splitAtCloser?_eq_some_iff.mp split
      exact ⟨_, _, cut, single, absent, .inl headFailed⟩
  | body split _ _ found =>
      obtain ⟨cut, single, absent⟩ := splitAtCloser?_eq_some_iff.mp split
      exact ⟨_, _, cut, single, absent,
        .inr ⟨_, eq_of_readBody_error found⟩⟩

theorem foundAt_of_readTag_error {shape : Shape} {line : Int}
    {text : List Char} {failure : Failure}
    (failed : readTag shape line text = .error failure) :
    failure.FoundAt line := by
  obtain ⟨content, rest, _, _, _, headFailed | ⟨name, rfl⟩⟩ :=
    exists_of_readTag_error failed
  · exact Head.foundAt_of_read_error headFailed
  · exact ⟨rfl, trivial⟩

theorem readTag_eq_tooManyDigits_iff {shape : Shape} {line : Int}
    {text : List Char} {count : Nat} :
    readTag shape line text = .error (.tooManyDigits count) ↔
      ∃ content rest, text = content ++ (shape.closer ++ rest) ∧
        '\n' ∉ content ∧ ¬ shape.closer <:+: content ∧
        Head.MeetsLongNumeral (Text.trim content) count := by
  constructor
  · intro failed
    obtain ⟨content, rest, cut, single, absent, headFailed | ⟨name, same⟩⟩ :=
      exists_of_readTag_error failed
    · exact ⟨content, rest, cut, single, absent,
        Head.read_eq_tooManyDigits_iff.mp headFailed⟩
    · cases same
  · rintro ⟨content, rest, rfl, single, absent, meets⟩
    have split := splitAtCloser?_append single absent rest
    have headFailed : Head.read line (Text.trim content) =
        .error (.tooManyDigits count) :=
      Head.read_eq_tooManyDigits_iff.mpr meets
    -- A call has a parenthesis, so it is not taken for a stray end tag.
    have notEnd : Text.trim content ≠ endWord := by
      obtain ⟨nameText, _, encloses, _⟩ := meets
      intro ends
      exact absurd (ends ▸ encloses.mem_paren) (by decide)
    exact ReadsTag.eq (.failed split (fun _ => notEnd) headFailed)

namespace Cursor

/-- A reader of calls comes from the one place to the other. -/
def Reaches : Cursor → Cursor → Prop :=
  Relation.ReflTransGen fun cursor moved => ∃ first, Move cursor first moved

theorem Reaches.passes {cursor last : Cursor} (reaches : cursor.Reaches last) :
    ∃ passed, cursor.Passes passed last := by
  induction reaches with
  | refl => exact ⟨[], .refl cursor⟩
  | tail _ move induction =>
      obtain ⟨first, move⟩ := move
      obtain ⟨early, before⟩ := induction
      obtain ⟨late, behind⟩ := move.passes
      exact ⟨early ++ late, before.trans behind⟩

theorem reaches_of_next {cursor moved : Cursor} {shape : Shape}
    (found : cursor.next = (some shape, moved)) :
    cursor.Reaches moved ∧ moved.atLineStart = false ∧
      shape.opener <+: moved.rest := by
  obtain ⟨run, place⟩ := run_of_next found
  have moves : ∀ early late, Step early late → ∃ first, Move early first late :=
    fun _ _ step => ⟨[], .search step⟩
  exact ⟨Relation.ReflTransGen.mono moves _ _ run, place⟩

/-- No fence opens at a delimiter, so one at the start of a document is found.
-/
theorem find?_ofText_of_opener {text : List Char} {shape : Shape}
    (opens : shape.opener <+: text) :
    (ofText text).find? = some (shape, (ofText text).behind 0 false) := by
  have noFence : ¬ OpensFence ([] ++ text) := by
    refine not_opensFence_append (.inr ⟨shape, opens⟩) List.not_mem_nil ?_
    simp [tildes]
  exact find?_of_opener_of_not_opensFence rfl opens fun _ => noFence

/-- A reader that fails does so at a delimiter to which it has come. -/
theorem exists_reaches_of_calls_error {cursor : Cursor} {failure : Failure}
    (failed : cursor.calls = .error failure) :
    ∃ (last : Cursor) (shape : Shape), cursor.Reaches last ∧
      last.atLineStart = false ∧ shape.opener <+: last.rest ∧
      readTag shape last.line (last.rest.drop 3) = .error failure := by
  fun_induction calls cursor with
  | case1 => cases failed
  | case2 cursor shape moved next other read =>
      cases failed
      obtain ⟨reaches, inside, opens⟩ := reaches_of_next next
      exact ⟨moved, shape, reaches, inside, opens, read⟩
  | case3 cursor shape moved next reading read induction =>
      -- What is found at the first delimiter is passed over by one more move.
      obtain ⟨early, inside, opens⟩ := reaches_of_next next
      obtain ⟨last, other, late, place⟩ :=
        induction (eq_error_of_map_eq_error failed)
      have passed := early.tail ⟨_, Move.read inside opens read⟩
      exact ⟨last, other, passed.trans late, place⟩

theorem Reaches.calls_error {cursor last : Cursor}
    (reaches : cursor.Reaches last) {failure : Failure}
    (failed : last.calls = .error failure) : cursor.calls = .error failure := by
  induction reaches using Relation.ReflTransGen.head_induction_on with
  | refl => exact failed
  | head move _ induction =>
      obtain ⟨first, move⟩ := move
      rw [move.calls_eq, induction]
      rfl

end Cursor

/-! ## Which failures are reported -/

/-- The reader comes to a call with a whole number of so many digits, more than
are ever converted. -/
def MeetsLongNumeral (text : List Char) (count : Nat) : Prop :=
  ∃ (last : Cursor) (shape : Shape) (content rest : List Char),
    (Cursor.ofText text).Reaches last ∧ last.atLineStart = false ∧
    last.rest = shape.opener ++ (content ++ (shape.closer ++ rest)) ∧
    '\n' ∉ content ∧ ¬ shape.closer <:+: content ∧
    Head.MeetsLongNumeral (Text.trim content) count

theorem calls_eq_tooManyDigits_iff {text : List Char} {count : Nat} :
    calls text = .error (.tooManyDigits count) ↔
      MeetsLongNumeral text count := by
  constructor
  · intro failed
    obtain ⟨last, shape, reaches, inside, ⟨after, opens⟩, tagFailed⟩ :=
      Cursor.exists_reaches_of_calls_error failed
    rw [← opens, List.drop_left' shape.length_opener] at tagFailed
    obtain ⟨content, rest, rfl, tag⟩ :=
      readTag_eq_tooManyDigits_iff.mp tagFailed
    exact ⟨last, shape, content, rest, reaches, inside, opens.symm, tag⟩
  · rintro ⟨last, shape, content, rest, reaches, inside, cut, tag⟩
    have opens : shape.opener <+: last.rest := ⟨_, cut.symm⟩
    have tagFailed : readTag shape last.line (last.rest.drop 3) =
        .error (.tooManyDigits count) := by
      rw [cut, List.drop_left' shape.length_opener]
      exact readTag_eq_tooManyDigits_iff.mpr ⟨content, rest, rfl, tag⟩
    exact reaches.calls_error
      (Cursor.calls_of_readTag_error (Cursor.find?_of_opener inside opens)
        tagFailed)

/-- There is a result, or a problem to report. -/
def Reported {α : Type} (answer : Except Failure α) : Prop :=
  (∃ result, answer = .ok result) ∨
    ∃ fault, answer = .error (.fault fault) ∧ fault.problem.Syntactic

theorem reported_iff {α : Type} {answer : Except Failure α} {meets : Nat → Prop}
    (found : ∀ failure, answer = .error failure → ∃ line, failure.FoundAt line)
    (long : ∀ count, answer = .error (.tooManyDigits count) ↔ meets count) :
    Reported answer ↔ ¬ ∃ count, meets count := by
  rw [← exists_congr long]
  cases answer with
  | ok result => simp [Reported]
  | error failure =>
      obtain ⟨line, place⟩ := found failure rfl
      cases failure with
      | fault located =>
          have syntactic : located.problem.Syntactic := place.2
          simp [Reported, syntactic]
      | tooManyDigits count => simp [Reported]

/-- A document, the text of a call and a list of arguments are read or have a
problem that is reported, unless the reader comes to a whole number with too
many digits.  Any other numeral that stands for no number is reported with its
key. -/
theorem reported_iff_not_meetsLongNumeral (text : List Char) (name : String)
    (line : Int) :
    (Reported (calls text) ↔ ¬ ∃ count, MeetsLongNumeral text count) ∧
    (Reported (Head.read line text) ↔
      ¬ ∃ count, Head.MeetsLongNumeral text count) ∧
    (Reported (Head.readArguments name line text) ↔
      ¬ ∃ count, Arguments.MeetsLongNumeral text count) ∧
    ∀ (numeral : Numeral) (key rest : List Char), numeral.WellFormed →
      numeral.EndsBefore rest →
      Arguments.ReachesValue text key (numeral.print ++ rest) →
      numeral.Short → ¬ numeral.Convertible →
      Head.readArguments name line text = .error (.fault
        ⟨line, .argument name (String.ofList key) .invalidValue⟩) := by
  refine ⟨?_, ?_, ?_, ?_⟩
  · refine reported_iff ?_ fun count => calls_eq_tooManyDigits_iff
    intro failure failed
    obtain ⟨last, _, _, _, _, tagFailed⟩ :=
      Cursor.exists_reaches_of_calls_error failed
    exact ⟨last.line, foundAt_of_readTag_error tagFailed⟩
  · refine reported_iff ?_ fun count => Head.read_eq_tooManyDigits_iff
    exact fun failure failed => ⟨line, Head.foundAt_of_read_error failed⟩
  · refine reported_iff ?_ fun count => Head.readArguments_eq_tooManyDigits_iff
    exact fun failure failed =>
      ⟨line, Head.foundAt_of_readArguments_error failed⟩
  · intro numeral key rest wellFormed ends reaches short unfit
    have failed := Arguments.read_of_not_convertible wellFormed short unfit
      ends reaches
    simp [Head.readArguments, failed, Head.failure]

/-- The least whole number that needs more than 64 bits. -/
def wideNumeral : Numeral := ⟨false, "9223372036854775808".toList, none⟩

/-- It is the value of the second argument, with blanks around. -/
def wideList : List Char := "k=1, n = 9223372036854775808\t".toList

theorem isKey_n : IsKey ['n'] :=
  ⟨by decide, List.forall_mem_singleton.mpr (by decide)⟩

theorem reported_of_wideNumeral :
    wideNumeral.WellFormed ∧ wideNumeral.EndsBefore ['\t'] ∧
      wideNumeral.Short ∧ ¬ wideNumeral.Convertible ∧
      Arguments.ReachesValue wideList ['n'] (wideNumeral.print ++ ['\t']) ∧
      Head.readArguments "a" 3 wideList =
        .error (.fault ⟨3, .argument "a" "n" .invalidValue⟩) := by
  have wellFormed : wideNumeral.WellFormed := by
    have digits : wideNumeral.whole.all Char.isDigit = true := by decide
    refine ⟨by decide, List.all_eq_true.mp digits, ?_⟩
    rintro fraction ⟨⟩
  have ends : wideNumeral.EndsBefore ['\t'] := by
    rintro char ⟨⟩
    decide
  have short : wideNumeral.Short := fun _ => by decide
  have unfit : ¬ wideNumeral.Convertible := by
    rintro ⟨_, _, most⟩
    revert most
    decide
  have place : Arguments.ReachesValue wideList ['n']
      (wideNumeral.print ++ ['\t']) := by
    have blank : Text.AllBlank [' '] :=
      List.forall_mem_singleton.mpr (by decide)
    have first : Arguments.readPair wideList =
        .ok (("k", .int 1), ", n = 9223372036854775808\t".toList) := by
      with_unfolding_all rfl
    have behind := Arguments.Reaches.start.pair first
    exact ⟨_, [' '], [' '], isKey_n, blank, blank,
      (behind.separator (by decide)).separator (by decide)⟩
  have reported := (reported_iff_not_meetsLongNumeral wideList "a" 3).2.2.2
    wideNumeral ['n'] ['\t'] wellFormed ends place short unfit
  exact ⟨wellFormed, ends, short, unfit, place, reported⟩

/-! ## A number with too many digits -/

def ones (count : Nat) : Numeral := ⟨false, List.replicate count '1', none⟩

def onesList (count : Nat) : List Char := 'n' :: '=' :: (ones count).print

def onesCall (count : Nat) : List Char :=
  'a' :: '(' :: (onesList count ++ [')'])

/-- One call, with a number of so many digits. -/
def onesDocument (count : Nat) : List Char :=
  Shape.inline.opener ++
    ([' '] ++ onesCall count ++ [' '] ++ (Shape.inline.closer ++ []))

theorem mem_of_mem_onesCall {count : Nat} {char : Char}
    (member : char ∈ onesCall count) :
    char ∈ ['a', '(', 'n', '=', '1', ')'] := by
  simp only [onesCall, onesList, ones, Numeral.print, Numeral.unsigned,
    List.cons_append, List.mem_cons, List.mem_append, Bool.false_eq_true,
    if_false, List.mem_replicate] at member
  rcases member with rfl | rfl | rfl | rfl | ⟨_, rfl⟩ | last
  all_goals simp_all

theorem isBlank_of_mem_onesCall {count : Nat} {char : Char}
    (member : char ∈ onesCall count) : Text.isBlank char = false := by
  have visible : ['a', '(', 'n', '=', '1', ')'].all
      (fun char => !Text.isBlank char) = true := by
    decide
  simpa using List.all_eq_true.mp visible char (mem_of_mem_onesCall member)

theorem ones_wellFormed {count : Nat} (positive : 0 < count) :
    (ones count).WellFormed := by
  refine ⟨?_, ?_, ?_⟩
  · simp [ones, Numeral.print, Numeral.unsigned, Nat.ne_of_gt positive]
  · intro char member
    rw [List.eq_of_mem_replicate member]
    rfl
  · rintro fraction ⟨⟩

theorem onesList_meetsLongNumeral {count : Nat} (many : digitLimit < count) :
    Arguments.MeetsLongNumeral (onesList count) count := by
  refine ⟨ones count, ['n'], [], ones_wellFormed (Nat.zero_lt_of_lt many), ?_,
    ?_, ?_, ?_⟩
  · rintro char ⟨⟩
  · intro short
    have few := short rfl
    simp only [ones, List.length_replicate] at few
    omega
  · exact List.length_replicate
  · rw [List.append_nil]
    exact ⟨[], [], [], isKey_n, Text.allBlank_nil, Text.allBlank_nil, .start⟩

theorem onesCall_meetsLongNumeral {count : Nat} (many : digitLimit < count) :
    Head.MeetsLongNumeral (onesCall count) count := by
  have encloses : Head.Encloses (onesCall count) ['a'] (onesList count) :=
    ⟨[], rfl, by decide, List.not_mem_nil⟩
  have isName : IsName ['a'] :=
    ⟨by decide, List.forall_mem_singleton.mpr (by decide)⟩
  have trimmed : Text.trim (onesList count) = onesList count := by
    have visible : ∀ char ∈ onesList count, Text.isBlank char = false := by
      intro char member
      have inCall : char ∈ onesCall count := by simp [onesCall, member]
      exact isBlank_of_mem_onesCall inCall
    have trimmed := Text.trim_append_of_visible Text.allBlank_nil
      Text.allBlank_nil visible (List.cons_ne_nil _ _)
    rwa [List.nil_append, List.append_nil] at trimmed
  refine ⟨['a'], onesList count, encloses, isName, ?_⟩
  rw [trimmed]
  exact onesList_meetsLongNumeral many

/-- The document is well formed otherwise, and its failure names no place. -/
theorem calls_onesDocument {count : Nat} (many : digitLimit < count) :
    calls (onesDocument count) = .error (.tooManyDigits count) := by
  have chars : ∀ char ∈ [' '] ++ onesCall count ++ [' '],
      char ∈ [' ', 'a', '(', 'n', '=', '1', ')'] := by
    intro char member
    simp only [List.mem_append, List.mem_singleton] at member
    rcases member with (rfl | inside) | rfl
    · exact List.mem_cons_self
    · exact List.mem_cons_of_mem _ (mem_of_mem_onesCall inside)
    · exact List.mem_cons_self
  have single : '\n' ∉ [' '] ++ onesCall count ++ [' '] := by
    intro member
    exact absurd (chars _ member) (by decide)
  have noCloser : ¬ Shape.inline.closer <:+:
      [' '] ++ onesCall count ++ [' '] := by
    intro inside
    have member : '}' ∈ Shape.inline.closer := by decide
    exact absurd (chars _ (inside.subset member)) (by decide)
  have space : Text.AllBlank [' '] := List.forall_mem_singleton.mpr (by decide)
  have trimmed : Text.trim ([' '] ++ onesCall count ++ [' ']) = onesCall count :=
    Text.trim_append_of_visible space space
      (fun char => isBlank_of_mem_onesCall) (List.cons_ne_nil _ _)
  have tagFailed : readTag .inline (1 : Nat) ((onesDocument count).drop 3) =
      .error (.tooManyDigits count) :=
    readTag_eq_tooManyDigits_iff.mpr ⟨_, [], rfl, single, noCloser,
      trimmed.symm ▸ onesCall_meetsLongNumeral many⟩
  have opens : Shape.inline.opener <+: onesDocument count :=
    List.prefix_append _ _
  exact Cursor.calls_of_readTag_error (Cursor.find?_ofText_of_opener opens)
    tagFailed

theorem not_reported_calls : ¬ ∀ text, Reported (calls text) := by
  intro claimed
  have many : digitLimit < 4301 := by decide
  have failed := calls_onesDocument many
  rcases claimed (onesDocument 4301) with ⟨found, read⟩ | ⟨fault, other, _⟩
  · rw [failed] at read
    cases read
  · rw [failed] at other
    cases other

end Shortcode
