import Shortcode.Proofs.Document.Cut

/-!
# A cursor that is told where to go

A cursor obeys two commands in any order: to search for the next delimiter, and
to go to an offset, which may be any number.  Between two commands it is
`Sound`.  A search keeps less than that on its way, since it may stand at the
start of a line in an open fence.
-/

namespace Shortcode

/-- What a cursor is told. -/
inductive Command where
  | next
  | advance (position : Int)

/-- What comes of a command. -/
inductive Answer where
  | found (delimiter : Delimiter)
  | exhausted
  | moved
  | refused

namespace Cursor

/-- The answer, and the cursor that it leaves behind.  A refused move has
counted what it was to pass when it fails to look at the last character. -/
def obey (cursor : Cursor) : Command → Answer × Cursor
  | .next =>
    match cursor.next with
    | (some shape, moved) => (.found (moved.delimiter shape), moved)
    | (none, moved) => (.exhausted, moved)
  | .advance position =>
    match cursor.advance? position with
    | some moved => (.moved, moved)
    | none => (.refused, cursor.skip (position.toNat - cursor.position))

/-- The cursor behind a row of commands. -/
def run (cursor : Cursor) (commands : List Command) : Cursor :=
  commands.foldl (fun cursor command => (cursor.obey command).2) cursor

/-- The cursor stands in the document and knows its place there. -/
structure Sound (text : List Char) (cursor : Cursor) : Prop where
  text_eq : cursor.text = text
  inside : cursor.position ≤ text.length
  line : cursor.line = 1 + Text.lineEnds (text.take cursor.position)
  lineStart : cursor.atLineStart = true →
    cursor.position = 0 ∨ text[cursor.position - 1]? = some '\n'
  fence : cursor.fence ≠ none → cursor.position = text.length

/-- The answer to a command that took the cursor from one place to the other. -/
def Justified (text : List Char) (command : Command) (cursor moved : Cursor) :
    Answer → Prop
  | .found delimiter => delimiter.start = moved.position ∧
      ['{', '{', delimiter.shape.mark] <+: text.drop delimiter.start ∧
      delimiter.line = moved.line ∧
      moved.obey .next = (.found delimiter, moved)
  | .exhausted => moved.position = text.length
  | .moved => ∃ position, command = .advance position ∧
      (moved.position : Int) =
        max (cursor.position : Int) (min position (text.length : Int))
  | .refused => text = [] ∧ moved.position = cursor.position ∧
      moved.line = cursor.line

/-- What is true of one command. -/
structure Obeys (text : List Char) (cursor : Cursor) (command : Command) :
    Prop where
  sound : (cursor.obey command).2.Sound text
  forward : cursor.position ≤ (cursor.obey command).2.position
  justified : Justified text command cursor (cursor.obey command).2
    (cursor.obey command).1

/-! ## On the way of a search -/

/-- A line starts at the start of the document or behind a line end. -/
def Fresh (cursor : Cursor) : Prop :=
  cursor.atLineStart = true →
    cursor.before = [] ∨ cursor.before.head? = some '\n'

/-- In an open fence only the start of a line is looked at. -/
def Watched (cursor : Cursor) : Prop :=
  cursor.fence ≠ none → cursor.atLineStart = true ∨ cursor.rest = []

theorem length_text (cursor : Cursor) :
    cursor.text.length = cursor.position + cursor.rest.length := by
  simp [text, position]

theorem take_position_text (cursor : Cursor) :
    cursor.text.take cursor.position = cursor.before.reverse := by
  simp [text, position]

theorem drop_position_text (cursor : Cursor) :
    cursor.text.drop cursor.position = cursor.rest := by
  simp [text, position]

theorem lineStart_iff {cursor : Cursor} :
    (cursor.position = 0 ∨ cursor.text[cursor.position - 1]? = some '\n') ↔
      (cursor.before = [] ∨ cursor.before.head? = some '\n') := by
  cases written : cursor.before with
  | nil => simp [position, written]
  | cons char before => simp [position, text, written]

theorem sound_iff {text : List Char} {cursor : Cursor} :
    cursor.Sound text ↔ cursor.text = text ∧ cursor.Lined ∧ cursor.Fresh ∧
      (cursor.fence ≠ none → cursor.rest = []) := by
  constructor
  · rintro ⟨rfl, _, line, lineStart, fence⟩
    refine ⟨rfl, ?_, fun start => lineStart_iff.mp (lineStart start), ?_⟩
    · rwa [take_position_text, Text.lineEnds_reverse] at line
    · intro inFence
      have ended := fence inFence
      rw [length_text] at ended
      exact List.length_eq_zero_iff.mp (by omega)
  · rintro ⟨rfl, lined, fresh, fence⟩
    refine ⟨rfl, ?_, ?_, fun start => lineStart_iff.mpr (fresh start), ?_⟩
    · rw [length_text]
      exact Nat.le_add_right _ _
    · rwa [take_position_text, Text.lineEnds_reverse]
    · intro inFence
      rw [length_text, fence inFence]
      rfl

/-- Behind a whole line stands its line end, unless the document is over. -/
theorem take_lineLength {text : List Char} (nonempty : text ≠ []) :
    (lineLength text = text.length ∧
      lineLength text = (firstLine text).length) ∨
    (text.take (lineLength text) = firstLine text ++ ['\n'] ∧
      lineLength text = (firstLine text).length + 1) := by
  obtain ⟨_, ⟨whole, _, counted⟩ | ⟨rest, cut, counted⟩⟩ :=
    startsWithLine_firstLine nonempty
  · exact .inl ⟨counted.trans (congrArg List.length whole).symm, counted⟩
  · refine .inr ⟨?_, counted⟩
    calc
      text.take (lineLength text) =
          (firstLine text ++ '\n' :: rest).take
            ((firstLine text).length + 1) := by
        rw [← cut, counted]
      _ = firstLine text ++ ['\n'] := List.take_length_add_append 1

theorem Step.fresh {cursor moved : Cursor} (step : Step cursor moved) :
    moved.Fresh := by
  cases step with
  | fenced nonempty _ skipped =>
      obtain ⟨fence, rfl, _⟩ := exists_eq_skipLine skipped
      intro start
      rcases take_lineLength nonempty with ⟨_, counted⟩ | ⟨passed, _⟩
      · simp [skipLine, counted] at start
      · right
        simp [skipLine, skip, passed]
  | prose => rintro ⟨⟩
  | lineEnd inside remaining =>
      intro _
      right
      simp [newLine, skip, remaining]
  | code inside =>
      intro start
      cases inside.symm.trans start
  | char inside =>
      intro start
      cases inside.symm.trans start

theorem Step.watched {cursor moved : Cursor} (step : Step cursor moved)
    (watched : cursor.Watched) : moved.Watched := by
  cases step with
  | fenced nonempty _ skipped =>
      obtain ⟨fence, rfl, _⟩ := exists_eq_skipLine skipped
      intro _
      rcases take_lineLength nonempty with ⟨counted, _⟩ | ⟨_, counted⟩
      · right
        simp [skipLine, skip, counted]
      · left
        simp [skipLine, counted]
  | prose _ _ skipped =>
      intro inFence
      exact absurd (skipFenced?_eq_none_iff.mp skipped).1 inFence
  | lineEnd => exact fun _ => .inl rfl
  | code inside remaining =>
      intro inFence
      rcases watched inFence with start | ended
      · cases inside.symm.trans start
      · cases remaining.symm.trans ended
  | char inside remaining =>
      intro inFence
      rcases watched inFence with start | ended
      · cases inside.symm.trans start
      · cases remaining.symm.trans ended

theorem run_of_search {cursor last : Cursor}
    (search : Relation.ReflTransGen Step cursor last) (fresh : cursor.Fresh)
    (watched : cursor.Watched) : last.Fresh ∧ last.Watched := by
  induction search with
  | refl => exact ⟨fresh, watched⟩
  | tail _ step induction => exact ⟨step.fresh, step.watched induction.2⟩

/-- A search ends in prose or at the end of the document. -/
theorem Sound.of_search {text : List Char} {cursor last : Cursor}
    (sound : cursor.Sound text)
    (search : Relation.ReflTransGen Step cursor last)
    (stopped : last.rest = [] ∨ last.atLineStart = false ∧ last.rest ≠ []) :
    last.Sound text ∧ cursor.position ≤ last.position := by
  obtain ⟨sameText, lined, fresh, fence⟩ := sound_iff.mp sound
  obtain ⟨passed, passes⟩ := run_passes search
  obtain ⟨lastFresh, lastWatched⟩ :=
    run_of_search search fresh fun inFence => .inr (fence inFence)
  constructor
  · refine sound_iff.mpr ⟨passes.text_eq.trans sameText, passes.lined lined,
      lastFresh, ?_⟩
    -- An open fence is left only at the start of a line, where no search stops.
    intro inFence
    rcases stopped with ended | ⟨inside, more⟩
    · exact ended
    · rcases lastWatched inFence with start | ended
      · cases inside.symm.trans start
      · exact ended
  · rw [passes.position_eq]
    exact Nat.le_add_right _ _

/-! ## One command -/

theorem Obeys.of_obey {text : List Char} {cursor moved : Cursor}
    {command : Command} {answer : Answer}
    (obeyed : cursor.obey command = (answer, moved)) (sound : moved.Sound text)
    (forward : cursor.position ≤ moved.position)
    (justified : Justified text command cursor moved answer) :
    cursor.Obeys text command := by
  constructor
  · rwa [obeyed]
  · rwa [obeyed]
  · rwa [obeyed]

theorem obeys_next {text : List Char} {cursor : Cursor}
    (sound : cursor.Sound text) : cursor.Obeys text .next := by
  obtain ⟨last, search, ⟨missing, ended⟩ | ⟨shape, found, inside, opens⟩⟩ :=
    cursor.next_run
  · obtain ⟨lastSound, forward⟩ := sound.of_search search (.inl ended)
    have obeyed : cursor.obey .next = (.exhausted, last) := by
      simp [obey, missing]
    have whole := length_text last
    rw [lastSound.text_eq, ended] at whole
    exact .of_obey obeyed lastSound forward whole.symm
  · have more : last.rest ≠ [] := by
      obtain ⟨rest, written⟩ := opens
      simp [← written, Shape.opener_eq]
    obtain ⟨lastSound, forward⟩ :=
      sound.of_search search (.inr ⟨inside, more⟩)
    have obeyed : cursor.obey .next = (.found (last.delimiter shape), last) := by
      simp [obey, found]
    have again : last.obey .next = (.found (last.delimiter shape), last) := by
      simp [obey, next_of_opener inside opens]
    have behind := drop_position_text last
    rw [lastSound.text_eq] at behind
    rw [Shape.opener_eq] at opens
    exact .of_obey obeyed lastSound forward ⟨rfl, behind ▸ opens, rfl, again⟩

theorem position_jump (cursor : Cursor) (count : Nat) :
    (cursor.jump count).position =
      cursor.position + min count cursor.rest.length := by
  rw [(cursor.passes_jump count).position_eq, List.length_take]

theorem Sound.jump {text : List Char} {cursor : Cursor}
    (sound : cursor.Sound text) (count : Nat) :
    (cursor.jump count).Sound text := by
  obtain ⟨sameText, lined, _, fence⟩ := sound_iff.mp sound
  have passes := cursor.passes_jump count
  refine sound_iff.mpr
    ⟨passes.text_eq.trans sameText, passes.lined lined, ?_, ?_⟩
  · intro start
    have lineEnd : ((cursor.jump count).before.head? == some '\n') = true := start
    exact .inr (eq_of_beq lineEnd)
  · intro inFence
    have ended : cursor.rest = [] := fence inFence
    have passed := passes.rest
    rw [ended] at passed
    exact (List.append_eq_nil_iff.mp passed.symm).2

theorem skip_of_rest_eq_nil {cursor : Cursor} (ended : cursor.rest = [])
    (count : Nat) : cursor.skip count = cursor := by
  obtain ⟨before, rest, line, atLineStart, fence⟩ := cursor
  obtain rfl : rest = [] := ended
  simp [skip]

theorem obeys_advance {text : List Char} {cursor : Cursor}
    (sound : cursor.Sound text) (position : Int) :
    cursor.Obeys text (.advance position) := by
  have whole := length_text cursor
  rw [sound.text_eq] at whole
  by_cases behind : position ≤ cursor.position
  · have obeyed : cursor.obey (.advance position) = (.moved, cursor) := by
      simp [obey, advance?, behind]
    refine .of_obey obeyed sound le_rfl ⟨position, rfl, ?_⟩
    omega
  · by_cases empty : cursor.before = [] ∧ cursor.rest = []
    · have obeyed : cursor.obey (.advance position) = (.refused, cursor) := by
        simp [obey, advance?, behind, empty, skip_of_rest_eq_nil empty.2]
      have noText : text = [] := by
        rw [← sound.text_eq, Cursor.text, empty.1, empty.2]
        rfl
      exact .of_obey obeyed sound le_rfl ⟨noText, rfl, rfl⟩
    · have obeyed : cursor.obey (.advance position) =
          (.moved, cursor.jump (position.toNat - cursor.position)) := by
        simp [obey, advance?, behind, empty]
      refine .of_obey obeyed (sound.jump _) (cursor.position_jump_le _)
        ⟨position, rfl, ?_⟩
      rw [position_jump]
      omega

/-- A cursor that is sound obeys, and stays sound. -/
theorem obeys_of_sound {text : List Char} {cursor : Cursor}
    (sound : cursor.Sound text) (command : Command) :
    cursor.Obeys text command := by
  cases command with
  | next => exact obeys_next sound
  | advance position => exact obeys_advance sound position

theorem sound_ofText (text : List Char) : (ofText text).Sound text := by
  refine sound_iff.mpr ⟨rfl, rfl, fun _ => .inl rfl, ?_⟩
  intro inFence
  exact absurd rfl inFence

theorem Sound.run {text : List Char} {cursor : Cursor}
    (sound : cursor.Sound text) (commands : List Command) :
    (cursor.run commands).Sound text := by
  induction commands generalizing cursor with
  | nil => exact sound
  | cons command commands induction =>
      exact induction (obeys_of_sound sound command).sound

end Cursor

/-- Whatever a new cursor has been told, it knows its place, and what it is told
next it answers truly. -/
theorem sound_and_obeys_of_run (text : List Char) (commands : List Command) :
    ((Cursor.ofText text).run commands).Sound text ∧
      ∀ command, ((Cursor.ofText text).run commands).Obeys text command := by
  have sound := (Cursor.sound_ofText text).run commands
  exact ⟨sound, Cursor.obeys_of_sound sound⟩

end Shortcode
