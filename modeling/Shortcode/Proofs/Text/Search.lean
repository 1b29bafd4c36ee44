import Mathlib.Data.List.Infix
import Mathlib.Data.List.TakeWhile
import Mathlib.Order.Bounds.Basic
import Shortcode.Text.Blank
import Shortcode.Text.Search

/-!
# Searching and trimming

A search is described by the place where it stops: the text is cut there, and
nothing that was looked for stands further to the left.
-/

namespace Shortcode.Text

theorem dropLead?_eq_some_iff {lead text rest : List Char} :
    dropLead? lead text = some rest ↔ text = lead ++ rest := by
  induction lead generalizing text with
  | nil => simp [dropLead?]
  | cons expected lead induction =>
      cases text with
      | nil => simp [dropLead?]
      | cons char text =>
          by_cases same : expected = char
          · simp [dropLead?, same, induction]
          · have different : char ≠ expected := Ne.symm same
            simp [dropLead?, same, different]

@[simp] theorem dropLead?_append (lead rest : List Char) :
    dropLead? lead (lead ++ rest) = some rest :=
  dropLead?_eq_some_iff.mpr rfl

theorem dropLead?_eq_none_iff {lead text : List Char} :
    dropLead? lead text = none ↔ ¬ lead <+: text := by
  rw [Option.eq_none_iff_forall_not_mem]
  constructor
  · rintro missing ⟨rest, rfl⟩
    exact missing rest (dropLead?_append lead rest)
  · intro different rest found
    exact different ⟨rest, (dropLead?_eq_some_iff.mp found).symm⟩

@[simp] theorem lineEnds_nil : lineEnds [] = 0 := rfl

@[simp] theorem lineEnds_append (before after : List Char) :
    lineEnds (before ++ after) = lineEnds before + lineEnds after :=
  List.count_append

@[simp] theorem lineEnds_reverse (text : List Char) :
    lineEnds text.reverse = lineEnds text :=
  List.count_reverse

theorem lineEnds_cons (char : Char) (rest : List Char) :
    lineEnds (char :: rest) = lineEnds rest + if char = '\n' then 1 else 0 := by
  simp [lineEnds, List.count_cons]

/-! ## The longest start of a class -/

section Stretch

variable {member : Char → Bool} {text before rest : List Char}

theorem eq_false_of_head?_dropWhile {char : Char}
    (first : char ∈ (text.dropWhile member).head?) : member char = false := by
  have stopped := List.head?_dropWhile_not member text
  rw [first] at stopped
  simpa using stopped

/-- A text can be cut where the characters of a class at its start are over. -/
theorem exists_stretch (member : Char → Bool) (text : List Char) :
    ∃ before rest, text = before ++ rest ∧
      (∀ char ∈ before, member char = true) ∧
      ∀ char ∈ rest.head?, member char = false :=
  ⟨text.takeWhile member, text.dropWhile member,
    List.takeWhile_append_dropWhile.symm, fun _ => List.mem_takeWhile_imp,
    fun _ => eq_false_of_head?_dropWhile⟩

theorem takeWhile_append_of_stops
    (inside : ∀ char ∈ before, member char = true)
    (stops : ∀ char ∈ rest.head?, member char = false) :
    (before ++ rest).takeWhile member = before := by
  rw [List.takeWhile_append_of_pos inside]
  cases rest with
  | nil => simp
  | cons char rest => simp [stops char rfl]

theorem dropWhile_append_of_stops
    (inside : ∀ char ∈ before, member char = true)
    (stops : ∀ char ∈ rest.head?, member char = false) :
    (before ++ rest).dropWhile member = rest := by
  rw [List.dropWhile_append_of_pos inside]
  cases rest with
  | nil => rfl
  | cons char rest => simp [stops char rfl]

end Stretch

/-! ## Trimming -/

/-- Every character separates words. -/
def AllBlank (text : List Char) : Prop := ∀ char ∈ text, isBlank char = true

theorem allBlank_nil : AllBlank [] := by
  rintro char ⟨⟩

theorem exists_trim (text : List Char) :
    ∃ before after, AllBlank before ∧ AllBlank after ∧
      text = before ++ trim text ++ after := by
  let inner := trimStart text
  refine ⟨text.takeWhile isBlank,
    (inner.reverse.takeWhile isBlank).reverse, ?_, ?_, ?_⟩
  · intro char member
    exact List.mem_takeWhile_imp member
  · intro char member
    exact List.mem_takeWhile_imp (List.mem_reverse.mp member)
  · calc
      text = text.takeWhile isBlank ++ inner :=
        List.takeWhile_append_dropWhile.symm
      _ = text.takeWhile isBlank ++ (inner.reverse.takeWhile isBlank ++
            inner.reverse.dropWhile isBlank).reverse := by
        rw [List.takeWhile_append_dropWhile, List.reverse_reverse]
      _ = text.takeWhile isBlank ++ trim text ++
            (inner.reverse.takeWhile isBlank).reverse := by
        rw [List.reverse_append, ← List.append_assoc]
        rfl

theorem trim_append {before word after : List Char}
    (blankBefore : AllBlank before) (blankAfter : AllBlank after)
    (first : ∀ char ∈ word.head?, isBlank char = false)
    (last : ∀ char ∈ word.getLast?, isBlank char = false)
    (nonempty : word ≠ []) : trim (before ++ word ++ after) = word := by
  have started : trimStart (before ++ word ++ after) = word ++ after := by
    rw [trimStart, List.append_assoc]
    refine dropWhile_append_of_stops blankBefore ?_
    rwa [List.head?_append_of_ne_nil _ nonempty]
  have ended : (after.reverse ++ word.reverse).dropWhile isBlank =
      word.reverse := by
    refine dropWhile_append_of_stops ?_ ?_
    · intro char member
      exact blankAfter char (List.mem_reverse.mp member)
    · simpa using last
  rw [trim, started, trimEnd, dropEndWhile, List.reverse_append, ended,
    List.reverse_reverse]

/-- A word that starts and ends with visible characters is what trimming
leaves exactly of the texts with blanks around it. -/
theorem trim_eq_iff {text word : List Char} (nonempty : word ≠ [])
    (first : ∀ char ∈ word.head?, isBlank char = false)
    (last : ∀ char ∈ word.getLast?, isBlank char = false) :
    trim text = word ↔ ∃ before after, AllBlank before ∧ AllBlank after ∧
      text = before ++ word ++ after := by
  constructor
  · intro trimmed
    obtain ⟨before, after, blankBefore, blankAfter, cut⟩ := exists_trim text
    exact ⟨before, after, blankBefore, blankAfter, trimmed ▸ cut⟩
  · rintro ⟨before, after, blankBefore, blankAfter, rfl⟩
    exact trim_append blankBefore blankAfter first last nonempty

theorem trim_append_of_visible {before word after : List Char}
    (blankBefore : AllBlank before) (blankAfter : AllBlank after)
    (visible : ∀ char ∈ word, isBlank char = false) (nonempty : word ≠ []) :
    trim (before ++ word ++ after) = word := by
  refine trim_append blankBefore blankAfter ?_ ?_ nonempty
  · exact fun char first => visible char (List.mem_of_mem_head? first)
  · exact fun char last => visible char (List.mem_of_mem_getLast? last)

/-- No blank stands at either end. -/
def Trimmed (text : List Char) : Prop :=
  (∀ char ∈ text.head?, isBlank char = false) ∧
    ∀ char ∈ text.getLast?, isBlank char = false

theorem trimmed_trim (text : List Char) : Trimmed (trim text) := by
  constructor
  · intro char first
    -- What is left of the end is a prefix, so it has the same first character.
    obtain ⟨rest, cut⟩ : trim text <+: trimStart text := by
      have suffix := List.dropWhile_suffix isBlank (l := (trimStart text).reverse)
      simpa [trim, trimEnd, dropEndWhile] using List.reverse_prefix.mpr suffix
    have nonempty : trim text ≠ [] := by
      intro empty
      rw [empty] at first
      cases first
    have there : char ∈ (trimStart text).head? := by
      rwa [← cut, List.head?_append_of_ne_nil _ nonempty]
    exact eq_false_of_head?_dropWhile there
  · intro char last
    rw [trim, trimEnd, dropEndWhile, List.getLast?_reverse] at last
    exact eq_false_of_head?_dropWhile last

theorem trim_infix (text : List Char) : trim text <:+: text := by
  obtain ⟨before, after, _, _, cut⟩ := exists_trim text
  exact ⟨before, after, cut.symm⟩

/-! ## Splitting -/

theorem splitAt?_cons_of_ne {mark char : Char} (different : char ≠ mark)
    (rest : List Char) :
    splitAt? [mark] (char :: rest) =
      (splitAt? [mark] rest).map fun (before, after) => (char :: before, after) := by
  simp [splitAt?, dropLead?, Ne.symm different]

theorem splitAt?_singleton_append {mark : Char} {before : List Char}
    (absent : mark ∉ before) (after : List Char) :
    splitAt? [mark] (before ++ mark :: after) = some (before, after) := by
  induction before with
  | nil => simp [splitAt?, dropLead?]
  | cons char before induction =>
      obtain ⟨different, others⟩ := not_or.mp (mt List.mem_cons.mpr absent)
      rw [List.cons_append, splitAt?_cons_of_ne (Ne.symm different),
        induction others]
      rfl

theorem eq_append_of_splitAt?_singleton {mark : Char}
    {text before after : List Char}
    (split : splitAt? [mark] text = some (before, after)) :
    text = before ++ mark :: after ∧ mark ∉ before := by
  induction text generalizing before with
  | nil => cases split
  | cons char rest induction =>
      by_cases same : char = mark
      · subst same
        simp only [splitAt?, dropLead?, beq_self_eq_true, if_true,
          Option.some.injEq, Prod.mk.injEq] at split
        obtain ⟨rfl, rfl⟩ := split
        exact ⟨rfl, List.not_mem_nil⟩
      · rw [splitAt?_cons_of_ne same] at split
        obtain ⟨⟨inner, last⟩, found, equal⟩ := Option.map_eq_some_iff.mp split
        cases equal
        obtain ⟨cut, absent⟩ := induction found
        refine ⟨congrArg (char :: ·) cut, ?_⟩
        simp [Ne.symm same, absent]

theorem splitAtLast?_eq_none_iff {mark : Char} {text : List Char} :
    splitAtLast? mark text = none ↔ mark ∉ text := by
  induction text with
  | nil => simp [splitAtLast?]
  | cons char rest induction =>
      rw [splitAtLast?]
      cases later : splitAtLast? mark rest with
      | some parts =>
          have present : mark ∈ rest := by
            by_contra absent
            rw [induction.mpr absent] at later
            cases later
          simp [present]
      | none =>
          have absent := induction.mp later
          simp [absent, eq_comm (a := mark)]

theorem eq_append_of_splitAtLast? {mark : Char} {text before after : List Char}
    (split : splitAtLast? mark text = some (before, after)) :
    text = before ++ mark :: after ∧ mark ∉ after := by
  induction text generalizing before with
  | nil => cases split
  | cons char rest induction =>
      rw [splitAtLast?] at split
      split at split
      · rename_i found
        cases split
        obtain ⟨cut, absent⟩ := induction found
        exact ⟨congrArg (char :: ·) cut, absent⟩
      · rename_i missing
        split at split
        · rename_i same
          cases split
          obtain rfl : char = mark := by simpa using same
          exact ⟨rfl, splitAtLast?_eq_none_iff.mp missing⟩
        · cases split

theorem splitAtLast?_append {mark : Char} {after : List Char}
    (absent : mark ∉ after) (before : List Char) :
    splitAtLast? mark (before ++ mark :: after) = some (before, after) := by
  induction before with
  | nil => simp [splitAtLast?, splitAtLast?_eq_none_iff.mpr absent]
  | cons char before induction => simp [splitAtLast?, induction]

/-! ## Line ends -/

/-- A text without carriage returns is read with the line ends that it has. -/
theorem unixLines_of_notMem {text : List Char} (absent : '\r' ∉ text) :
    unixLines text = text := by
  fun_induction unixLines text with
  | case1 => rfl
  | case2 rest induction => simp at absent
  | case3 rest follows induction => simp at absent
  | case4 char rest notPair notReturn induction =>
      rw [induction (List.not_mem_of_not_mem_cons absent)]

/-! ## Leftmost places -/

/-- What a search for the leftmost place has to answer. -/
def IsFirst (place : Nat → Prop) : Option Nat → Prop
  | some offset => IsLeast {offset | place offset} offset
  | none => ∀ offset, ¬ place offset

namespace IsFirst

variable {place : Nat → Prop} {result : Option Nat}

theorem zero (here : place 0) : IsFirst place (some 0) :=
  ⟨here, fun offset _ => Nat.zero_le offset⟩

/-- A search goes on behind places that are ruled out. -/
theorem map_add {near : Nat → Prop} {distance : Nat}
    (absent : ∀ offset < distance, ¬ place offset)
    (shift : ∀ offset, place (distance + offset) ↔ near offset)
    (first : IsFirst near result) :
    IsFirst place (result.map (· + distance)) := by
  have behind : ∀ offset, place offset → ∃ further,
      offset = distance + further ∧ near further := by
    intro offset there
    have far : distance ≤ offset := by
      by_contra before
      exact absent offset (Nat.lt_of_not_le before) there
    obtain ⟨further, rfl⟩ := Nat.exists_eq_add_of_le far
    exact ⟨further, rfl, (shift further).mp there⟩
  cases result with
  | none =>
      intro offset there
      obtain ⟨further, _, close⟩ := behind offset there
      exact first further close
  | some least =>
      rw [Option.map_some, Nat.add_comm]
      refine ⟨(shift least).mpr first.1, ?_⟩
      intro offset there
      obtain ⟨further, rfl, close⟩ := behind offset there
      exact Nat.add_le_add_left (first.2 close) distance

theorem eq_some_iff (first : IsFirst place result) {offset : Nat} :
    result = some offset ↔ IsLeast {offset | place offset} offset := by
  constructor
  · rintro rfl
    exact first
  · intro least
    cases result with
    | none => exact absurd least.1 (first offset)
    | some found => exact congrArg some (first.unique least)

theorem eq_none_iff (first : IsFirst place result) :
    result = none ↔ ∀ offset, ¬ place offset := by
  constructor
  · rintro rfl
    exact first
  · intro absent
    cases result with
    | none => rfl
    | some found => exact absurd first.1 (absent found)

end IsFirst

end Shortcode.Text
