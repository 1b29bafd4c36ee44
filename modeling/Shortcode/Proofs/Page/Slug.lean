import Shortcode.Page.Slug
import Shortcode.Proofs.Text.Fields

/-!
# Slugs

A slug is made of words of small letters and digits, with one hyphen between two
of them.  A date in front of a name does not count, but only one: what follows it
is taken as it stands.  So a slug is its own slug, unless it starts with a date.
-/

namespace Shortcode

variable {mark : Char} {text word rest : List Char} {parts : List (List Char)}

/-! ## Parts with marks between -/

theorem joinWith_cons (nonempty : parts ≠ []) (mark : Char) (part : List Char) :
    joinWith mark (part :: parts) = part ++ mark :: joinWith mark parts := by
  cases parts with
  | nil => exact absurd rfl nonempty
  | cons next others => rfl

theorem joinWith_fields (mark : Char) (text : List Char) :
    joinWith mark (Text.fields mark text) = text := by
  induction text with
  | nil => rfl
  | cons char rest induction =>
      by_cases same : char = mark
      · subst same
        rw [Text.fields_cons_mark, joinWith_cons (Text.fields_ne_nil rest),
          induction]
        rfl
      · obtain ⟨first, others, isParts, isFields⟩ :=
          Text.exists_fields_cons same rest
        rw [isFields, ← induction, isParts]
        cases others with
        | nil => rfl
        | cons next further => rfl

theorem map_joinWith (change : Char → Char) (mark : Char)
    (parts : List (List Char)) :
    (joinWith mark parts).map change =
      joinWith (change mark) (parts.map (List.map change)) := by
  induction parts with
  | nil => rfl
  | cons part others induction =>
      cases others with
      | nil => rfl
      | cons next further =>
          simp only [joinWith, List.map_cons, List.map_append] at induction ⊢
          rw [induction]

/-! ## Dates -/

/-- A year, a month and a day stand in front of the rest, hyphens between. -/
structure IsDated (name year month day rest : List Char) : Prop where
  isYear : isNumeral year = true
  isMonth : isNumeral month = true
  isDay : isNumeral day = true
  spelled : name = year ++ '-' :: (month ++ '-' :: (day ++ '-' :: rest))

theorem isDigit_of_isNumeral {part : List Char} {char : Char}
    (numeral : isNumeral part = true) (member : char ∈ part) :
    Text.isDigit char = true :=
  List.all_eq_true.mp (Bool.and_eq_true _ _ |>.mp numeral).2 char member

theorem hyphen_notMem_of_isNumeral {part : List Char}
    (numeral : isNumeral part = true) : '-' ∉ part := by
  intro member
  have noDigit : Text.isDigit '-' = false := by decide
  rw [isDigit_of_isNumeral numeral member] at noDigit
  cases noDigit

theorem IsDated.dropDate_eq {name year month day rest : List Char}
    (dated : IsDated name year month day rest) : dropDate name = rest := by
  have isFields : Text.fields '-' name =
      year :: month :: day :: Text.fields '-' rest := by
    rw [dated.spelled, Text.fields_append, Text.fields_append,
      Text.fields_append,
      Text.fields_of_notMem (hyphen_notMem_of_isNumeral dated.isYear),
      Text.fields_of_notMem (hyphen_notMem_of_isNumeral dated.isMonth),
      Text.fields_of_notMem (hyphen_notMem_of_isNumeral dated.isDay)]
    rfl
  have joined := joinWith_fields '-' rest
  unfold dropDate
  rw [isFields]
  cases isRest : Text.fields '-' rest with
  | nil => exact absurd isRest (Text.fields_ne_nil rest)
  | cons title others =>
      rw [isRest] at joined
      simp [dated.isYear, dated.isMonth, dated.isDay, joined]

/-- Without a date in front a name is left as it is. -/
theorem dropDate_of_not_dated {name : List Char}
    (undated : ∀ year month day rest, ¬ IsDated name year month day rest) :
    dropDate name = name := by
  unfold dropDate
  split
  · rename_i year month day title others isFields
    split
    · rename_i numerals
      simp only [Bool.and_eq_true] at numerals
      obtain ⟨⟨isYear, isMonth⟩, isDay⟩ := numerals
      have spelled := joinWith_fields '-' name
      rw [isFields] at spelled
      have dated : IsDated name year month day
          (joinWith '-' (title :: others)) :=
        ⟨isYear, isMonth, isDay, spelled.symm⟩
      exact absurd dated (undated _ _ _ _)
    · rfl
  · rfl

/-! ## Words -/

section Words

variable {member : Char → Bool}

/-- The words between characters of a class. -/
inductive Parted (member : Char → Bool) : List Char → List (List Char) → Prop
  | nil : Parted member [] []
  | skip {char : Char} {rest : List Char} {parts : List (List Char)}
      (between : member char = true) (later : Parted member rest parts) :
      Parted member (char :: rest) parts
  | last {word : List Char} (nonempty : word ≠ [])
      (inside : ∀ char ∈ word, member char = false) :
      Parted member word [word]
  | word {word rest : List Char} {char : Char} {parts : List (List Char)}
      (nonempty : word ≠ []) (inside : ∀ char ∈ word, member char = false)
      (between : member char = true) (later : Parted member rest parts) :
      Parted member (word ++ char :: rest) (word :: parts)

theorem Parted.of_skip {char : Char} (between : member char = true)
    (parted : Parted member (char :: rest) parts) : Parted member rest parts := by
  generalize same : char :: rest = text at parted
  cases parted with
  | nil => cases same
  | skip _ later =>
      obtain ⟨rfl, rfl⟩ := List.cons.inj same
      exact later
  | last _ inside =>
      subst same
      rw [inside char List.mem_cons_self] at between
      cases between
  | word nonempty inside _ _ =>
      -- A word does not begin between words.
      obtain ⟨first, others, rfl⟩ := List.exists_cons_of_ne_nil nonempty
      obtain ⟨rfl, -⟩ := List.cons.inj same
      rw [inside char List.mem_cons_self] at between
      cases between

/-- A character in front of a word belongs to it. -/
theorem Parted.exists_longer {char next : Char} (outside : member char = false)
    (following : member next = false)
    (parted : Parted member (next :: rest) parts) :
    ∃ part others, parts = part :: others ∧
      Parted member (char :: next :: rest) ((char :: part) :: others) := by
  generalize same : next :: rest = text at parted
  cases parted with
  | nil => cases same
  | skip between _ =>
      obtain ⟨rfl, -⟩ := List.cons.inj same
      rw [between] at following
      cases following
  | last nonempty inside =>
      subst same
      refine ⟨_, [], rfl, .last (List.cons_ne_nil _ _) ?_⟩
      exact List.forall_mem_cons.mpr ⟨outside, inside⟩
  | word nonempty inside between later =>
      refine ⟨_, _, rfl, ?_⟩
      rw [← List.cons_append]
      refine .word (List.cons_ne_nil _ _) ?_ between later
      exact List.forall_mem_cons.mpr ⟨outside, inside⟩

theorem splitOut_of_member {char : Char} (between : member char = true)
    (rest : List Char) :
    splitOut member (char :: rest) = splitOut member rest := by
  rw [splitOut.eq_def]
  simp only [between, if_true]

theorem splitOut_before_member {char next : Char}
    (outside : member char = false) (between : member next = true)
    (rest : List Char) :
    splitOut member (char :: next :: rest) = [char] :: splitOut member rest := by
  rw [splitOut.eq_def]
  simp only [outside, Bool.false_eq_true, if_false, splitOut_of_member between]
  cases splitOut member rest with
  | nil => rfl
  | cons part others => simp only [between, if_true]

theorem splitOut_longer {char next : Char} {part : List Char}
    (outside : member char = false) (following : member next = false)
    (isParts : splitOut member (next :: rest) = part :: parts) :
    splitOut member (char :: next :: rest) = (char :: part) :: parts := by
  rw [splitOut.eq_def]
  simp only [outside, Bool.false_eq_true, if_false, following, isParts]

theorem parted_splitOut (member : Char → Bool) (text : List Char) :
    Parted member text (splitOut member text) := by
  induction text with
  | nil => exact .nil
  | cons char rest induction =>
      cases isMember : member char with
      | true =>
          rw [splitOut_of_member isMember]
          exact .skip isMember induction
      | false =>
          have alone : ∀ other ∈ [char], member other = false :=
            List.forall_mem_singleton.mpr isMember
          cases rest with
          | nil =>
              have single : splitOut member [char] = [[char]] := by
                simp [splitOut, isMember]
              rw [single]
              exact .last (List.cons_ne_nil _ _) alone
          | cons next others =>
              cases following : member next with
              | true =>
                  rw [splitOut_before_member isMember following]
                  rw [splitOut_of_member following] at induction
                  exact .word (List.cons_ne_nil _ _) alone following
                    (induction.of_skip following)
              | false =>
                  obtain ⟨part, further, isParts, longer⟩ :=
                    induction.exists_longer isMember following
                  rw [splitOut_longer isMember following isParts]
                  exact longer

theorem Parted.mem_word (parted : Parted member text parts)
    (found : word ∈ parts) :
    word ≠ [] ∧ ∀ char ∈ word, member char = false := by
  induction parted with
  | nil => cases found
  | skip _ _ induction => exact induction found
  | last nonempty inside =>
      obtain rfl := List.mem_singleton.mp found
      exact ⟨nonempty, inside⟩
  | word nonempty inside _ _ induction =>
      rcases List.mem_cons.mp found with rfl | later
      · exact ⟨nonempty, inside⟩
      · exact induction later

/-- The words take no more room than the text, a mark after each but the last. -/
theorem Parted.length_le (parted : Parted member text parts) (mark : Char) :
    (joinWith mark parts).length ≤ text.length := by
  induction parted with
  | nil => exact Nat.le_refl 0
  | skip _ _ induction => exact Nat.le_succ_of_le induction
  | last => exact Nat.le_refl _
  | @word first _ _ others _ _ _ _ induction =>
      cases others with
      | nil => simp [joinWith]
      | cons next further =>
          rw [joinWith_cons (List.cons_ne_nil _ _), List.length_append,
            List.length_append, List.length_cons, List.length_cons]
          omega

theorem splitOut_of_outside (nonempty : word ≠ [])
    (inside : ∀ char ∈ word, member char = false) :
    splitOut member word = [word] := by
  induction word with
  | nil => exact absurd rfl nonempty
  | cons char others induction =>
      obtain ⟨outside, later⟩ := List.forall_mem_cons.mp inside
      cases others with
      | nil => simp [splitOut, outside]
      | cons next further =>
          have following : member next = false := later next List.mem_cons_self
          exact splitOut_longer outside following
            (induction (List.cons_ne_nil _ _) later)

theorem splitOut_append {mark : Char} (nonempty : word ≠ [])
    (inside : ∀ char ∈ word, member char = false)
    (between : member mark = true) (rest : List Char) :
    splitOut member (word ++ mark :: rest) = word :: splitOut member rest := by
  induction word with
  | nil => exact absurd rfl nonempty
  | cons char others induction =>
      obtain ⟨outside, later⟩ := List.forall_mem_cons.mp inside
      cases others with
      | nil => exact splitOut_before_member outside between rest
      | cons next further =>
          have following : member next = false := later next List.mem_cons_self
          exact splitOut_longer outside following
            (induction (List.cons_ne_nil _ _) later)

end Words

/-! ## Slugs -/

/-- A small letter or a digit. -/
def isSlugChar (char : Char) : Bool := char.isLower || char.isDigit

/-- Words of small letters and digits, with one hyphen between two of them. -/
inductive IsSlug : List Char → Prop
  | last {word : List Char} (nonempty : word ≠ [])
      (inside : ∀ char ∈ word, isSlugChar char = true) : IsSlug word
  | word {word rest : List Char} (nonempty : word ≠ [])
      (inside : ∀ char ∈ word, isSlugChar char = true) (later : IsSlug rest) :
      IsSlug (word ++ '-' :: rest)

theorem toNat_lt_of_isAlphanum {char : Char} (alphanum : char.isAlphanum = true) :
    char.toNat < 123 := by
  have ranges : ((decide ('A'.val ≤ char.val ∧ char.val ≤ 'Z'.val) ||
      decide ('a'.val ≤ char.val) && decide (char.val ≤ 'z'.val)) ||
        decide ('0'.val ≤ char.val) && decide (char.val ≤ '9'.val)) = true :=
    alphanum
  simp only [Bool.or_eq_true, Bool.and_eq_true, decide_eq_true_eq,
    UInt32.le_iff_toNat_le] at ranges
  have most : 'Z'.val.toNat = 90 ∧ 'z'.val.toNat = 122 ∧ '9'.val.toNat = 57 := by
    decide
  change char.val.toNat < 123
  omega

theorem isSlugChar_toLower {char : Char} (alphanum : char.isAlphanum = true) :
    isSlugChar char.toLower = true := by
  have codes : ∀ code < 123, (Char.ofNat code).isAlphanum = true →
      isSlugChar (Char.ofNat code).toLower = true := by decide
  rw [← Char.ofNat_toNat char] at alphanum ⊢
  exact codes _ (toNat_lt_of_isAlphanum (Char.ofNat_toNat char ▸ alphanum)) alphanum

theorem isAlphanum_of_isSlugChar {char : Char} (small : isSlugChar char = true) :
    char.isAlphanum = true := by
  change ((char.isUpper || char.isLower) || char.isDigit) = true
  rcases Bool.or_eq_true_iff.mp small with lower | digit
  · simp [lower]
  · simp [digit]

theorem toLower_of_isSlugChar {char : Char} (small : isSlugChar char = true) :
    char.toLower = char := by
  have codes : ∀ code < 123, isSlugChar (Char.ofNat code) = true →
      (Char.ofNat code).toLower = Char.ofNat code := by decide
  have ascii := toNat_lt_of_isAlphanum (isAlphanum_of_isSlugChar small)
  rw [← Char.ofNat_toNat char] at small ⊢
  exact codes _ ascii small

/-- A character between the words of a slug. -/
def isSlugBreak (char : Char) : Bool := !char.isAlphanum

theorem cleaned_eq (name : List Char) :
    cleaned name =
      joinWith '-' ((splitOut isSlugBreak name).map (List.map Char.toLower)) :=
  map_joinWith Char.toLower '-' (splitOut isSlugBreak name)

theorem isSlug_joinWith (nonempty : parts ≠ [])
    (words : ∀ part ∈ parts, part ≠ [] ∧ ∀ char ∈ part, isSlugChar char = true) :
    IsSlug (joinWith '-' parts) := by
  induction parts with
  | nil => exact absurd rfl nonempty
  | cons part others induction =>
      obtain ⟨⟨isWord, inside⟩, later⟩ := List.forall_mem_cons.mp words
      cases others with
      | nil => exact .last isWord inside
      | cons next further =>
          rw [joinWith_cons (List.cons_ne_nil _ _)]
          exact .word isWord inside (induction (List.cons_ne_nil _ _) later)

theorem isSlug_cleaned {name : List Char} (nonempty : cleaned name ≠ []) :
    IsSlug (cleaned name) := by
  rw [cleaned_eq] at nonempty ⊢
  apply isSlug_joinWith
  · intro empty
    rw [empty] at nonempty
    exact nonempty rfl
  · intro part member
    obtain ⟨word, found, rfl⟩ := List.mem_map.mp member
    obtain ⟨isWord, inside⟩ := (parted_splitOut isSlugBreak name).mem_word found
    refine ⟨by simpa using isWord, ?_⟩
    intro char small
    obtain ⟨letter, there, rfl⟩ := List.mem_map.mp small
    exact isSlugChar_toLower (by simpa [isSlugBreak] using inside letter there)

namespace IsSlug

variable {slug : List Char}

theorem ne_nil (isSlug : IsSlug slug) : slug ≠ [] := by
  cases isSlug with
  | last nonempty _ => exact nonempty
  | word => simp

theorem isSlugChar_or_hyphen (isSlug : IsSlug slug) :
    ∀ char ∈ slug, isSlugChar char = true ∨ char = '-' := by
  induction isSlug with
  | last _ inside => exact fun char member => .inl (inside char member)
  | word _ inside _ induction =>
      intro char member
      rcases List.mem_append.mp member with first | behind
      · exact .inl (inside char first)
      · rcases List.mem_cons.mp behind with hyphen | later
        · exact .inr hyphen
        · exact induction char later

theorem joinWith_splitOut (isSlug : IsSlug slug) :
    joinWith '-' (splitOut isSlugBreak slug) = slug := by
  have outside : ∀ word : List Char, (∀ char ∈ word, isSlugChar char = true) →
      ∀ char ∈ word, isSlugBreak char = false := by
    intro word inside char member
    simp [isSlugBreak, isAlphanum_of_isSlugChar (inside char member)]
  induction isSlug with
  | last nonempty inside =>
      rw [splitOut_of_outside nonempty (outside _ inside)]
      rfl
  | @word word rest nonempty inside later induction =>
      have others : splitOut isSlugBreak rest ≠ [] := by
        intro empty
        rw [empty] at induction
        exact later.ne_nil induction.symm
      rw [splitOut_append nonempty (outside _ inside) (by decide) rest,
        joinWith_cons others, induction]

/-- A slug is clean. -/
theorem cleaned_eq_self (isSlug : IsSlug slug) : cleaned slug = slug := by
  have small : ∀ char ∈ slug, char.toLower = char := by
    intro char member
    rcases isSlug.isSlugChar_or_hyphen char member with letter | rfl
    · exact toLower_of_isSlugChar letter
    · decide
  calc
    cleaned slug = (joinWith '-' (splitOut isSlugBreak slug)).map Char.toLower :=
      rfl
    _ = slug.map Char.toLower := by rw [isSlug.joinWith_splitOut]
    _ = slug.map id := List.map_congr_left small
    _ = slug := List.map_id slug

end IsSlug

/-- The slug of a text that is taken as it stands, with any date in front. -/
def slugOf (text : List Char) : String :=
  if (cleaned text).isEmpty then "index" else String.ofList (cleaned text)

theorem slugify_eq (name : String) :
    slugify name = slugOf (dropDate name.toList) := rfl

theorem slugOf_cases (text : List Char) :
    cleaned text = [] ∧ slugOf text = "index" ∨
      IsSlug (cleaned text) ∧ slugOf text = String.ofList (cleaned text) := by
  unfold slugOf
  cases empty : cleaned text with
  | nil => exact .inl ⟨rfl, rfl⟩
  | cons char rest =>
      refine .inr ⟨empty ▸ isSlug_cleaned ?_, rfl⟩
      rw [empty]
      exact List.cons_ne_nil char rest

theorem isSlug_slugOf (text : List Char) : IsSlug (slugOf text).toList := by
  rcases slugOf_cases text with ⟨-, same⟩ | ⟨isSlug, same⟩
  · rw [same]
    exact .last (by decide) (List.all_eq_true.mp (by decide))
  · rw [same, String.toList_ofList]
    exact isSlug

theorem IsSlug.slugOf_eq {slug : String} (isSlug : IsSlug slug.toList) :
    slugOf slug.toList = slug := by
  have clean := isSlug.cleaned_eq_self
  rcases slugOf_cases slug.toList with ⟨empty, -⟩ | ⟨-, same⟩
  · exact absurd (clean.symm.trans empty) isSlug.ne_nil
  · rw [same, clean, String.ofList_toList]

theorem length_cleaned_le (text : List Char) :
    (cleaned text).length ≤ text.length := by
  rw [cleaned, List.length_map]
  exact (parted_splitOut _ text).length_le '-'

/-- A name behind a date does not have the dated name for a slug. -/
theorem slugOf_ne_of_dated {name : String} {year month day rest : List Char}
    (dated : IsDated name.toList year month day rest) : slugOf rest ≠ name := by
  intro same
  rcases slugOf_cases rest with ⟨-, isIndex⟩ | ⟨-, isClean⟩
  · -- The word for a name without words starts with no digit.
    have numeral : isNumeral year = true := dated.isYear
    have spelled := dated.spelled
    rw [← same, isIndex] at spelled
    cases year with
    | nil => cases numeral
    | cons digit others =>
        obtain rfl : digit = 'i' := (List.cons.inj spelled).1.symm
        have noDigit : Text.isDigit 'i' = false := by decide
        rw [isDigit_of_isNumeral numeral List.mem_cons_self] at noDigit
        cases noDigit
  · have short := length_cleaned_le rest
    have spelled := congrArg List.length dated.spelled
    rw [← same, isClean, String.toList_ofList] at spelled
    simp only [List.length_append, List.length_cons] at spelled
    omega

/-- A slug is made of words of small letters and digits with single hyphens
between.  A date in front of a name is left out and what follows it is taken as
it stands, another date included.  So a slug is its own slug exactly if it has no
date in front. -/
theorem slugify_isSlug_and_stable (name : String) :
    IsSlug (slugify name).toList ∧
      (∀ year month day rest, IsDated name.toList year month day rest →
        slugify name = slugOf rest) ∧
      (slugify (slugify name) = slugify name ↔ ∀ year month day rest,
        ¬ IsDated (slugify name).toList year month day rest) := by
  have isSlug : IsSlug (slugify name).toList := isSlug_slugOf _
  refine ⟨isSlug, ?_, ?_, ?_⟩
  · intro year month day rest dated
    rw [slugify_eq, dated.dropDate_eq]
  · intro stable year month day rest dated
    rw [slugify_eq (slugify name), dated.dropDate_eq] at stable
    exact slugOf_ne_of_dated dated stable
  · intro undated
    rw [slugify_eq (slugify name), dropDate_of_not_dated undated]
    exact isSlug.slugOf_eq

/-- A name with two dates. -/
def twiceDated : String := "2024-01-15-2023-02-03-Hello, World!"

theorem slugify_twiceDated :
    IsDated twiceDated.toList "2024".toList "01".toList "15".toList
        "2023-02-03-Hello, World!".toList ∧
      IsSlug (slugify twiceDated).toList ∧
      slugify twiceDated = "2023-02-03-hello-world" ∧
      slugify (slugify twiceDated) ≠ slugify twiceDated := by
  have dated : IsDated twiceDated.toList "2024".toList "01".toList "15".toList
      "2023-02-03-Hello, World!".toList :=
    ⟨by decide, by decide, by decide, by decide⟩
  obtain ⟨isSlug, isRest, stable⟩ := slugify_isSlug_and_stable twiceDated
  have again : slugify twiceDated = "2023-02-03-hello-world" := by
    rw [isRest _ _ _ _ dated]
    decide
  have late : IsDated "2023-02-03-hello-world".toList "2023".toList
      "02".toList "03".toList "hello-world".toList :=
    ⟨by decide, by decide, by decide, by decide⟩
  refine ⟨dated, isSlug, again, ?_⟩
  intro same
  exact stable.mp same _ _ _ _ (again ▸ late)

end Shortcode
