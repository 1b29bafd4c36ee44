import Shortcode.Document.Tag
import Shortcode.Proofs.Text.Search

/-!
# Where a tag ends

A closer ends a tag at its first occurrence on the line, and an end tag closes
a body at its first occurrence at all.  Neither can begin before the text that
is looked for and reach into it, since an opening brace stands at the start of
a tag only and a closing brace at its end only.
-/

namespace Shortcode

/-- A closer that begins before another one ends before it. -/
theorem closer_prefix_of_append {shape : Shape} {content rest : List Char}
    (nonempty : content ≠ [])
    (begins : shape.closer <+: content ++ (shape.closer ++ rest)) :
    shape.closer <+: content := by
  match content, nonempty with
  | [first], _ => cases shape <;> simp [Shape.closer] at begins
  | [first, second], _ => cases shape <;> simp [Shape.closer] at begins
  | first :: second :: third :: more, _ =>
      cases shape <;> simpa [Shape.closer] using begins

theorem splitAtCloser?_append {shape : Shape} {content : List Char}
    (single : '\n' ∉ content) (absent : ¬ shape.closer <:+: content)
    (rest : List Char) :
    splitAtCloser? shape.closer (content ++ (shape.closer ++ rest)) =
      some (content, rest) := by
  induction content with
  | nil => cases shape <;> rfl
  | cons char content induction =>
      have notHere : Text.dropLead? shape.closer
          (char :: (content ++ (shape.closer ++ rest))) = none := by
        rw [Text.dropLead?_eq_none_iff]
        intro begins
        have inside := closer_prefix_of_append (List.cons_ne_nil _ _) begins
        exact absent inside.isInfix
      have notEnd : (char == '\n') = false := by
        have different : char ≠ '\n' := by
          rintro rfl
          exact single List.mem_cons_self
        simpa using different
      have others := induction
        (fun member => single (List.mem_cons_of_mem _ member))
        (fun inside => absent (List.infix_cons inside))
      simp [splitAtCloser?, notHere, notEnd, others]

theorem eq_append_of_splitAtCloser? {shape : Shape}
    {text content rest : List Char}
    (split : splitAtCloser? shape.closer text = some (content, rest)) :
    text = content ++ (shape.closer ++ rest) ∧ '\n' ∉ content ∧
      ¬ shape.closer <:+: content := by
  induction text generalizing content with
  | nil => cases shape <;> simp [splitAtCloser?, Shape.closer] at split
  | cons char text induction =>
      rw [splitAtCloser?] at split
      cases dropped : Text.dropLead? shape.closer (char :: text) with
      | some after =>
          simp only [dropped, Option.some.injEq, Prod.mk.injEq] at split
          obtain ⟨rfl, rfl⟩ := split
          have cut : char :: text = shape.closer ++ after :=
            Text.dropLead?_eq_some_iff.mp dropped
          refine ⟨cut, List.not_mem_nil, ?_⟩
          cases shape <;> simp [Shape.closer]
      | none =>
          have notHere := Text.dropLead?_eq_none_iff.mp dropped
          simp only [dropped, beq_iff_eq] at split
          split at split
          · cases split
          · rename_i notEnd
            obtain ⟨⟨inner, after⟩, others, same⟩ :=
              Option.map_eq_some_iff.mp split
            cases same
            obtain ⟨cut, single, absent⟩ := induction others
            refine ⟨by rw [cut]; rfl, ?_, ?_⟩
            · simp [Ne.symm notEnd, single]
            · rw [List.infix_cons_iff]
              rintro (begins | inside)
              · apply notHere
                rw [cut]
                exact begins.trans (List.prefix_append (char :: inner) _)
              · exact absent inside

theorem splitAtCloser?_eq_some_iff {shape : Shape}
    {text content rest : List Char} :
    splitAtCloser? shape.closer text = some (content, rest) ↔
      text = content ++ (shape.closer ++ rest) ∧ '\n' ∉ content ∧
        ¬ shape.closer <:+: content := by
  constructor
  · exact eq_append_of_splitAtCloser?
  · rintro ⟨rfl, single, absent⟩
    exact splitAtCloser?_append single absent rest

/-! ## End tags -/

/-- The text is `end` in the delimiters of a body, with blanks around it on
the same line. -/
def EndTag (tag : List Char) : Prop :=
  ∃ before after, Text.AllBlank before ∧ Text.AllBlank after ∧
    '\n' ∉ before ∧ '\n' ∉ after ∧
    tag = Shape.body.opener ++
      (before ++ endWord ++ after ++ Shape.body.closer)

theorem trim_eq_endWord_iff {text : List Char} :
    Text.trim text = endWord ↔ ∃ before after, Text.AllBlank before ∧
      Text.AllBlank after ∧ text = before ++ endWord ++ after := by
  refine Text.trim_eq_iff (by decide) ?_ ?_
  · simp [endWord]
    decide
  · simp [endWord]
    decide

/-- Only the first two characters of an end tag are opening braces. -/
theorem EndTag.eq_cons {tag : List Char} (endTag : EndTag tag) :
    ∃ inner, tag = '{' :: '{' :: '%' :: inner ∧ '{' ∉ inner := by
  obtain ⟨before, after, blankBefore, blankAfter, _, _, rfl⟩ := endTag
  refine ⟨before ++ endWord ++ after ++ Shape.body.closer, rfl, ?_⟩
  have visible : Text.isBlank '{' = false := by decide
  have notBefore : '{' ∉ before := by
    intro member
    simp [blankBefore '{' member] at visible
  have notAfter : '{' ∉ after := by
    intro member
    simp [blankAfter '{' member] at visible
  simp [notBefore, notAfter, endWord, Shape.closer]

theorem EndTag.no_closer {before after : List Char}
    (blankBefore : Text.AllBlank before) (blankAfter : Text.AllBlank after) :
    '%' ∉ before ++ endWord ++ after := by
  have visible : Text.isBlank '%' = false := by decide
  have notBefore : '%' ∉ before := by
    intro member
    simp [blankBefore '%' member] at visible
  have notAfter : '%' ∉ after := by
    intro member
    simp [blankAfter '%' member] at visible
  simp [notBefore, notAfter, endWord]

theorem endTag?_eq_some_iff {text : List Char} {length : Nat} :
    endTag? text = some length ↔
      ∃ tag, EndTag tag ∧ tag <+: text ∧ tag.length = length := by
  constructor
  · intro found
    unfold endTag? at found
    split at found
    · cases found
    · rename_i inner opened
      split at found
      · cases found
      · rename_i content rest split
        obtain ⟨cut, single, _⟩ := splitAtCloser?_eq_some_iff.mp split
        split at found
        · rename_i trimmed
          obtain ⟨before, after, blankBefore, blankAfter, rfl⟩ :=
            trim_eq_endWord_iff.mp (by simpa using trimmed)
          cases found
          have written := Text.dropLead?_eq_some_iff.mp opened
          refine ⟨_, ⟨before, after, blankBefore, blankAfter, ?_, ?_, rfl⟩,
            ⟨rest, ?_⟩, ?_⟩
          · exact fun member => single (by simp [member])
          · exact fun member => single (by simp [member])
          · rw [written, cut]
            simp
          · simp [Shape.opener, Shape.closer]
            omega
        · cases found
  · rintro ⟨_, ⟨before, after, blankBefore, blankAfter, singleBefore,
      singleAfter, rfl⟩, ⟨rest, rfl⟩, rfl⟩
    have single : '\n' ∉ before ++ endWord ++ after := by
      simp [singleBefore, singleAfter, endWord]
    have absent : ¬ Shape.body.closer <:+: before ++ endWord ++ after := by
      intro inside
      have member : '%' ∈ Shape.body.closer := by decide
      exact EndTag.no_closer blankBefore blankAfter (inside.subset member)
    have trimmed : Text.trim (before ++ endWord ++ after) = endWord :=
      trim_eq_endWord_iff.mpr ⟨before, after, blankBefore, blankAfter, rfl⟩
    have split := splitAtCloser?_append single absent rest
    generalize before ++ endWord ++ after = inner at split trimmed ⊢
    have opened : Text.dropLead? Shape.body.opener
        (Shape.body.opener ++ (inner ++ Shape.body.closer) ++ rest) =
        some (inner ++ (Shape.body.closer ++ rest)) := by
      rw [Text.dropLead?_eq_some_iff]
      simp only [List.append_assoc]
    simp only [endTag?, opened, split, trimmed, beq_self_eq_true, if_true]
    simp [Shape.opener, Shape.closer]

/-- The text holds no end tag. -/
def NoEndTag (text : List Char) : Prop :=
  ∀ tag, EndTag tag → ¬ tag <:+: text

/-- An end tag that begins before another one ends before it. -/
theorem EndTag.prefix_of_append {tag other body rest : List Char}
    (endTag : EndTag tag) (otherTag : EndTag other) (nonempty : body ≠ [])
    (begins : other <+: body ++ (tag ++ rest)) : other <+: body := by
  obtain ⟨inner, rfl, _⟩ := endTag.eq_cons
  obtain ⟨otherInner, rfl, noBrace⟩ := otherTag.eq_cons
  obtain ⟨more, cut⟩ := begins
  rcases List.append_eq_append_iff.mp cut.symm with
    ⟨tail, otherCut, tagCut⟩ | ⟨tail, bodyCut, _⟩
  · cases tail with
    | nil => exact ⟨[], by simpa using otherCut⟩
    | cons brace tail =>
        -- The other tag would reach into this one: its third character or a
        -- later one would be the brace that this one starts with.
        exfalso
        match body, nonempty with
        | [first], _ =>
            simp only [List.cons_append, List.nil_append, List.cons.injEq]
              at otherCut tagCut
            obtain ⟨_, _, rfl⟩ := otherCut
            simp at tagCut
        | [first, second], _ =>
            simp only [List.cons_append, List.nil_append, List.cons.injEq]
              at otherCut tagCut
            obtain ⟨_, _, percent, _⟩ := otherCut
            simp [← percent] at tagCut
        | first :: second :: third :: body, _ =>
            simp only [List.cons_append, List.cons.injEq] at otherCut tagCut
            apply noBrace
            rw [otherCut.2.2.2, ← tagCut.1]
            simp
  · exact ⟨tail, bodyCut.symm⟩

theorem endTag?_append {tag : List Char} (endTag : EndTag tag)
    (rest : List Char) : endTag? (tag ++ rest) = some tag.length :=
  endTag?_eq_some_iff.mpr ⟨tag, endTag, List.prefix_append tag rest, rfl⟩

theorem endTag?_eq_none_iff {text : List Char} :
    endTag? text = none ↔ ∀ tag, EndTag tag → ¬ tag <+: text := by
  constructor
  · rintro missing tag endTag ⟨rest, rfl⟩
    simp [endTag?_append endTag] at missing
  · intro absent
    rw [Option.eq_none_iff_forall_not_mem]
    intro length found
    obtain ⟨tag, endTag, begins, _⟩ := endTag?_eq_some_iff.mp found
    exact absent tag endTag begins

theorem noEndTag_nil : NoEndTag [] := by
  intro tag endTag inside
  obtain ⟨inner, rfl, _⟩ := endTag.eq_cons
  simp at inside

theorem noEndTag_cons_iff {char : Char} {rest : List Char} :
    NoEndTag (char :: rest) ↔
      endTag? (char :: rest) = none ∧ NoEndTag rest := by
  rw [endTag?_eq_none_iff]
  constructor
  · intro absent
    exact ⟨fun tag endTag begins => absent tag endTag begins.isInfix,
      fun tag endTag inside => absent tag endTag (List.infix_cons inside)⟩
  · rintro ⟨notHere, absent⟩ tag endTag inside
    rcases List.infix_cons_iff.mp inside with begins | later
    · exact notHere tag endTag begins
    · exact absent tag endTag later

theorem findEndTag?_append {body tag : List Char} (endTag : EndTag tag)
    (absent : NoEndTag body) (rest : List Char) :
    findEndTag? (body ++ (tag ++ rest)) =
      some (body.length, body.length + tag.length) := by
  induction body with
  | nil =>
      unfold findEndTag?
      simp [endTag?_append endTag]
  | cons char body induction =>
      obtain ⟨notHere, absent⟩ := noEndTag_cons_iff.mp absent
      have missing : endTag? (char :: (body ++ (tag ++ rest))) = none := by
        rw [endTag?_eq_none_iff] at notHere ⊢
        intro other otherTag begins
        exact notHere other otherTag
          (endTag.prefix_of_append otherTag (List.cons_ne_nil _ _) begins)
      simp only [List.cons_append, findEndTag?, missing, induction absent,
        Option.map_some, List.length_cons, Nat.add_right_comm]

theorem findEndTag?_eq_none_iff {text : List Char} :
    findEndTag? text = none ↔ NoEndTag text := by
  induction text with
  | nil =>
      have missing : endTag? [] = none := rfl
      simp [findEndTag?, missing, noEndTag_nil]
  | cons char text induction =>
      rw [noEndTag_cons_iff, ← induction]
      cases here : endTag? (char :: text) with
      | some length => simp [findEndTag?, here]
      | none => simp [findEndTag?, here]

theorem eq_append_of_findEndTag? {text : List Char} {start stop : Nat}
    (found : findEndTag? text = some (start, stop)) :
    ∃ body tag rest, text = body ++ (tag ++ rest) ∧ EndTag tag ∧
      NoEndTag body ∧ start = body.length ∧
      stop = body.length + tag.length := by
  induction text generalizing start stop with
  | nil => cases found
  | cons char text induction =>
      cases here : endTag? (char :: text) with
      | some length =>
          obtain ⟨tag, endTag, ⟨rest, cut⟩, rfl⟩ := endTag?_eq_some_iff.mp here
          simp only [findEndTag?, here, Option.some.injEq, Prod.mk.injEq] at found
          obtain ⟨rfl, rfl⟩ := found
          exact ⟨[], tag, rest, cut.symm, endTag, noEndTag_nil, rfl,
            (Nat.zero_add _).symm⟩
      | none =>
          simp only [findEndTag?, here, Option.map_eq_some_iff, Prod.mk.injEq,
            Prod.exists] at found
          obtain ⟨near, far, later, rfl, rfl⟩ := found
          obtain ⟨body, tag, rest, cut, endTag, absent, rfl, rfl⟩ :=
            induction later
          refine ⟨char :: body, tag, rest, by rw [cut]; rfl, endTag,
            ?_, rfl, Nat.add_right_comm _ _ _⟩
          rw [noEndTag_cons_iff]
          refine ⟨?_, absent⟩
          rw [endTag?_eq_none_iff] at here ⊢
          intro other otherTag begins
          apply here other otherTag
          rw [cut]
          exact begins.trans (List.prefix_append (char :: body) _)

end Shortcode
