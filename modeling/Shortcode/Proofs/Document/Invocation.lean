import Shortcode.Proofs.Document.Cursor
import Shortcode.Proofs.Document.Reading

/-!
# Invocations as they are written

An `Invocation` is the text of a whole shortcode, cut into the parts that its
reader distinguishes.  A reader at an opening delimiter finds a call exactly if
a well-formed invocation stands there.
-/

namespace Shortcode

/-- The text of a shortcode, from the opening delimiter to the last one. -/
inductive Invocation where
  | inline (content : List Char)
  /-- The end tag is kept as it is written. -/
  | body (content block tag : List Char)

namespace Invocation

/-- The text between the delimiters of the first tag. -/
def content : Invocation → List Char
  | inline content | body content _ _ => content

def shape : Invocation → Shape
  | inline _ => .inline
  | body _ _ _ => .body

/-- What follows the first tag. -/
def block : Invocation → List Char
  | inline _ => []
  | body _ block tag => block ++ tag

/-- The body of the call. -/
def body? : Invocation → Option String
  | inline _ => none
  | body _ block _ => some (String.ofList (Text.trim block))

def print (invocation : Invocation) : List Char :=
  invocation.shape.opener ++
    (invocation.content ++ (invocation.shape.closer ++ invocation.block))

/-- No delimiter stands where it would end a part early. -/
def WellFormed (invocation : Invocation) : Prop :=
  '\n' ∉ invocation.content ∧
    ¬ invocation.shape.closer <:+: invocation.content ∧
    match invocation with
    | inline _ => True
    | body content block tag =>
      Text.trim content ≠ endWord ∧ NoEndTag block ∧ EndTag tag

/-- The name and the arguments that the content gives. -/
def head (invocation : Invocation) (line : Int) : Except Failure Head :=
  Head.read line (Text.trim invocation.content)

theorem print_eq (invocation : Invocation) :
    invocation.print = '{' :: '{' :: invocation.shape.mark ::
      (invocation.content ++ (invocation.shape.closer ++ invocation.block)) := by
  rw [print, Shape.opener_eq]
  rfl

theorem length_print (invocation : Invocation) :
    invocation.print.length =
      invocation.content.length + 6 + invocation.block.length := by
  cases invocation <;> simp [print, shape, Shape.opener, Shape.closer] <;> omega

theorem opener_prefix_print (invocation : Invocation) :
    invocation.shape.opener <+: invocation.print :=
  List.prefix_append _ _

theorem WellFormed.exists_print_eq {invocation : Invocation}
    (wellFormed : invocation.WellFormed) :
    ∃ inner, invocation.print = inner ++ ['}'] := by
  cases invocation with
  | inline content =>
      refine ⟨Shape.inline.opener ++ (content ++ ['>', '}']), ?_⟩
      simp [print, Invocation.content, shape, block, Shape.closer]
  | body content block tag =>
      obtain ⟨_, _, _, _, before, after, _, _, _, _, rfl⟩ := wellFormed
      refine ⟨Shape.body.opener ++ (content ++ (Shape.body.closer ++ (block ++
        (Shape.body.opener ++ (before ++ endWord ++ after ++ ['%', '}']))))),
        ?_⟩
      simp [print, Invocation.content, shape, Invocation.block, Shape.closer]

/-- A reader behind the opening delimiter of a well-formed invocation finds its
call, whatever follows. -/
theorem readTag_print {invocation : Invocation} {line : Int} {head : Head}
    (wellFormed : invocation.WellFormed) (read : invocation.head line = .ok head)
    (rest : List Char) :
    readTag invocation.shape line ((invocation.print ++ rest).drop 3) =
      .ok (.call invocation.shape head invocation.body?
        invocation.print.length) := by
  obtain ⟨single, absent, more⟩ := wellFormed
  have behind : (invocation.print ++ rest).drop 3 = invocation.content ++
      (invocation.shape.closer ++ (invocation.block ++ rest)) := by
    simp [print_eq]
  have split := splitAtCloser?_append single absent (invocation.block ++ rest)
  rw [behind, length_print]
  rw [readTag_eq_iff]
  cases invocation with
  | inline content => exact .inline split read
  | body content block tag =>
      obtain ⟨notEnd, noTag, endTag⟩ := more
      refine .body split notEnd read ?_
      exact readBody_eq_ok_iff.mpr
        ⟨block, tag, rest, List.append_assoc _ _ _, endTag, noTag, by
          simp [Invocation.block, Invocation.content, body?,
            Invocation.shape]⟩

theorem exists_of_readTag {shape kind : Shape} {line : Int} {text : List Char}
    {head : Head} {body : Option String} {length : Nat}
    (read : readTag shape line text = .ok (.call kind head body length)) :
    ∃ invocation rest, WellFormed invocation ∧ invocation.shape = shape ∧
      kind = shape ∧ shape.opener ++ text = invocation.print ++ rest ∧
      invocation.head line = .ok head ∧ invocation.body? = body ∧
      invocation.print.length = length := by
  cases readTag_eq_iff.mp read with
  | @inline content rest _ split reads =>
      obtain ⟨cut, single, absent⟩ := splitAtCloser?_eq_some_iff.mp split
      refine ⟨.inline content, rest, ⟨single, absent, trivial⟩, rfl, rfl, ?_,
        reads, rfl, ?_⟩
      · rw [cut]
        simp [print, block, Invocation.content, Invocation.shape]
      · simp [length_print, block, Invocation.content]
  | @body content _ _ _ split notEnd reads found =>
      obtain ⟨cut, single, absent⟩ := splitAtCloser?_eq_some_iff.mp split
      obtain ⟨block, tag, rest, blockCut, endTag, noTag, same⟩ :=
        readBody_eq_ok_iff.mp found
      cases same
      refine ⟨.body content block tag, rest,
        ⟨single, absent, notEnd, noTag, endTag⟩, rfl, rfl, ?_, reads, rfl, ?_⟩
      · rw [cut, blockCut]
        simp [print, Invocation.block, Invocation.content, Invocation.shape]
      · simp [length_print, Invocation.block, Invocation.content]

end Invocation

end Shortcode
