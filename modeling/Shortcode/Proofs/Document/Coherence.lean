import Shortcode.Proofs.Call
import Shortcode.Proofs.Document.Spans

/-!
# What holds of every call

Whoever is given a call need not check it again: its name, its body and its
arguments are as they should be.
-/

namespace Shortcode

/-- The span of the call is cut into its first tag, the text of the body and
the end tag, and the body is that text without the blanks around it. -/
def Call.Encloses (call : Call) (text : List Char) (body : String) : Prop :=
  ∃ content block tag, call.source text = Shape.body.opener ++
      (content ++ (Shape.body.closer ++ (block ++ tag))) ∧
    '\n' ∉ content ∧ ¬ Shape.body.closer <:+: content ∧ EndTag tag ∧
    NoEndTag block ∧ body = String.ofList (Text.trim block)

structure Call.Coherent (call : Call) (text : List Char) : Prop where
  name : IsName call.name.toList
  opener : call.shape.opener <+: call.source text
  noBody : call.body = none ↔ call.shape = .inline
  body : ∀ body ∈ call.body, Text.Trimmed body.toList ∧ call.Encloses text body
  distinct : (call.arguments.map Prod.fst).Nodup
  keys : ∀ entry ∈ call.arguments, IsKey entry.1.toList
  ints : ∀ key number, (key, .int number) ∈ call.arguments →
    -2 ^ 63 ≤ number ∧ number ≤ 2 ^ 63 - 1
  texts : ∀ key content, (key, .text content) ∈ call.arguments →
    '\n' ∉ content.toList

theorem Invocation.body?_eq_none_iff (invocation : Invocation) :
    invocation.body? = none ↔ invocation.shape = .inline := by
  cases invocation with
  | inline content => exact iff_of_true rfl rfl
  | body content block tag => exact iff_of_false nofun nofun

theorem Invocation.WellFormed.encloses {call : Call} {text : List Char}
    {invocation : Invocation} (wellFormed : invocation.WellFormed)
    (source : call.source text = invocation.print) {body : String}
    (enclosed : body ∈ invocation.body?) : call.Encloses text body := by
  cases invocation with
  | inline content => cases enclosed
  | body content block tag =>
      cases enclosed
      obtain ⟨single, absent, _, noTag, endTag⟩ := wellFormed
      exact ⟨content, block, tag, source, single, absent, endTag, noTag, rfl⟩

theorem Call.WrittenIn.coherent {call : Call} {text : List Char}
    (written : call.WrittenIn text) : call.Coherent text := by
  obtain ⟨invocation, source, wellFormed, head, shape, body⟩ :=
    written.exists_invocation
  obtain ⟨isName, argumentText, inside, arguments⟩ := Head.writtenIn_of_read head
  have single : '\n' ∉ argumentText := by
    intro member
    have inContent := inside.trans (Text.trim_infix invocation.content)
    exact wellFormed.1 (inContent.subset member)
  refine ⟨isName, ?_, ?_, ?_, arguments.distinct, arguments.keys, ?_, ?_⟩
  · rw [shape, source]
    exact invocation.opener_prefix_print
  · rw [shape, body]
    exact invocation.body?_eq_none_iff
  · intro enclosed member
    rw [body] at member
    have encloses := wellFormed.encloses source member
    obtain ⟨_, block, _, _, _, _, _, _, trimmed⟩ := encloses
    refine ⟨?_, wellFormed.encloses source member⟩
    rw [trimmed, String.toList_ofList]
    exact Text.trimmed_trim block
  · intro key number member
    exact arguments.values _ member
  · intro key content member lineEnd
    exact single (arguments.values _ member '\n' lineEnd)

/-- Every call that is read is coherent. -/
theorem coherent_of_calls {text : List Char} {found : List Call}
    (read : calls text = .ok found) : ∀ call ∈ found, call.Coherent text := by
  intro call member
  exact ((ascending_writtenIn_of_calls read).2 call member).coherent

/-- A key that is given twice, and a body with an end tag over two lines. -/
def spacedDocument : List Char :=
  "\x7b\x7b< a-1(k=\"\\\"\", k=-9223372036854775808) >\x7d\x7d\n".toList ++
    "\x7b\x7b% b_2() %\x7d\x7d \u2003x\n\x7b\x7b% end\n%\x7d\x7d\t\n".toList ++
    "\x7b\x7b%\u00a0end %\x7d\x7d".toList

theorem coherent_of_calls_spacedDocument :
    ∃ found, calls spacedDocument = .ok found ∧
      found.map (fun call =>
        (call.name, call.shape, call.arguments.length, call.body)) =
          [("a-1", .inline, 1, none),
            ("b_2", .body, 0, some "x\n\x7b\x7b% end\n%\x7d\x7d")] ∧
      ∀ call ∈ found, call.Coherent spacedDocument := by
  have shown : (calls spacedDocument).toOption.map (List.map fun call =>
      (call.name, call.shape, call.arguments.length, call.body)) =
        some [("a-1", .inline, 1, none),
          ("b_2", .body, 0, some "x\n\x7b\x7b% end\n%\x7d\x7d")] := by
    decide +kernel
  cases read : calls spacedDocument with
  | error failure =>
      rw [read] at shown
      cases shown
  | ok found =>
      rw [read] at shown
      exact ⟨found, rfl, Option.some.inj shown, coherent_of_calls read⟩

end Shortcode
