import Shortcode.Proofs.Document.Printing

/-!
# The source of a call

The text at the span of a call is a document of its own.  It holds this call
and no other, although the call was found by searches that saw all of the text
behind it.
-/

namespace Shortcode

theorem plain_nil : Plain [] := by
  refine ⟨List.not_mem_nil, ?_, ?_⟩
  · intro shape inside
    simp [Shape.opener_eq] at inside
  · intro indent _ inside
    simp at inside

/-- A document that is a single invocation. -/
theorem calls_print_invocation {invocation : Invocation} {head : Head}
    {line : Int} (wellFormed : invocation.WellFormed)
    (read : invocation.head line = .ok head) :
    calls invocation.print = .ok [{ head with
      shape := invocation.shape, body := invocation.body?, start := 0
      stop := invocation.print.length, line := 1 }] := by
  let part : Part := ⟨invocation, head, []⟩
  have valid : ∀ other ∈ [part], other.Valid := by
    intro other member
    obtain rfl := List.mem_singleton.mp member
    exact ⟨wellFormed, ⟨line, read⟩, plain_nil⟩
  have printed : printParts [part] = invocation.print := by
    simp [printParts, Part.print, part]
  have remaining : (Cursor.ofText invocation.print).rest =
      [] ++ printParts [part] := by
    rw [printed]
    rfl
  have noTildes : ∀ indent ≤ 3, ¬ tildes indent <+: [] := by
    simp [tildes]
  have found := Cursor.calls_of_printParts valid plain_nil remaining rfl rfl
    fun _ => noTildes
  have single : printedCalls [] [part] = [part.call []] :=
    printedCalls_cons [] part []
  change calls invocation.print = .ok (printedCalls [] [part]) at found
  rw [found, single]
  simp [Part.call, part]

/-- The source of a call reads back as this call, moved to the start of the
first line. -/
theorem calls_source {text : List Char} {found : List Call}
    (read : calls text = .ok found) :
    ∀ call ∈ found, calls (call.source text) =
      .ok [{ call with start := 0, stop := call.stop - call.start, line := 1 }] := by
  intro call member
  obtain ⟨_, written⟩ := ascending_writtenIn_of_calls read
  obtain ⟨before, invocation, rest, cut, wellFormed, head, shape, body, start,
    stop, _⟩ := written call member
  have source : call.source text = invocation.print := by
    rw [Call.source, stop, start, cut, ← List.append_assoc,
      ← List.length_append, List.take_left, List.drop_left]
  have length : call.stop - call.start = invocation.print.length := by
    omega
  rw [source, calls_print_invocation wellFormed head, length, shape, body]

/-- The body holds a backtick and an opener; a second backtick follows the end
tag. -/
def bodyBetweenTicks : List Char :=
  "x\n\x7b\x7b% a(k=1) %\x7d\x7d ` \x7b\x7b% b\n".toList ++
    "\x7b\x7b% end %\x7d\x7d `".toList

theorem calls_source_of_bodyBetweenTicks :
    ∃ found, calls bodyBetweenTicks = .ok found ∧
      found.map (fun call => (call.start, call.stop, call.line, call.body)) =
        [(2, 36, 2, some "` \x7b\x7b% b")] ∧
      ∀ call ∈ found, calls (call.source bodyBetweenTicks) = .ok
        [{ call with start := 0, stop := call.stop - call.start, line := 1 }] := by
  have spans : (calls bodyBetweenTicks).toOption.map (List.map fun call =>
      (call.start, call.stop, call.line, call.body)) =
        some [(2, 36, 2, some "` \x7b\x7b% b")] := by
    decide +kernel
  cases read : calls bodyBetweenTicks with
  | error failure =>
      rw [read] at spans
      cases spans
  | ok found =>
      rw [read] at spans
      exact ⟨found, rfl, Option.some.inj spans, calls_source read⟩

end Shortcode
