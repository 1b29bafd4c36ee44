import Shortcode.Proofs.Document.Shift
import Shortcode.Proofs.Expansion.Trace
import Shortcode.Proofs.Outcome

/-!
# Documents one behind the other

If the reader of a document settles at its end, the document can be read and
expanded apart from whatever follows it.
-/

namespace Shortcode

/-- Behind a document that settles, a reader begins the next one. -/
theorem calls_append {first : List Char} {found : List Call}
    (ended : first = [] ∨ EndsLine first)
    (settles : (Cursor.ofText first).Settles)
    (read : calls first = .ok found) (second : List Char) :
    calls (first ++ second) =
      (((calls second).map (List.map (Call.after first))).mapError
        (Failure.shift (Text.lineEnds first))).map (found ++ ·) := by
  have real : (Cursor.ofText first).Fenced := by
    intro fence inFence
    cases inFence
  have atLine : (Cursor.ofText first).AtLine := by
    rcases ended with empty | ended
    · exact .inr ⟨empty, rfl⟩
    · exact .inl ended
  obtain ⟨seam, passes, exhausted, fresh, unfenced, longer⟩ :=
    settles.exists_seam real atLine read second
  -- At the seam nothing but the offset and the line tells that text came first.
  have behind : seam.extend second = (Cursor.ofText second).after first := by
    obtain ⟨before, rest, line, atLineStart, fence⟩ := seam
    obtain rfl : before = first.reverse ++ [] := passes.before
    obtain rfl : line = 1 + Text.lineEnds first := passes.line
    obtain rfl : rest = [] := exhausted
    obtain rfl : atLineStart = true := fresh
    obtain rfl : fence = none := unfenced
    simp [Cursor.extend, Cursor.after, Cursor.ofText]
  rw [behind, Cursor.calls_after] at longer
  exact longer

/-! ## Splicing -/

/-- Calls behind `lead` are replaced without a change to it. -/
theorem splice_append_left (lead document : List Char)
    (texts : List (Call × String)) :
    splice (lead ++ document) (texts.map (Prod.map (Call.after lead) id)) =
      lead ++ splice document texts := by
  induction texts with
  | nil => rfl
  | cons entry texts induction =>
      obtain ⟨call, text⟩ := entry
      change (splice (lead ++ document) _).take (lead.length + call.start) ++
          text.toList ++ (splice (lead ++ document) _).drop
            (lead.length + call.stop) = _
      rw [induction, List.take_length_add_append, List.drop_length_add_append,
        List.append_assoc, List.append_assoc]
      simp [splice]

/-- Calls in front of `tail` are replaced without a change to it. -/
theorem splice_append_right {document : List Char} {start : Nat}
    {texts : List (Call × String)}
    (ascending : Call.Ascending start (texts.map Prod.fst))
    (inside : Inside document (texts.map Prod.fst)) (tail : List Char) :
    splice (document ++ tail) texts = splice document texts ++ tail := by
  induction texts generalizing start with
  | nil => rfl
  | cons entry texts induction =>
      obtain ⟨call, text⟩ := entry
      obtain ⟨_, later⟩ := ascending
      obtain ⟨positive, bound⟩ := inside call List.mem_cons_self
      have others : Inside document (texts.map Prod.fst) :=
        fun other member => inside other (List.mem_cons_of_mem _ member)
      have long : call.stop ≤ (splice document texts).length := by
        rw [splice_eq_interleave later others, List.length_append,
          List.length_take, Nat.min_eq_left bound]
        omega
      change (splice (document ++ tail) texts).take call.start ++ text.toList ++
          (splice (document ++ tail) texts).drop call.stop =
        (splice document texts).take call.start ++ text.toList ++
          (splice document texts).drop call.stop ++ tail
      rw [induction later others, List.take_append_of_le_length (by omega),
        List.drop_append_of_le_length long, ← List.append_assoc]

theorem splice_append {document : List Char} {start : Nat}
    {texts : List (Call × String)}
    (ascending : Call.Ascending start (texts.map Prod.fst))
    (inside : Inside document (texts.map Prod.fst)) (other : List Char)
    (others : List (Call × String)) :
    splice (document ++ other)
        (texts ++ others.map (Prod.map (Call.after document) id)) =
      splice document texts ++ splice other others := by
  calc
    splice (document ++ other)
        (texts ++ others.map (Prod.map (Call.after document) id)) =
        splice (splice (document ++ other)
          (others.map (Prod.map (Call.after document) id))) texts := by
      rw [splice, splice, splice, List.foldr_append]
    _ = splice (document ++ splice other others) texts := by
      rw [splice_append_left]
    _ = splice document texts ++ splice other others :=
      splice_append_right ascending inside (splice other others)

/-! ## Expansion -/

/-- What the store makes of a call depends on its name, its arguments and its
body. -/
def Store.RendersByContent (store : Store) (page site : Value) : Prop :=
  ∀ call other : Call, call.toHead = other.toHead → call.body = other.body →
    (store.render call page site).toOption =
      (store.render other page site).toOption

/-- Calls behind `lead` are rendered as they are without it. -/
theorem Store.RendersByContent.rendered_after {store : Store}
    {page site : Value} (uniform : store.RendersByContent page site)
    {found : List Call} {texts : List String}
    (rendered : List.Forall₂
      (fun call text => store.render call page site = .ok text) found texts)
    (lead : List Char) :
    List.Forall₂ (fun call text => store.render call page site = .ok text)
      (found.map (Call.after lead)) texts := by
  rw [List.forall₂_map_left_iff]
  refine rendered.imp ?_
  intro call text answer
  have same := uniform (call.after lead) call rfl rfl
  rw [answer] at same
  exact eq_ok_of_toOption same

/-- What an expansion that returns has read and rendered. -/
theorem Store.exists_rendered_of_expand {store : Store} {document result : String}
    {page site : Value}
    (expanded : (store.expand document page site).outcome = .ok result) :
    ∃ found texts, calls document.toList = .ok found ∧
      (∀ call ∈ found, store.isKnown call.name = true) ∧
      List.Forall₂ (fun call text => store.render call page site = .ok text)
        found texts ∧
      result.toList = splice document.toList (found.zip texts) := by
  obtain ⟨taken, trace⟩ := Trace.exists_trace store document page site
  rw [trace.expand_eq] at expanded
  cases trace with
  | malformed => cases expanded
  | unknown => cases expanded
  | failed => cases expanded
  | @rendered found texts _ read allKnown rendered put =>
      cases expanded
      refine ⟨found, texts, read, allKnown, rendered, ?_⟩
      rw [put, Trace.splice_zip read rendered.length_eq]

theorem Store.expand_append {store : Store} {page site : Value}
    {first second firstText secondText : String} {found others : List Call}
    (uniform : store.RendersByContent page site)
    (readFirst : calls first.toList = .ok found)
    (readSecond : calls second.toList = .ok others)
    (readBoth : calls (first ++ second).toList =
      .ok (found ++ others.map (Call.after first.toList)))
    (expandedFirst : (store.expand first page site).outcome = .ok firstText)
    (expandedSecond :
      (store.expand second page site).outcome = .ok secondText) :
    (store.expand (first ++ second) page site).outcome =
      .ok (firstText ++ secondText) := by
  obtain ⟨firstCalls, firstTexts, firstRead, firstKnown, firstRendered,
    firstPut⟩ := Store.exists_rendered_of_expand expandedFirst
  obtain ⟨secondCalls, secondTexts, secondRead, secondKnown, secondRendered,
    secondPut⟩ := Store.exists_rendered_of_expand expandedSecond
  obtain rfl : found = firstCalls := Except.ok.inj (readFirst.symm.trans firstRead)
  obtain rfl : others = secondCalls :=
    Except.ok.inj (readSecond.symm.trans secondRead)
  have allKnown : ∀ call ∈ found ++ others.map (Call.after first.toList),
      store.isKnown call.name = true := by
    intro call member
    rcases List.mem_append.mp member with early | late
    · exact firstKnown call early
    · obtain ⟨other, otherMember, rfl⟩ := List.mem_map.mp late
      exact secondKnown other otherMember
  have rendered := List.rel_append firstRendered
    (uniform.rendered_after secondRendered first.toList)
  have put : (firstText ++ secondText).toList =
      splice (first ++ second).toList
        ((found ++ others.map (Call.after first.toList)).zip
          (firstTexts ++ secondTexts)) := by
    obtain ⟨ascending, written⟩ := ascending_writtenIn_of_calls readFirst
    have firsts : (found.zip firstTexts).map Prod.fst = found :=
      List.map_fst_zip (Nat.le_of_eq firstRendered.length_eq)
    have inside : Inside first.toList found :=
      fun call member => (written call member).bounds
    rw [List.zip_append firstRendered.length_eq, List.zip_map_left,
      String.toList_append, String.toList_append, firstPut, secondPut,
      splice_append (firsts.symm ▸ ascending) (firsts.symm ▸ inside)]
  rw [Trace.splice_zip readBoth rendered.length_eq] at put
  have trace := Trace.rendered readBoth allKnown rendered put
  rw [trace.expand_eq]

/-- A document whose reader settles at the end of its last line composes with
whatever follows: its calls come first, those behind it are the calls of the
rest moved on, and so are failures; the expansions stand one behind the other.
-/
theorem calls_and_expand_append {first : String} {found : List Call}
    (ended : first.toList = [] ∨ EndsLine first.toList)
    (read : calls first.toList = .ok found)
    (settles : (Cursor.ofText first.toList).Settles) (second : String) :
    ((∃ all, calls (first ++ second).toList = .ok all) ↔
      ∃ others, calls second.toList = .ok others) ∧
    (∀ others, calls second.toList = .ok others →
      calls (first ++ second).toList =
        .ok (found ++ others.map (Call.after first.toList))) ∧
    (∀ failure, calls second.toList = .error failure →
      calls (first ++ second).toList =
        .error (failure.shift (Text.lineEnds first.toList))) ∧
    ∀ (store : Store) (page site : Value) (firstText secondText : String),
      store.RendersByContent page site →
      (store.expand first page site).outcome = .ok firstText →
      (store.expand second page site).outcome = .ok secondText →
      (store.expand (first ++ second) page site).outcome =
        .ok (firstText ++ secondText) := by
  have both := calls_append ended settles read second.toList
  rw [← String.toList_append] at both
  have reads : ∀ others, calls second.toList = .ok others →
      calls (first ++ second).toList =
        .ok (found ++ others.map (Call.after first.toList)) := by
    intro others readSecond
    rw [both, readSecond]
    rfl
  have fails : ∀ failure, calls second.toList = .error failure →
      calls (first ++ second).toList =
        .error (failure.shift (Text.lineEnds first.toList)) := by
    intro failure readSecond
    rw [both, readSecond]
    rfl
  refine ⟨?_, reads, fails, ?_⟩
  · constructor
    · rintro ⟨all, readBoth⟩
      cases readSecond : calls second.toList with
      | error failure =>
          rw [fails failure readSecond] at readBoth
          cases readBoth
      | ok others => exact ⟨others, rfl⟩
    · rintro ⟨others, readSecond⟩
      exact ⟨_, reads others readSecond⟩
  · intro store page site firstText secondText uniform expandedFirst
      expandedSecond
    obtain ⟨others, _, readSecond, _⟩ :=
      Store.exists_rendered_of_expand expandedSecond
    exact Store.expand_append uniform read readSecond (reads others readSecond)
      expandedFirst expandedSecond

/-! ## A document that settles -/

theorem Outline.rendersByContent (names failing : List String)
    (echo : Option String) (page site : Value) :
    (Outline.store names failing echo).RendersByContent page site := by
  intro call other sameHead sameBody
  have sameName : call.name = other.name := congrArg Head.name sameHead
  have sameOutline : Outline.ofCall call = Outline.ofCall other := by
    rw [Outline.ofCall, Outline.ofCall, sameHead, sameBody]
  simp only [Outline.store, sameName, sameOutline]
  split <;> rfl

/-- A fenced block, a code span over two lines and an inline call. -/
def settledDocument : String :=
  "~~~\n~~~\n`\n`\x7b\x7b< b(k=1) >\x7d\x7d\n"

/-- A call with a body, on one line without an end. -/
def followingDocument : String :=
  "\x7b\x7b% a() %\x7d\x7d x \x7b\x7b% end %\x7d\x7d"

theorem settles_settledDocument :
    (Cursor.ofText settledDocument.toList).Settles := by
  let start := Cursor.ofText settledDocument.toList
  let open_ := { start.skip 4 with fence := some ⟨'~', 3⟩ }
  let closed := start.skip 8
  let inside := { closed with atLineStart := false }
  let spanned := inside.skipCode
  let called := spanned.jump 14
  have opening : start.Move [] open_ :=
    .search (.fenced (by decide) rfl (by decide +kernel))
  have closing : open_.Move [] closed :=
    .search (.fenced (by decide) rfl (by decide +kernel))
  have prose : closed.Move [] inside :=
    .search (.prose (by decide) rfl (by decide +kernel))
  have code : inside.Move [] spanned := .search (.code rfl rfl)
  have counted : (readTag .inline spanned.line (spanned.rest.drop 3)).toOption.map
      Reading.length = some 14 := by
    decide +kernel
  obtain ⟨reading, answered, length⟩ := Option.map_eq_some_iff.mp counted
  have read := eq_ok_of_toOption answered
  have jumped : spanned.jump reading.length = called := by rw [length]
  have opens : Shape.inline.opener <+: spanned.rest := by decide +kernel
  have call : spanned.Move (reading.call? spanned).toList called := by
    rw [← jumped]
    exact Cursor.Move.read rfl opens read
  have remaining : called.rest = ['\n'] := by decide +kernel
  have lineEnd : called.Move [] called.newLine :=
    .search (.lineEnd (by decide +kernel) remaining)
  refine .move opening (fun stale => absurd stale (by decide)) ?_
  refine .move closing (fun stale => absurd stale (by decide)) ?_
  refine .move prose (fun stale => absurd stale (by decide)) ?_
  refine .move code (fun _ => not_unclosedRun (by decide +kernel)) ?_
  refine .move call (fun _ => not_unclosedRun (by decide +kernel)) ?_
  refine .move lineEnd (fun _ => not_unclosedRun (by decide +kernel)) ?_
  exact .ended (by decide +kernel) rfl

theorem calls_and_expand_append_settledDocument :
    EndsLine settledDocument.toList ∧
    (Cursor.ofText settledDocument.toList).Settles ∧
    ∃ found others,
      calls settledDocument.toList = .ok found ∧
      calls followingDocument.toList = .ok others ∧
      calls (settledDocument ++ followingDocument).toList =
        .ok (found ++ others.map (Call.after settledDocument.toList)) ∧
      ((Outline.store ["a", "b"] [] none).expand
        (settledDocument ++ followingDocument) .null .null).outcome =
          .ok ("~~~\n~~~\n`\n`[b:k=1]\n" ++ "[a:|x]") := by
  have ended : EndsLine settledDocument.toList :=
    ⟨settledDocument.toList.dropLast, by decide +kernel⟩
  have callsFirst : (calls settledDocument.toList).toOption.isSome = true := by
    decide +kernel
  have callsSecond :
      (calls followingDocument.toList).toOption.isSome = true := by
    decide +kernel
  obtain ⟨found, answered⟩ := Option.isSome_iff_exists.mp callsFirst
  obtain ⟨others, answeredSecond⟩ := Option.isSome_iff_exists.mp callsSecond
  have read := eq_ok_of_toOption answered
  have readSecond := eq_ok_of_toOption answeredSecond
  have expandedFirst : ((Outline.store ["a", "b"] [] none).expand
      settledDocument .null .null).outcome.toOption =
        some "~~~\n~~~\n`\n`[b:k=1]\n" := by
    decide +kernel
  have expandedSecond : ((Outline.store ["a", "b"] [] none).expand
      followingDocument .null .null).outcome.toOption = some "[a:|x]" := by
    decide +kernel
  obtain ⟨_, reads, _, expands⟩ := calls_and_expand_append (.inr ended) read
    settles_settledDocument followingDocument
  refine ⟨ended, settles_settledDocument, found, others, read, readSecond,
    reads others readSecond, ?_⟩
  exact expands _ .null .null _ _ (Outline.rendersByContent _ _ _ _ _)
    (eq_ok_of_toOption expandedFirst) (eq_ok_of_toOption expandedSecond)

end Shortcode
