import Mathlib.Data.List.Forall2
import Shortcode.Expansion
import Shortcode.Outline
import Shortcode.Proofs.Document.Spans

/-!
# What an expansion puts together

The calls are replaced from the last to the first, each by its offsets in the
document.  Since the spans ascend, the result is the same as writing the gaps
between the calls and the rendered texts one behind the other.
-/

namespace Shortcode

/-- The texts of a document before the first call, between two calls and behind
the last call; the first of them begins at `start`. -/
def gaps (document : List Char) : (start : Nat) → List Call → List (List Char)
  | start, [] => [document.drop start]
  | start, call :: rest =>
    (document.take call.start).drop start :: gaps document call.stop rest

/-- A gap, a text, a gap, and so on up to the last gap. -/
def interleave : (gaps texts : List (List Char)) → List Char
  | gap :: gaps, text :: texts => gap ++ (text ++ interleave gaps texts)
  | gaps, _ => gaps.flatten

/-- Every span lies in the document. -/
def Inside (document : List Char) (found : List Call) : Prop :=
  ∀ call ∈ found, call.start < call.stop ∧ call.stop ≤ document.length

/-- A text from one offset on, cut at a later offset. -/
theorem drop_take_append_drop {document : List Char} {start stop : Nat}
    (le : start ≤ stop) (bound : stop ≤ document.length) :
    (document.take stop).drop start ++ document.drop stop =
      document.drop start := by
  have length : start ≤ (document.take stop).length := by
    rw [List.length_take]
    omega
  rw [← List.drop_append_of_le_length length, List.take_append_drop]

theorem take_append_drop_take {document : List Char} {start stop : Nat}
    (le : start ≤ stop) :
    document.take start ++ (document.take stop).drop start =
      document.take stop := by
  have shorter : document.take start = (document.take stop).take start := by
    rw [List.take_take, Nat.min_eq_left le]
  rw [shorter, List.take_append_drop]

theorem splice_eq_interleave {document : List Char} {start : Nat}
    {texts : List (Call × String)}
    (ascending : Call.Ascending start (texts.map Prod.fst))
    (inside : Inside document (texts.map Prod.fst)) :
    splice document texts = document.take start ++
      interleave (gaps document start (texts.map Prod.fst))
        (texts.map fun entry => entry.2.toList) := by
  induction texts generalizing start with
  | nil => simp [splice, gaps, interleave]
  | cons entry rest induction =>
      obtain ⟨call, text⟩ := entry
      obtain ⟨here, later⟩ := ascending
      dsimp only at here later
      obtain ⟨positive, bound⟩ := inside call List.mem_cons_self
      have others := induction later
        fun other member => inside other (List.mem_cons_of_mem _ member)
      have length : (document.take call.stop).length = call.stop := by
        rw [List.length_take, Nat.min_eq_left bound]
      have shorter : call.start ≤ (document.take call.stop).length := by omega
      let behind := interleave (gaps document call.stop (rest.map Prod.fst))
        (rest.map fun entry => entry.2.toList)
      calc
        splice document ((call, text) :: rest) =
            (splice document rest).take call.start ++ text.toList ++
              (splice document rest).drop call.stop := rfl
        _ = document.take call.start ++ text.toList ++ behind := by
          rw [others, List.take_append_of_le_length shorter, List.take_take,
            Nat.min_eq_left (Nat.le_of_lt positive), List.drop_left' length]
        _ = document.take start ++ ((document.take call.start).drop start ++
              (text.toList ++ behind)) := by
          rw [← List.append_assoc (document.take start),
            take_append_drop_take here, List.append_assoc]

/-- A document is its gaps with the sources of its calls between them. -/
theorem drop_eq_interleave_source {document : List Char} {start : Nat}
    {found : List Call} (ascending : Call.Ascending start found)
    (inside : Inside document found) :
    document.drop start = interleave (gaps document start found)
      (found.map fun call => call.source document) := by
  induction found generalizing start with
  | nil => simp [gaps, interleave]
  | cons call rest induction =>
      obtain ⟨here, later⟩ := ascending
      obtain ⟨positive, bound⟩ := inside call List.mem_cons_self
      have others := induction later
        fun other member => inside other (List.mem_cons_of_mem _ member)
      have whole : start ≤ call.stop := here.trans (Nat.le_of_lt positive)
      calc
        document.drop start = (document.take call.start).drop start ++
            document.drop call.start := by
          rw [drop_take_append_drop here (by omega)]
        _ = (document.take call.start).drop start ++ (call.source document ++
              document.drop call.stop) := by
          rw [Call.source, drop_take_append_drop (Nat.le_of_lt positive) bound]
        _ = interleave (gaps document start (call :: rest))
              ((call :: rest).map fun call => call.source document) := by
          rw [others]
          rfl

namespace Store

theorem eq_of_validate {store : Store} {found known : List Call}
    (valid : store.validate found = .ok known) : known = found := by
  unfold validate at valid
  split at valid
  · exact (Except.ok.inj valid).symm
  · cases valid

theorem calls_of_collect {store : Store} {document : List Char}
    {found : List Call} (collected : store.collect document = .ok found) :
    calls document = .ok found := by
  unfold collect at collected
  cases read : calls document with
  | error failure =>
      rw [read] at collected
      cases collected
  | ok all =>
      rw [read] at collected
      rw [eq_of_validate collected]

/-- If no call fails, every call is rendered once, in order. -/
theorem exists_texts_of_renderAll {store : Store} {page site : Value}
    {found : List Call} {pairs : List (Call × String)}
    (rendered : (store.renderAll page site found).2 = .ok pairs) :
    (store.renderAll page site found).1 = found ∧
      pairs.map Prod.fst = found ∧
      List.Forall₂ (fun call text => store.render call page site = .ok text)
        found (pairs.map Prod.snd) := by
  induction found generalizing pairs with
  | nil =>
      cases rendered
      exact ⟨rfl, rfl, .nil⟩
  | cons call rest induction =>
      cases result : store.render call page site with
      | error fault => simp [renderAll, result] at rendered
      | ok text => 
          simp only [renderAll, result] at rendered ⊢
          cases others : (store.renderAll page site rest).2 with
          | error failure => simp [others, Except.map] at rendered
          | ok tail =>
              obtain ⟨given, names, texts⟩ := induction others
              simp only [others, Except.map, Except.ok.injEq] at rendered
              subst rendered
              exact ⟨congrArg _ given, congrArg _ names, .cons result texts⟩

theorem texts_eq_sources {store : Store} {document : List Char}
    {page site : Value} {found : List Call} {texts : List String}
    (rendered : List.Forall₂
      (fun call text => store.render call page site = .ok text) found texts)
    (echoes : ∀ call ∈ found, store.render call page site =
      .ok (String.ofList (call.source document))) :
    texts.map String.toList = found.map fun call => call.source document := by
  induction rendered with
  | nil => rfl
  | @cons call text found texts answer _ induction =>
      have others := induction
        fun other member => echoes other (List.mem_cons_of_mem _ member)
      have echo := echoes call List.mem_cons_self
      rw [answer] at echo
      obtain rfl := Except.ok.inj echo
      rw [List.map_cons, List.map_cons, others, String.toList_ofList]

end Store

/-- What a store has been asked and has answered when an expansion returns. -/
theorem exists_texts_of_expand {store : Store} {document result : String}
    {page site : Value}
    (expanded : (store.expand document page site).outcome = .ok result) :
    ∃ pairs : List (Call × String),
      calls document.toList = .ok (pairs.map Prod.fst) ∧
      (store.expand document page site).rendered = pairs.map Prod.fst ∧
      List.Forall₂ (fun call text => store.render call page site = .ok text)
        (pairs.map Prod.fst) (pairs.map Prod.snd) ∧
      result = String.ofList (splice document.toList pairs) := by
  unfold Store.expand at expanded ⊢
  cases collected : store.collect document.toList with
  | error failure =>
      rw [collected] at expanded
      cases expanded
  | ok found =>
      simp only [collected] at expanded ⊢
      cases rendered : (store.renderAll page site found).2 with
      | error failure => simp [rendered, Except.map] at expanded
      | ok pairs =>
          obtain ⟨given, rfl, texts⟩ :=
            Store.exists_texts_of_renderAll rendered
          simp only [rendered, Except.map, Except.ok.injEq] at expanded
          exact ⟨pairs, Store.calls_of_collect collected, given, texts,
            expanded.symm⟩

/-- The result of an expansion is the gaps of the document with the texts of
its calls between them.  The store is given the calls of the document and no
others, whatever it answers. -/
theorem expand_eq_interleave {store : Store} {document result : String}
    {page site : Value}
    (expanded : (store.expand document page site).outcome = .ok result) :
    ∃ found texts, calls document.toList = .ok found ∧
      (store.expand document page site).rendered = found ∧
      List.Forall₂ (fun call text => store.render call page site = .ok text)
        found texts ∧
      result.toList =
        interleave (gaps document.toList 0 found) (texts.map String.toList) ∧
      document.toList = interleave (gaps document.toList 0 found)
        (found.map fun call => call.source document.toList) ∧
      ((∀ call ∈ found, store.render call page site =
          .ok (String.ofList (call.source document.toList))) →
        result = document) := by
  obtain ⟨pairs, read, rendered, texts, spliced⟩ :=
    exists_texts_of_expand expanded
  obtain ⟨ascending, written⟩ := ascending_writtenIn_of_calls read
  have inside : Inside document.toList (pairs.map Prod.fst) :=
    fun call member => (written call member).bounds
  have whole := drop_eq_interleave_source ascending inside
  rw [List.drop_zero] at whole
  have put : result.toList = interleave
      (gaps document.toList 0 (pairs.map Prod.fst))
      ((pairs.map Prod.snd).map String.toList) := by
    rw [spliced, String.toList_ofList, splice_eq_interleave ascending inside,
      List.take_zero, List.nil_append, List.map_map]
    rfl
  refine ⟨_, _, read, rendered, texts, put, whole, ?_⟩
  intro echoes
  rw [Store.texts_eq_sources texts echoes, ← whole] at put
  exact String.toList_inj.mp put

/-- A store that answers each call with a delimiter, a backtick and a fence. -/
def delimiterStore : Store :=
  Outline.store ["a", "b"] [] (some "\x7b\x7b< a() >\x7d\x7d`\n```")

def documentOfTwoCalls : String :=
  "\x7b\x7b< a() >\x7d\x7d `x\n\x7b\x7b% b() %\x7d\x7d y \x7b\x7b% end %\x7d\x7d\n"

/-- What the store makes of the two calls, with the gaps around them. -/
def expansionOfTwoCalls : String :=
  "\x7b\x7b< a() >\x7d\x7d`\n``` `x\n\x7b\x7b< a() >\x7d\x7d`\n```\n"

theorem expand_eq_interleave_of_two_calls :
    (delimiterStore.expand documentOfTwoCalls .null .null).outcome =
      .ok expansionOfTwoCalls ∧
    ∃ found texts, calls documentOfTwoCalls.toList = .ok found ∧
      (delimiterStore.expand documentOfTwoCalls .null .null).rendered = found ∧
      List.Forall₂
        (fun call text => delimiterStore.render call .null .null = .ok text)
        found texts ∧
      expansionOfTwoCalls.toList =
        interleave (gaps documentOfTwoCalls.toList 0 found)
          (texts.map String.toList) ∧
      documentOfTwoCalls.toList =
        interleave (gaps documentOfTwoCalls.toList 0 found)
          (found.map fun call => call.source documentOfTwoCalls.toList) := by
  have expanded :
      (delimiterStore.expand documentOfTwoCalls .null .null).outcome =
        .ok expansionOfTwoCalls := by
    decide +kernel
  obtain ⟨found, texts, read, rendered, answers, put, whole, _⟩ :=
    expand_eq_interleave expanded
  exact ⟨expanded, found, texts, read, rendered, answers, put, whole⟩

end Shortcode
