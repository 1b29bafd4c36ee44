import Mathlib.Data.List.Sort
import Mathlib.Data.String.Basic
import Shortcode.Proofs.Expansion

/-!
# What an expansion asks of the store

`Trace` lists the four ways in which an expansion can go: the document is
malformed, a name is unknown, a call fails, or every call is rendered.  Every
document takes exactly one of them, with exactly the calls that the trace names
given to the store.
-/

namespace Shortcode

theorem sortNames_perm (names : List String) :
    (sortNames names).Perm names :=
  List.mergeSort_perm names _

theorem mergeSort_pairwise {α : Type} (key : α → String) (items : List α) :
    (items.mergeSort fun left right =>
      key left < key right || key left == key right).Pairwise
        (key · ≤ key ·) := by
  let before : α → α → Bool :=
    fun left right => key left < key right || key left == key right
  have le : ∀ left right, before left right = true ↔ key left ≤ key right := by
    intro left right
    simp [before, le_iff_lt_or_eq]
  have sorted : (items.mergeSort before).Pairwise
      fun left right => before left right = true := by
    refine List.pairwise_mergeSort ?_ ?_ items
    · intro first second third early late
      rw [le] at early late ⊢
      exact early.trans late
    · intro first second
      rw [Bool.or_eq_true, le, le]
      exact le_total (key first) (key second)
  exact sorted.imp fun {left right} ordered => (le left right).mp ordered

theorem sortNames_pairwise (names : List String) :
    (sortNames names).Pairwise (· ≤ ·) :=
  mergeSort_pairwise id names

theorem eq_sortNames {names sorted : List String} (perm : sorted.Perm names)
    (pairwise : sorted.Pairwise (· ≤ ·)) : sorted = sortNames names := by
  refine List.Perm.eq_of_pairwise' pairwise (sortNames_pairwise names) ?_
  exact perm.trans (sortNames_perm names).symm

namespace Store

variable {store : Store} {page site : Value}

/-! ## One phase after the other -/

theorem collect_of_calls_error {document : List Char} {failure : Failure}
    (read : calls document = .error failure) :
    store.collect document = .error failure := by
  rw [collect, read]
  rfl

theorem collect_of_unknown {document : List Char} {known rest : List Call}
    {call : Call} (read : calls document = .ok (known ++ call :: rest))
    (allKnown : ∀ other ∈ known, store.isKnown other.name = true)
    (unknown : store.isKnown call.name = false) :
    store.collect document = .error
      (.fault ⟨call.line, .unknown call.name (sortNames store.names)⟩) := by
  have first : (known ++ call :: rest).find?
      (fun other => !store.isKnown other.name) = some call := by
    rw [List.find?_eq_some_iff_append]
    refine ⟨by simp [unknown], known, rest, rfl, ?_⟩
    intro other member
    simp [allKnown other member]
  rw [collect, read]
  change store.validate (known ++ call :: rest) = _
  rw [validate, first]

theorem collect_of_known {document : List Char} {found : List Call}
    (read : calls document = .ok found)
    (allKnown : ∀ call ∈ found, store.isKnown call.name = true) :
    store.collect document = .ok found := by
  have none : found.find? (fun call => !store.isKnown call.name) = none := by
    rw [List.find?_eq_none]
    intro call member
    simp [allKnown call member]
  rw [collect, read]
  change store.validate found = _
  rw [validate, none]

/-- The first call that fails is the last one that is rendered. -/
theorem renderAll_of_failed {before rest : List Call} {call : Call}
    {fault : Fault}
    (rendered : ∀ other ∈ before, ∃ text,
      store.render other page site = .ok text)
    (failed : store.render call page site = .error fault) :
    store.renderAll page site (before ++ call :: rest) =
      (before ++ [call], .error (.fault fault)) := by
  induction before with
  | nil => simp [renderAll, failed]
  | cons first before induction =>
      obtain ⟨⟨text, answer⟩, others⟩ := List.forall_mem_cons.mp rendered
      have later := induction others
      simp [renderAll, answer, later, Except.map]

theorem renderAll_of_rendered {found : List Call} {texts : List String}
    (rendered : List.Forall₂
      (fun call text => store.render call page site = .ok text) found texts) :
    store.renderAll page site found = (found, .ok (found.zip texts)) := by
  induction rendered with
  | nil => rfl
  | cons answer _ induction => simp [renderAll, answer, induction, Except.map]

/-- Every call is rendered, or one is the first that fails. -/
theorem rendered_or_failed (store : Store) (page site : Value)
    (found : List Call) :
    (∃ texts, List.Forall₂
      (fun call text => store.render call page site = .ok text) found texts) ∨
    ∃ before call rest fault, found = before ++ call :: rest ∧
      (∀ other ∈ before, ∃ text, store.render other page site = .ok text) ∧
      store.render call page site = .error fault := by
  induction found with
  | nil => exact .inl ⟨[], .nil⟩
  | cons call found induction =>
      cases answer : store.render call page site with
      | error fault => exact .inr ⟨[], call, found, fault, rfl, by simp, answer⟩
      | ok text =>
          rcases induction with
            ⟨texts, rendered⟩ | ⟨before, other, rest, fault, rfl, early, failed⟩
          · exact .inl ⟨text :: texts, .cons answer rendered⟩
          · refine .inr ⟨call :: before, other, rest, fault, rfl, ?_, failed⟩
            exact List.forall_mem_cons.mpr ⟨⟨text, answer⟩, early⟩

theorem known_or_unknown (store : Store) (found : List Call) :
    (∀ call ∈ found, store.isKnown call.name = true) ∨
    ∃ known call rest, found = known ++ call :: rest ∧
      (∀ other ∈ known, store.isKnown other.name = true) ∧
      store.isKnown call.name = false := by
  cases first : found.find? fun call => !store.isKnown call.name with
  | none =>
      left
      intro call member
      simpa using List.find?_eq_none.mp first call member
  | some call =>
      obtain ⟨unknown, known, rest, cut, early⟩ :=
        List.find?_eq_some_iff_append.mp first
      refine .inr ⟨known, call, rest, cut, ?_, by simpa using unknown⟩
      intro other member
      simpa using early other member

end Store

/-! ## The whole expansion -/

/-- The calls given to the store, in order, and the outcome of a document. -/
inductive Trace (store : Store) (document : String) (page site : Value) :
    Expansion → Prop where
  /-- The document cannot be read, and nothing is rendered. -/
  | malformed {failure : Failure} :
      calls document.toList = .error failure →
      Trace store document page site ⟨[], .error failure⟩
  /-- The first unknown name is reported with all names in order, and nothing
  is rendered. -/
  | unknown {known rest : List Call} {call : Call} {names : List String} :
      calls document.toList = .ok (known ++ call :: rest) →
      (∀ other ∈ known, store.isKnown other.name = true) →
      store.isKnown call.name = false →
      names.Perm store.names → names.Pairwise (· ≤ ·) →
      Trace store document page site
        ⟨[], .error (.fault ⟨call.line, .unknown call.name names⟩)⟩
  /-- The calls are rendered up to the first that fails. -/
  | failed {before rest : List Call} {call : Call} {fault : Fault} :
      calls document.toList = .ok (before ++ call :: rest) →
      (∀ other ∈ before ++ call :: rest, store.isKnown other.name = true) →
      (∀ other ∈ before, ∃ text, store.render other page site = .ok text) →
      store.render call page site = .error fault →
      Trace store document page site
        ⟨before ++ [call], .error (.fault fault)⟩
  /-- Every call is rendered once, and the texts stand in their places. -/
  | rendered {found : List Call} {texts : List String} {result : String} :
      calls document.toList = .ok found →
      (∀ call ∈ found, store.isKnown call.name = true) →
      List.Forall₂ (fun call text => store.render call page site = .ok text)
        found texts →
      result.toList = interleave (gaps document.toList 0 found)
        (texts.map String.toList) →
      Trace store document page site ⟨found, .ok result⟩

namespace Trace

variable {store : Store} {document : String} {page site : Value}
  {expansion : Expansion}

/-- The texts of the calls, put in their places from the last to the first. -/
theorem splice_zip {found : List Call} {texts : List String}
    (read : calls document.toList = .ok found)
    (length : found.length = texts.length) :
    splice document.toList (found.zip texts) =
      interleave (gaps document.toList 0 found) (texts.map String.toList) := by
  have firsts : (found.zip texts).map Prod.fst = found :=
    List.map_fst_zip (Nat.le_of_eq length)
  have seconds : (found.zip texts).map (fun entry => entry.2.toList) =
      texts.map String.toList := by
    calc
      (found.zip texts).map (fun entry => entry.2.toList) =
          ((found.zip texts).map Prod.snd).map String.toList := by
        rw [List.map_map]
        rfl
      _ = texts.map String.toList := by
        rw [List.map_snd_zip (Nat.le_of_eq length.symm)]
  obtain ⟨ascending, written⟩ := ascending_writtenIn_of_calls read
  have inside : Inside document.toList found :=
    fun call member => (written call member).bounds
  rw [splice_eq_interleave (firsts.symm ▸ ascending) (firsts.symm ▸ inside),
    firsts, seconds, List.take_zero, List.nil_append]

theorem expand_eq (trace : Trace store document page site expansion) :
    store.expand document page site = expansion := by
  cases trace with
  | malformed read =>
      rw [Store.expand, Store.collect_of_calls_error read]
  | unknown read allKnown unknown perm pairwise =>
      rw [Store.expand, Store.collect_of_unknown read allKnown unknown,
        eq_sortNames perm pairwise]
  | failed read allKnown rendered failed =>
      rw [Store.expand, Store.collect_of_known read allKnown]
      simp only [Store.renderAll_of_failed rendered failed, Except.map]
  | rendered read allKnown rendered put =>
      rw [Store.expand, Store.collect_of_known read allKnown]
      simp only [Store.renderAll_of_rendered rendered, Except.map,
        splice_zip read rendered.length_eq, ← put, String.ofList_toList]

theorem exists_trace (store : Store) (document : String) (page site : Value) :
    ∃ expansion, Trace store document page site expansion := by
  cases read : calls document.toList with
  | error failure => exact ⟨_, .malformed read⟩
  | ok found =>
      rcases store.known_or_unknown found with
        allKnown | ⟨known, call, rest, rfl, early, unknown⟩
      · rcases store.rendered_or_failed page site found with
          ⟨texts, rendered⟩ | ⟨before, call, rest, fault, rfl, early, failed⟩
        · exact ⟨_, .rendered read allKnown rendered String.toList_ofList⟩
        · exact ⟨_, .failed read allKnown early failed⟩
      · exact ⟨_, .unknown read early unknown (sortNames_perm store.names)
          (sortNames_pairwise store.names)⟩

/-- The names are known exactly if only a render can have failed. -/
theorem collect_iff (trace : Trace store document page site expansion) :
    (∃ found, store.collect document.toList = .ok found) ↔
      ∀ failure, expansion.outcome = .error failure →
        ∃ call ∈ expansion.rendered, ∃ fault,
          store.render call page site = .error fault ∧
            failure = .fault fault := by
  constructor
  · rintro ⟨found, collected⟩ failure failed
    cases trace with
    | malformed read =>
        rw [Store.collect_of_calls_error read] at collected
        cases collected
    | unknown read allKnown unknown =>
        rw [Store.collect_of_unknown read allKnown unknown] at collected
        cases collected
    | @failed before rest call fault _ _ _ failing =>
        cases failed
        exact ⟨call, by simp, fault, failing, rfl⟩
    | rendered => cases failed
  · intro onlyRender
    cases trace with
    | @malformed failure =>
        obtain ⟨call, member, _⟩ := onlyRender failure rfl
        cases member
    | unknown =>
        obtain ⟨call, member, _⟩ := onlyRender _ rfl
        cases member
    | failed read allKnown => exact ⟨_, Store.collect_of_known read allKnown⟩
    | rendered read allKnown => exact ⟨_, Store.collect_of_known read allKnown⟩

/-- The rendered calls are the collected ones, up to the first that fails. -/
theorem rendered_prefix (trace : Trace store document page site expansion)
    {found : List Call} (collected : store.collect document.toList = .ok found) :
    expansion.rendered <+: found ∧
      ∀ result, expansion.outcome = .ok result → expansion.rendered = found := by
  cases trace with
  | malformed => exact ⟨List.nil_prefix, by simp⟩
  | unknown => exact ⟨List.nil_prefix, by simp⟩
  | @failed before rest call fault read allKnown =>
      rw [Store.collect_of_known read allKnown] at collected
      cases collected
      exact ⟨⟨rest, by simp⟩, by simp⟩
  | rendered read allKnown =>
      rw [Store.collect_of_known read allKnown] at collected
      cases collected
      exact ⟨List.prefix_rfl, fun _ _ => rfl⟩

end Trace

/-- An expansion is the one trace of its document, and the calls of a document
are collected exactly if nothing but a render can fail. -/
theorem expand_eq_iff_trace (store : Store) (document : String)
    (page site : Value) :
    (∀ expansion, store.expand document page site = expansion ↔
      Trace store document page site expansion) ∧
    ((∃ found, store.collect document.toList = .ok found) ↔
      ∀ failure,
        (store.expand document page site).outcome = .error failure →
          ∃ call ∈ (store.expand document page site).rendered, ∃ fault,
            store.render call page site = .error fault ∧
              failure = .fault fault) ∧
    ∀ found, store.collect document.toList = .ok found →
      (store.expand document page site).rendered <+: found ∧
        ∀ result,
          (store.expand document page site).outcome = .ok result →
            (store.expand document page site).rendered = found := by
  obtain ⟨taken, trace⟩ := Trace.exists_trace store document page site
  refine ⟨?_, ?_, ?_⟩
  · intro expansion
    constructor
    · rintro rfl
      rwa [trace.expand_eq]
    · exact Trace.expand_eq
  · rw [trace.expand_eq]
    exact trace.collect_iff
  · intro found collected
    rw [trace.expand_eq]
    exact trace.rendered_prefix collected

end Shortcode
