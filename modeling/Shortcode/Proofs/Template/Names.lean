import Shortcode.Proofs.Outcome
import Shortcode.Template.Render

/-!
# Names that a template reads

The text of a template depends on what its expressions name, and on nothing else.
Two scopes that agree on these names agree on them after each statement, whatever
the statement sets, so two runs from such scopes print the same or fail alike.
-/

namespace Shortcode.Template

variable {names : List String} {scope other : Scope}

/-! ## Expressions -/

mutual

theorem Expression.eval_congr (subject : Expression)
    (agree : ∀ name ∈ subject.names, other name = scope name) :
    subject.eval other = subject.eval scope := by
  cases subject with
  | constant content => rfl
  | name name =>
      simp only [Expression.names, List.mem_singleton, forall_eq] at agree
      rw [Expression.eval, Expression.eval, agree]
  | item subject index =>
      rw [Expression.names, List.forall_mem_append] at agree
      have first := subject.eval_congr agree.1
      have second := index.eval_congr agree.2
      -- The bounds of a part are evaluated one by one, so the index as a whole is no help.
      cases index with
      | part start stop step =>
          have parts := agree.2
          simp only [Expression.names, List.forall_mem_append] at parts
          simp only [Expression.eval, first, start.eval_congr parts.1.1,
            stop.eval_congr parts.1.2, step.eval_congr parts.2]
      | _ =>
          simp only [Expression.eval] at second ⊢
          simp only [first, second]
  | part start stop step =>
      simp only [Expression.names, List.forall_mem_append] at agree
      simp only [Expression.eval, start.eval_congr agree.1.1,
        stop.eval_congr agree.1.2, step.eval_congr agree.2]
  | call subject _ arguments | filter _ subject _ _ arguments
  | test _ subject _ _ arguments =>
      rw [Expression.names, List.forall_mem_append] at agree
      simp only [Expression.eval, subject.eval_congr agree.1,
        evalAll_congr arguments agree.2]
  | member subject _ | negation subject | minus subject | plus subject =>
      rw [Expression.names] at agree
      rw [Expression.eval, Expression.eval, subject.eval_congr agree]
  | conjunction left right | disjunction left right | arithmetic _ left right =>
      rw [Expression.names, List.forall_mem_append] at agree
      simp only [Expression.eval, left.eval_congr agree.1, right.eval_congr agree.2]
  | comparison first signs others =>
      rw [Expression.names, List.forall_mem_append] at agree
      simp only [Expression.eval, first.eval_congr agree.1,
        evalComparison_congr others agree.2]
  | choice condition yes no =>
      simp only [Expression.names, List.forall_mem_append] at agree
      simp only [Expression.eval, condition.eval_congr agree.1.1,
        yes.eval_congr agree.1.2, no.eval_congr agree.2]
  | option place condition yes =>
      rw [Expression.names, List.forall_mem_append] at agree
      simp only [Expression.eval, condition.eval_congr agree.1,
        yes.eval_congr agree.2]
  | list items | row items | concatenation items =>
      rw [Expression.names] at agree
      rw [Expression.eval, Expression.eval, evalAll_congr items agree]
  | map keys contents =>
      rw [Expression.names, List.forall_mem_append] at agree
      simp only [Expression.eval, evalAll_congr keys agree.1,
        evalAll_congr contents agree.2]

theorem evalAll_congr (subjects : List Expression)
    (agree : ∀ name ∈ namesOf subjects, other name = scope name) :
    evalAll other subjects = evalAll scope subjects := by
  cases subjects with
  | nil => rfl
  | cons first rest =>
      rw [namesOf, List.forall_mem_append] at agree
      simp only [evalAll, first.eval_congr agree.1, evalAll_congr rest agree.2]

theorem evalComparison_congr (subjects : List Expression)
    (agree : ∀ name ∈ namesOf subjects, other name = scope name) :
    ∀ (first : Value) (signs : List Comparison),
      evalComparison other first signs subjects =
        evalComparison scope first signs subjects := by
  intro first signs
  cases subjects with
  | nil => rfl
  | cons next rest =>
      rw [namesOf, List.forall_mem_append] at agree
      cases signs with
      | nil => rfl
      | cons sign signs =>
          simp only [evalComparison, next.eval_congr agree.1,
            evalComparison_congr rest agree.2]

end

/-! ## Scopes that agree -/

/-- The scopes give the names the same values. -/
def Scope.AgreesOn (names : List String) (scope other : Scope) : Prop :=
  ∀ name ∈ names, other name = scope name

/-- Two steps fail alike, or their results are related. -/
inductive Alike {α : Type} (related : α → α → Prop) :
    Except RenderError α → Except RenderError α → Prop
  | failed (error : RenderError) : Alike related (.error error) (.error error)
  | done {first second : α} (results : related first second) :
      Alike related (.ok first) (.ok second)

/-- What two runs from such scopes come to: the same text, and such scopes. -/
def Outputs (names : List String) (first second : String × Scope) : Prop :=
  second.1 = first.1 ∧ first.2.AgreesOn names second.2

namespace Alike

variable {α β : Type} {related : α → α → Prop} {next : β → β → Prop}
  {first second : Except RenderError α}

theorem refl (reflexive : ∀ result, related result result)
    (outcome : Except RenderError α) : Alike related outcome outcome := by
  cases outcome with
  | error error => exact .failed error
  | ok result => exact .done (reflexive result)

theorem bind (alike : Alike related first second)
    {step otherStep : α → Except RenderError β}
    (steps : ∀ result other, related result other →
      Alike next (step result) (otherStep other)) :
    Alike next (first >>= step) (second >>= otherStep) := by
  cases alike with
  | failed error => exact .failed error
  | done results => exact steps _ _ results

/-- A first step that is the same in both runs. -/
theorem same (outcome : Except RenderError β)
    {step otherStep : β → Except RenderError α}
    (steps : ∀ result, Alike related (step result) (otherStep result)) :
    Alike related (outcome >>= step) (outcome >>= otherStep) := by
  cases outcome with
  | error error => exact .failed error
  | ok result => exact steps result

theorem eq {outcome : Except RenderError α} (alike : Alike Eq first outcome) :
    outcome = first := by
  cases alike with
  | failed error => rfl
  | done results => rw [results]

end Alike

namespace Scope.AgreesOn

theorem set (agree : scope.AgreesOn names other) (name : String) (content : Value) :
    (scope.set name content).AgreesOn names (other.set name content) := by
  intro read member
  unfold Scope.set
  rw [agree read member]

theorem foldl_set (agree : scope.AgreesOn names other) (contents : String → Value)
    (own : List String) :
    (own.foldl (fun scope name => scope.set name (contents name)) scope).AgreesOn
      names
      (own.foldl (fun scope name => scope.set name (contents name)) other) := by
  induction own generalizing scope other with
  | nil => exact agree
  | cons name rest induction => exact induction (agree.set name (contents name))

theorem eval (agree : scope.AgreesOn names other) {subject : Expression}
    (reads : ∀ name ∈ subject.names, name ∈ names) :
    subject.eval other = subject.eval scope :=
  subject.eval_congr fun name member => agree name (reads name member)

end Scope.AgreesOn

mutual

theorem Scope.AgreesOn.bind (target : Target) {scope other : Scope}
    (agree : scope.AgreesOn names other) (content : Value) :
    Alike (Scope.AgreesOn names) (scope.bind content target)
      (other.bind content target) := by
  cases target with
  | single line name => exact .done (agree.set name content)
  | member owner name => exact .failed fixedMember
  | several targets =>
      rw [Scope.bind, Scope.bind]
      exact .same _ fun contents => Scope.AgreesOn.bindAll targets agree contents

theorem Scope.AgreesOn.bindAll (targets : List Target) {scope other : Scope}
    (agree : scope.AgreesOn names other) (contents : List Value) :
    Alike (Scope.AgreesOn names) (bindAll scope contents targets)
      (bindAll other contents targets) := by
  cases targets with
  | nil => exact .done agree
  | cons first rest =>
      cases contents with
      | nil => exact .done agree
      | cons content contents =>
          apply (Scope.AgreesOn.bind first agree content).bind
          intro scope other agree
          exact Scope.AgreesOn.bindAll rest agree contents

end

/-! ## Loops -/

/-- The rounds go through the same items, in scopes that agree. -/
structure Rounds.AgreesOn (names : List String) (rounds others : Rounds) : Prop where
  failure : others.failure = rounds.failure
  items : List.Forall₂ (fun round other =>
    other.1 = round.1 ∧ round.2.AgreesOn names other.2) rounds.items others.items

theorem Scope.AgreesOn.round (agree : scope.AgreesOn names other)
    {condition : Expression} (reads : ∀ name ∈ condition.names, name ∈ names)
    (target : Target) (item : Value) :
    Alike (fun round other => other.1 = round.1 ∧ round.2.AgreesOn names other.2)
      (roundOf scope target condition item) (roundOf other target condition item) := by
  apply (agree.bind target item).bind
  intro scope other agree
  rw [agree.eval reads]
  exact .same _ fun content => .same _ fun flag => .done ⟨rfl, agree⟩

theorem Scope.AgreesOn.rounds (agree : scope.AgreesOn names other)
    {condition : Expression} (reads : ∀ name ∈ condition.names, name ∈ names)
    (target : Target) (items : List Value) :
    (Rounds.ofItems scope target condition items).AgreesOn names
      (Rounds.ofItems other target condition items) := by
  induction items with
  | nil => exact ⟨rfl, .nil⟩
  | cons item rest induction =>
      have alike := agree.round reads target item
      rw [Rounds.ofItems, Rounds.ofItems]
      generalize roundOf scope target condition item = round at alike ⊢
      generalize roundOf other target condition item = otherRound at alike ⊢
      cases alike with
      | failed error => exact ⟨rfl, .nil⟩
      | @done result otherResult results =>
          obtain ⟨kept, scope⟩ := result
          obtain ⟨otherKept, other⟩ := otherResult
          obtain ⟨rfl, scopes⟩ := results
          dsimp only
          cases otherKept with
          | false => exact induction
          | true => exact ⟨induction.failure, .cons ⟨rfl, scopes⟩ induction.items⟩

theorem Rounds.AgreesOn.scopes {rounds others : Rounds}
    (agree : rounds.AgreesOn names others) :
    List.Forall₂ (Scope.AgreesOn names) rounds.scopes others.scopes := by
  obtain ⟨items, failure⟩ := rounds
  obtain ⟨otherItems, otherFailure⟩ := others
  have relates := agree.items
  dsimp only at relates
  have contents : otherItems.map (·.1) = items.map (·.1) := by
    clear agree
    induction relates with
    | nil => rfl
    | cons first _ induction => rw [List.map_cons, List.map_cons, first.1, induction]
  unfold Rounds.scopes
  dsimp only
  rw [contents]
  generalize items.map (·.1) = values
  generalize 0 = start
  clear agree contents
  induction relates generalizing start with
  | nil => exact .nil
  | cons first _ induction => exact .cons (first.2.set _ _) (induction _)

theorem Rounds.AgreesOn.isEmpty_items {rounds others : Rounds}
    (agree : rounds.AgreesOn names others) :
    others.items.isEmpty = rounds.items.isEmpty := by
  have lengths := agree.items.length_eq
  rw [Bool.eq_iff_iff, List.isEmpty_iff_length_eq_zero,
    List.isEmpty_iff_length_eq_zero, lengths]

/-! ## Statements -/

/-- What a body has printed is one more name that both runs give the same value. -/
theorem Outputs.eval_collected {first second : String × Scope}
    (outputs : Outputs names first second) {result : Expression}
    (reads : ∀ name ∈ result.names, name ∈ names) :
    result.eval (second.2.set collectedName (.text second.1)) =
      result.eval (first.2.set collectedName (.text first.1)) := by
  obtain ⟨sameText, agree⟩ := outputs
  rw [sameText]
  exact (agree.set collectedName (.text first.1)).eval reads

/-- Only the text of a body counts outside. -/
theorem Alike.outside {first second : Except RenderError (String × Scope)}
    (alike : Alike (Outputs names) first second) (agree : scope.AgreesOn names other) :
    Alike (Outputs names) (first >>= fun result => .ok (result.1, scope))
      (second >>= fun result => .ok (result.1, other)) :=
  alike.bind fun _ _ results => .done ⟨results.1, agree⟩

theorem Alike.map_fst {first second : Except RenderError (String × Scope)}
    (alike : Alike (Outputs names) first second) :
    second.map (·.1) = first.map (·.1) := by
  cases alike with
  | failed error => rfl
  | done results => exact congrArg Except.ok results.1

mutual

/-- The names that the expressions of a statement use. -/
def Statement.namesRead : Statement → List String
  | .text _ | .extends .. | .reserved .. => []
  | .print subject => subject.names
  | .choose condition yes no =>
      condition.names ++ (namesReadBy yes ++ namesReadBy no)
  | .loop _ source condition body otherwise =>
      source.names ++ condition.names ++ (namesReadBy body ++ namesReadBy otherwise)
  | .assign _ subject => subject.names
  | .capture _ result body => result.names ++ namesReadBy body
  | .bind _ subjects body => namesOf subjects ++ namesReadBy body
  | .transform result body => result.names ++ namesReadBy body
  | .block _ _ _ body => namesReadBy body

/-- The names that the expressions of several statements use. -/
def namesReadBy : List Statement → List String
  | [] => []
  | first :: rest => first.namesRead ++ namesReadBy rest

end

/-- The same names are known in both places, and blocks see scopes that agree. -/
structure Surroundings.AgreesOn (names : List String) (around others : Surroundings) :
    Prop where
  known : others.known = around.known
  outermost : Option.Rel (Scope.AgreesOn names) around.outermost others.outermost

namespace Surroundings.AgreesOn

variable {around others : Surroundings}

theorem blockScope (arounds : around.AgreesOn names others)
    (agree : scope.AgreesOn names other) :
    (around.blockScope scope).AgreesOn names (others.blockScope other) := by
  obtain ⟨known, outermost⟩ := around
  obtain ⟨otherKnown, otherOutermost⟩ := others
  have scopes := arounds.outermost
  unfold Surroundings.blockScope
  cases scopes with
  | none => exact agree
  | some scopes => exact scopes

theorem enter (arounds : around.AgreesOn names others)
    (agree : scope.AgreesOn names other) (own : List String) (body : List Statement) :
    (around.enter own scope body).1.AgreesOn names (others.enter own other body).1 ∧
      (around.enter own scope body).2.AgreesOn names
        (others.enter own other body).2 := by
  unfold Surroundings.enter
  rw [arounds.known]
  exact ⟨⟨rfl, .some (arounds.blockScope agree)⟩, agree.foldl_set _ _⟩

end Surroundings.AgreesOn

-- The names stay the same through the whole induction: what a statement sets, it sets
-- to the same value in both runs, and an inner body starts from scopes that agree.
mutual

theorem Statement.run_alike (statement : Statement) {around others : Surroundings}
    {scope other : Scope} (reads : ∀ name ∈ statement.namesRead, name ∈ names)
    (arounds : around.AgreesOn names others) (agree : scope.AgreesOn names other) :
    Alike (Outputs names) (statement.run around scope)
      (statement.run others other) := by
  cases statement with
  | text content => exact .done ⟨rfl, agree⟩
  | print subject =>
      rw [Statement.run, Statement.run, agree.eval reads]
      exact .same _ fun content => .same _ fun text => .done ⟨rfl, agree⟩
  | choose condition yes no =>
      simp only [Statement.namesRead, List.forall_mem_append] at reads
      rw [Statement.run, Statement.run, agree.eval reads.1]
      apply Alike.same
      intro content
      apply Alike.same
      intro flag
      cases flag with
      | true => exact runAll_alike yes reads.2.1 arounds agree
      | false => exact runAll_alike no reads.2.2 arounds agree
  | loop target source condition body otherwise =>
      simp only [Statement.namesRead, List.forall_mem_append] at reads
      obtain ⟨⟨sourceReads, conditionReads⟩, bodyReads, otherwiseReads⟩ := reads
      rw [Statement.run, Statement.run, agree.eval sourceReads]
      apply Alike.same
      intro content
      apply Alike.same
      intro items
      have rounds := agree.rounds conditionReads target items
      generalize Rounds.ofItems scope target condition items = made at rounds ⊢
      generalize Rounds.ofItems other target condition items = otherMade at rounds ⊢
      dsimp only
      rw [rounds.failure, rounds.isEmpty_items]
      cases made.items.isEmpty && made.failure.isNone with
      | true =>
          have entered := arounds.enter agree [] otherwise
          exact (runAll_alike otherwise otherwiseReads entered.1 entered.2).outside agree
      | false =>
          rw [if_neg Bool.false_ne_true, if_neg Bool.false_ne_true,
            mapM_congr_of_forall₂ rounds.scopes]
          · apply Alike.same
            intro texts
            cases made.failure with
            | none => exact .done ⟨rfl, agree⟩
            | some error => exact .failed error
          · intro round otherRound agree
            apply Alike.eq
            have entered :=
              arounds.enter agree ("loop" :: target.mentions.map Mention.name) body
            exact (runAll_alike body bodyReads entered.1 entered.2).bind
              fun _ _ results => .done results.1.symm
  | assign target subject =>
      rw [Statement.run, Statement.run, agree.eval reads]
      cases target.hasMember with
      | true => exact .failed fixedMember
      | false =>
          apply Alike.same
          intro content
          exact (agree.bind target content).bind fun _ _ agree => .done ⟨rfl, agree⟩
  | capture target result body =>
      simp only [Statement.namesRead, List.forall_mem_append] at reads
      rw [Statement.run, Statement.run]
      have entered := arounds.enter agree [] body
      apply (runAll_alike body reads.2 entered.1 entered.2).bind
      intro inner otherInner outputs
      dsimp only
      rw [outputs.eval_collected reads.1]
      apply Alike.same
      intro content
      exact (agree.bind target content).bind fun _ _ agree => .done ⟨rfl, agree⟩
  | bind targets subjects body =>
      simp only [Statement.namesRead, List.forall_mem_append] at reads
      rw [Statement.run, Statement.run,
        evalAll_congr subjects fun name member => agree name (reads.1 name member)]
      apply Alike.same
      intro contents
      apply (agree.bindAll targets contents).bind
      intro bound otherBound bounds
      have entered :=
        arounds.enter bounds ((mentionsOfTargets targets).map Mention.name) body
      exact (runAll_alike body reads.2 entered.1 entered.2).outside agree
  | transform result body =>
      simp only [Statement.namesRead, List.forall_mem_append] at reads
      rw [Statement.run, Statement.run]
      have entered := arounds.enter agree [] body
      apply (runAll_alike body reads.2 entered.1 entered.2).bind
      intro inner otherInner outputs
      dsimp only
      rw [outputs.eval_collected reads.1]
      exact .same _ fun content => .same _ fun text => .done ⟨rfl, agree⟩
  | block line name required body =>
      rw [Statement.run, Statement.run]
      cases required with
      | true => exact .failed _
      | false =>
          have outermost := arounds.blockScope agree
          have inside : Surroundings.AgreesOn names
              ⟨[], some (around.blockScope scope)⟩
              ⟨[], some (others.blockScope other)⟩ :=
            ⟨rfl, .some outermost⟩
          have entered := inside.enter outermost [] body
          exact (runAll_alike body reads entered.1 entered.2).outside agree
  | «extends» line template => exact .failed _
  | reserved keyword subjects body => exact .failed _

theorem runAll_alike (body : List Statement) {around others : Surroundings}
    {scope other : Scope} (reads : ∀ name ∈ namesReadBy body, name ∈ names)
    (arounds : around.AgreesOn names others) (agree : scope.AgreesOn names other) :
    Alike (Outputs names) (runAll around scope body) (runAll others other body) := by
  cases body with
  | nil => exact .done ⟨rfl, agree⟩
  | cons first rest =>
      rw [namesReadBy, List.forall_mem_append] at reads
      apply (first.run_alike reads.1 arounds agree).bind
      rintro ⟨text, scope⟩ ⟨otherText, other⟩ ⟨rfl, agree⟩
      apply (runAll_alike rest reads.2 arounds agree).bind
      rintro ⟨more, scope⟩ ⟨otherMore, other⟩ ⟨rfl, agree⟩
      exact .done ⟨rfl, agree⟩

end

/-- A template prints the same from scopes that agree on the names in it. -/
theorem Tree.render_congr (tree : Tree)
    (agree : ∀ name ∈ namesReadBy tree, other name = scope name) :
    tree.render other = tree.render scope := by
  have arounds : Surroundings.AgreesOn (namesReadBy tree)
      ⟨(Names.ofBody [] tree).known, none⟩ ⟨(Names.ofBody [] tree).known, none⟩ :=
    ⟨rfl, .none⟩
  have starts := Scope.AgreesOn.foldl_set agree (fun name => .missing (.name name))
    (Names.ofBody [] tree).own
  have alike := runAll_alike tree (fun _ member => member) arounds starts
  exact alike.map_fst

end Shortcode.Template
