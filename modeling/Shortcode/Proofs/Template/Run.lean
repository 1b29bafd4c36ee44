import Shortcode.Proofs.Outcome
import Shortcode.Template.Render

/-!
# Templates that print

`Runs` says that a body of statements prints something from a scope, and what
holds of the scope after it.  There is a rule for each kind of statement that
such bodies are made of; each asks for no more than that what is printed can be
printed and that what is decided can be decided.
-/

namespace Shortcode

namespace Value

variable {content : Value}

/-- A value that a template can use. -/
def IsPresent (content : Value) : Prop := content.present = .ok content

/-- A value that a template can print. -/
structure IsPrintable (content : Value) : Prop where
  present : content.IsPresent
  short : content.exceeds digitLimit = false

theorem isPresent_of_isTrue (holds : content.isTrue = true) :
    content.IsPresent := by
  cases content with
  | missing what => cases holds
  | _ => rfl

theorem IsPresent.condition (present : content.IsPresent) :
    content.condition = .ok content.isTrue := by
  cases content with
  | missing what => cases present
  | _ => rfl

theorem IsPrintable.print (printable : content.IsPrintable) :
    content.print = .ok content.display := by
  have written : content.written = .ok content.display := by
    rw [Value.written, printable.short]
    rfl
  have present := printable.present
  cases content with
  | missing what => cases present
  | _ => rw [Value.print, written] <;> first | rfl | nofun

theorem isPrintable_text (content : String) : (text content).IsPrintable :=
  ⟨rfl, rfl⟩

theorem isPrintable_markup (content : String) : (markup content).IsPrintable :=
  ⟨rfl, rfl⟩

/-- The value is a plain text. -/
def isText : Value → Bool
  | .text _ => true
  | _ => false

theorem exists_text_of_isText (isText : content.isText = true) :
    ∃ text, content = .text text := by
  cases content with
  | text text => exact ⟨text, rfl⟩
  | _ => cases isText

/-- The member of a mapping is the entry of its name, unless mappings have an
operation of that name. -/
theorem member_map {entries : List (Value × Value)} {name : String}
    (plain : (map entries).attribute? name = none) :
    (map entries).member name =
      .ok ((find? (.text name) entries).getD
        (.missing (.member "dict object" name))) := by
  have found : ((map entries).attribute? name).or
      ((map entries).itemOf? (.text name)) = find? (.text name) entries := by
    rw [plain]
    rfl
  unfold Value.member
  dsimp only [Value.present, bind, Except.bind]
  rw [found]
  cases find? (.text name) entries with
  | none => rfl
  | some content => rfl

end Value

namespace Template

variable {around : Surroundings} {scope : Scope} {subject : Expression}
  {content : Value} {body : List Statement} {goal : Scope → Prop}

/-! ## Expressions -/

/-- The value of the expression can be printed. -/
def Prints (scope : Scope) (subject : Expression) : Prop :=
  ∃ content, subject.eval scope = .ok content ∧ content.IsPrintable

/-- The expression can be a condition, and whether it holds. -/
def Decides (scope : Scope) (subject : Expression) (flag : Bool) : Prop :=
  ∃ content, subject.eval scope = .ok content ∧ content.condition = .ok flag

theorem prints_name {name : String} (printable : (scope name).IsPrintable) :
    Prints scope (.name name) :=
  ⟨scope name, rfl, printable⟩

theorem decides_name {name : String} (present : (scope name).IsPresent) :
    Decides scope (.name name) (scope name).isTrue :=
  ⟨scope name, rfl, present.condition⟩

theorem exists_applyEscape (printable : content.IsPrintable) :
    ∃ escaped, applyEscape content = .ok (.markup escaped) := by
  cases content with
  | markup content => exact ⟨content, rfl⟩
  | _ =>
      rw [applyEscape, printable.print]
      · exact ⟨_, rfl⟩
      · nofun

theorem Prints.escape {line : Nat} (prints : Prints scope subject) :
    Prints scope (.filter line subject "e" [] []) := by
  obtain ⟨content, value, printable⟩ := prints
  obtain ⟨escaped, applied⟩ := exists_applyEscape printable
  refine ⟨.markup escaped, ?_, Value.isPrintable_markup escaped⟩
  change (subject.eval scope >>= _) = _
  rw [value]
  exact applied

theorem decides_bool {flag : Bool} (value : subject.eval scope = .ok (.bool flag)) :
    Decides scope subject flag :=
  ⟨.bool flag, value, rfl⟩

theorem decides_defined {line : Nat} (value : subject.eval scope = .ok content)
    (present : content.IsPresent) :
    Decides scope (.test line subject "defined" [] []) true := by
  apply decides_bool
  change (subject.eval scope >>= _) = _
  rw [value]
  cases content with
  | missing what => cases present
  | _ => rfl

theorem decides_undefined {line : Nat} {what : Missing}
    (value : subject.eval scope = .ok (.missing what)) :
    Decides scope (.test line subject "defined" [] []) false := by
  apply decides_bool
  change (subject.eval scope >>= _) = _
  rw [value]
  rfl

theorem decides_equal {name text other : String}
    (bound : scope name = .text text) :
    Decides scope (.comparison (.name name) [.equal] [.constant (.text other)])
      (text == other) := by
  apply decides_bool
  change evalComparison scope (scope name) [.equal] [.constant (.text other)] = _
  rw [bound]
  change (if text == other then Except.ok (Value.bool true)
    else Except.ok (Value.bool false)) = _
  cases text == other with
  | true => rfl
  | false => rfl

theorem Decides.conjunction {left right : Expression} {flag : Bool}
    (decides : Decides scope left true) (later : Decides scope right flag) :
    Decides scope (.conjunction left right) flag := by
  obtain ⟨content, value, decided⟩ := decides
  change ∃ found, (left.eval scope >>= _) = _ ∧ _
  rw [value]
  change ∃ found, (content.condition >>= _) = _ ∧ _
  rw [decided]
  exact later

theorem Decides.conjunction_false {left right : Expression}
    (decides : Decides scope left false) :
    Decides scope (.conjunction left right) false := by
  obtain ⟨content, value, decided⟩ := decides
  refine ⟨content, ?_, decided⟩
  change (left.eval scope >>= _) = _
  rw [value]
  change (content.condition >>= _) = _
  rw [decided]
  rfl

theorem eval_choice {condition yes no : Expression} {flag : Bool}
    (decides : Decides scope condition flag) :
    (Expression.choice condition yes no).eval scope =
      (if flag then yes else no).eval scope := by
  obtain ⟨content, value, decided⟩ := decides
  change (condition.eval scope >>= _) = _
  rw [value]
  change (content.condition >>= _) = _
  rw [decided]
  cases flag with
  | true => rfl
  | false => rfl

theorem Prints.choice {condition yes no : Expression} {flag : Bool}
    (decides : Decides scope condition flag)
    (whenTrue : flag = true → Prints scope yes)
    (whenFalse : flag = false → Prints scope no) :
    Prints scope (.choice condition yes no) := by
  unfold Prints
  rw [eval_choice decides]
  cases flag with
  | true => exact whenTrue rfl
  | false => exact whenFalse rfl

theorem prints_constant {text : String} :
    Prints scope (.constant (.text text)) :=
  ⟨.text text, rfl, Value.isPrintable_text text⟩

/-! ## Statements -/

/-- The scope behind some statements, if none of them fails. -/
def endScope (around : Surroundings) (scope : Scope) (body : List Statement) :
    Except RenderError Scope :=
  (runAll around scope body).map Prod.snd

theorem endScope_cons (first : Statement) (body : List Statement) :
    endScope around scope (first :: body) =
      ((first.run around scope).map Prod.snd).bind fun next =>
        endScope around next body := by
  change (first.run around scope >>= _).map Prod.snd = _
  cases first.run around scope with
  | error error => rfl
  | ok result =>
      change ((runAll around result.2 body).bind _).map Prod.snd =
        (runAll around result.2 body).map Prod.snd
      cases runAll around result.2 body with
      | error error => rfl
      | ok others => rfl

theorem endScope_append (body others : List Statement) :
    endScope around scope (body ++ others) =
      (endScope around scope body).bind fun next =>
        endScope around next others := by
  induction body generalizing scope with
  | nil => rfl
  | cons first body induction =>
      rw [List.cons_append, endScope_cons, endScope_cons]
      cases (first.run around scope).map Prod.snd with
      | error error => rfl
      | ok next => exact induction

theorem run_choose (yes no : List Statement) :
    (Statement.choose subject yes no).run around scope =
      (subject.eval scope).bind fun content => content.condition.bind fun flag =>
        runAll around scope (if flag then yes else no) := by
  change (subject.eval scope >>= _) = _
  cases subject.eval scope with
  | error error => rfl
  | ok content =>
      change (content.condition >>= _) = content.condition.bind _
      cases content.condition with
      | error error => rfl
      | ok flag =>
          cases flag with
          | true => rfl
          | false => rfl

/-- The statements print something from the scope, and the scope after them has
the property. -/
def Runs (around : Surroundings) (scope : Scope) (body : List Statement)
    (goal : Scope → Prop) : Prop :=
  ∃ after, endScope around scope body = .ok after ∧ goal after

namespace Runs

theorem nil (reached : goal scope) : Runs around scope [] goal :=
  ⟨scope, rfl, reached⟩

theorem cons {first : Statement} {next : Scope}
    (run : (first.run around scope).map Prod.snd = .ok next)
    (rest : Runs around next body goal) :
    Runs around scope (first :: body) goal := by
  unfold Runs
  rw [endScope_cons, run]
  exact rest

theorem print (prints : Prints scope subject)
    (rest : Runs around scope body goal) :
    Runs around scope (.print subject :: body) goal := by
  obtain ⟨content, value, printable⟩ := prints
  apply cons _ rest
  change (subject.eval scope >>= _).map Prod.snd = _
  rw [value]
  change (content.print >>= _).map Prod.snd = _
  rw [printable.print]
  rfl

theorem assign {line : Nat} {name : String}
    (value : subject.eval scope = .ok content)
    (rest : Runs around (scope.set name content) body goal) :
    Runs around scope (.assign (.single line name) subject :: body) goal := by
  apply cons _ rest
  change (subject.eval scope >>= _).map Prod.snd = _
  rw [value]
  rfl

theorem choose {yes no : List Statement} {flag : Bool}
    (between : Scope → Prop) (decides : Decides scope subject flag)
    (branch : Runs around scope (if flag then yes else no) between)
    (rest : ∀ after, between after → Runs around after body goal) :
    Runs around scope (.choose subject yes no :: body) goal := by
  obtain ⟨content, value, decided⟩ := decides
  obtain ⟨after, ended, reached⟩ := branch
  apply cons _ (rest after reached)
  rw [run_choose, value]
  change (content.condition.bind _).map Prod.snd = _
  rw [decided]
  exact ended

/-- A choice that sets nothing. -/
theorem optional {yes no : List Statement} {flag : Bool}
    (decides : Decides scope subject flag)
    (branch : Runs around scope (if flag then yes else no) (· = scope))
    (rest : Runs around scope body goal) :
    Runs around scope (.choose subject yes no :: body) goal :=
  choose (· = scope) decides branch fun _ same => same ▸ rest

/-- A body that sets nothing leaves the scope as it finds it. -/
theorem frame (unchanged : Runs around scope body (· = scope))
    (reached : goal scope) : Runs around scope body goal := by
  obtain ⟨after, ended, rfl⟩ := unchanged
  exact ⟨after, ended, reached⟩

theorem ite {yes no : List Statement} {flag : Bool}
    (whenTrue : flag = true → Runs around scope yes goal)
    (whenFalse : flag = false → Runs around scope no goal) :
    Runs around scope (if flag then yes else no) goal := by
  cases flag with
  | true => exact whenTrue rfl
  | false => exact whenFalse rfl

/-- A choice without a second alternative. -/
theorem provided {yes : List Statement} {flag : Bool}
    (decides : Decides scope subject flag)
    (branch : flag = true → Runs around scope yes (· = scope))
    (rest : Runs around scope body goal) :
    Runs around scope (.choose subject yes [] :: body) goal :=
  optional decides (ite branch fun _ => nil rfl) rest

theorem append {others : List Statement} (between : Scope → Prop)
    (first : Runs around scope body between)
    (rest : ∀ after, between after → Runs around after others goal) :
    Runs around scope (body ++ others) goal := by
  obtain ⟨after, ended, reached⟩ := first
  unfold Runs
  rw [endScope_append, ended]
  exact rest after reached

end Runs

/-! ## Without texts -/

mutual

/-- What is left of a statement without the texts in it. -/
def Statement.core : Statement → List Statement
  | .text _ => []
  | .choose condition yes no => [.choose condition (coreOf yes) (coreOf no)]
  | other => [other]

/-- What is left of some statements without the texts in them. -/
def coreOf : List Statement → List Statement
  | [] => []
  | first :: rest => first.core ++ coreOf rest

end

theorem endScope_singleton (statement : Statement) :
    endScope around scope [statement] =
      (statement.run around scope).map Prod.snd := by
  rw [endScope_cons]
  cases (statement.run around scope).map Prod.snd with
  | error error => rfl
  | ok next => rfl

mutual

theorem Statement.endScope_core (statement : Statement) (around : Surroundings)
    (scope : Scope) : endScope around scope statement.core =
      endScope around scope [statement] := by
  cases statement with
  | text content => rfl
  | choose condition yes no =>
      rw [Statement.core, endScope_singleton, endScope_singleton, run_choose,
        run_choose]
      cases condition.eval scope with
      | error error => rfl
      | ok content =>
          change (content.condition.bind _).map Prod.snd =
            (content.condition.bind _).map Prod.snd
          cases content.condition with
          | error error => rfl
          | ok flag =>
              cases flag with
              | true => exact endScope_coreOf yes around scope
              | false => exact endScope_coreOf no around scope
  | _ => rfl

/-- Texts do not decide what becomes of a body. -/
theorem endScope_coreOf (body : List Statement) (around : Surroundings)
    (scope : Scope) :
    endScope around scope (coreOf body) = endScope around scope body := by
  cases body with
  | nil => rfl
  | cons first rest =>
      rw [coreOf, endScope_append, Statement.endScope_core first,
        endScope_singleton, endScope_cons]
      cases (first.run around scope).map Prod.snd with
      | error error => rfl
      | ok next => exact endScope_coreOf rest around next

end

theorem mentionsWithin_append (body others : List Statement) :
    mentionsWithin (body ++ others) =
      mentionsWithin body ++ mentionsWithin others := by
  induction body with
  | nil => rfl
  | cons first rest induction =>
      rw [List.cons_append, mentionsWithin, mentionsWithin, induction,
        List.append_assoc]

mutual

theorem Statement.mentionsWithin_core (statement : Statement) :
    mentionsWithin statement.core = statement.mentions := by
  cases statement with
  | choose condition yes no =>
      rw [Statement.core, mentionsWithin, mentionsWithin, List.append_nil,
        Statement.mentions, Statement.mentions, mentionsWithin_coreOf yes,
        mentionsWithin_coreOf no]
  | text content => rfl
  | _ => exact List.append_nil _

theorem mentionsWithin_coreOf (body : List Statement) :
    mentionsWithin (coreOf body) = mentionsWithin body := by
  cases body with
  | nil => rfl
  | cons first rest =>
      rw [coreOf, mentionsWithin_append, Statement.mentionsWithin_core first,
        mentionsWithin_coreOf rest, mentionsWithin]

end

/-! ## Whole templates -/

/-- The scope from which a template is run. -/
def Tree.start (tree : Tree) (scope : Scope) : Scope :=
  (Names.ofBody [] tree).own.foldl
    (fun scope name => scope.set name (.missing (.name name))) scope

/-- A name that a template does not own stands for what it does outside. -/
theorem Tree.start_of_notMem {tree : Tree} {name : String}
    (foreign : name ∉ (Names.ofBody [] tree).own) (scope : Scope) :
    tree.start scope name = scope name := by
  unfold start
  generalize (Names.ofBody [] tree).own = own at foreign
  induction own generalizing scope with
  | nil => rfl
  | cons first rest induction =>
      rw [List.mem_cons, not_or] at foreign
      rw [List.foldl_cons, induction _ foreign.2]
      simp [Scope.set, foreign.1]

/-- Whether a template can be rendered is decided by what is left of it without
its texts. -/
theorem exists_render_iff {tree : Tree} :
    (∃ text, tree.render scope = .ok text) ↔
      Runs ⟨(Names.ofBody [] (coreOf tree)).known, none⟩
        (Tree.start (coreOf tree) scope) (coreOf tree) fun _ => True := by
  have names : Names.ofBody [] (coreOf tree) = Names.ofBody [] tree := by
    rw [Names.ofBody, mentionsWithin_coreOf, Names.ofBody]
  unfold Runs Tree.start
  rw [names, endScope_coreOf, Tree.render, endScope]
  dsimp only
  cases runAll _ _ tree with
  | error error => simp [Except.map]
  | ok result => simp [Except.map]

end Template

end Shortcode
