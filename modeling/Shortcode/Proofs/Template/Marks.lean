import Mathlib.Algebra.Order.BigOperators.Group.List
import Mathlib.Algebra.Order.Group.Nat
import Shortcode.Proofs.Outcome
import Shortcode.Template.Render

/-!
# The marks of a template

The quotes and the angle brackets in what a template prints.  In a body that
prints its arguments escaped, or as they are, these are the marks of the body's
own texts and those of the arguments that it prints as they are.  Such a body
tests for nothing but whether an argument is given.
-/

namespace Shortcode

/-- A character that can end a quoted attribute, or begin or end a tag. -/
def isMark (char : Char) : Bool := char == '"' || char == '<' || char == '>'

/-- The quotes and the angle brackets of a text, in order. -/
def marks (text : String) : List Char := text.toList.filter isMark

theorem marks_append (first second : String) :
    marks (first ++ second) = marks first ++ marks second := by
  rw [marks, String.toList_append, List.filter_append, marks, marks]

theorem marks_flatMap {α : Type} {written : α → List Char} {items : List α}
    (clean : ∀ item, (written item).filter isMark = []) :
    marks (String.ofList (items.flatMap written)) = [] := by
  rw [marks, String.toList_ofList, List.filter_flatMap, List.flatMap_eq_nil_iff]
  exact fun item _ => clean item

namespace Template

theorem marks_escape (text : String) : marks (escape text) = [] := by
  apply marks_flatMap
  intro char
  unfold escapeChar
  split
  · decide
  · decide
  · decide
  · decide
  · decide
  · rename_i notLess notGreater _ notQuote
    have clean : isMark char = false := by
      simpa [isMark] using ⟨⟨notQuote, notLess⟩, notGreater⟩
    rw [List.filter_singleton, clean]
    rfl

theorem marks_percentEncode (text : String) :
    marks (percentEncode ['/'] text) = [] := by
  have clean : ∀ number < 256,
      (percentByte ['/'] (UInt8.ofNat number)).filter isMark = [] := by
    decide +kernel
  apply marks_flatMap
  intro byte
  simpa using clean byte.toNat byte.toNat_lt

end Template

namespace Value

variable {content : Value} {flag : Bool}

/-- Whether an argument is given, if the value is what its name can stand for. -/
def given? : Value → Option Bool
  | .missing (.name _) => some false
  | .text _ | .int _ | .float _ | .bool _ => some true
  | _ => none

/-- No whole number in the value is too long to be written. -/
def IsShort (content : Value) : Prop := content.exceeds digitLimit = false

end Value

namespace Template

open Value

variable {short : Prop} {ready flag : Bool} {expected : List Char}
  {answer : Except RenderError String} {content : Value}

/-! ## Printed texts -/

/-- What is printed has these marks.  It is printed only if `ready` says so, and
then at least if all numbers are short. -/
structure Shows (short : Prop) (ready : Bool) (expected : List Char)
    (answer : Except RenderError String) : Prop where
  sound : ∀ text, answer = .ok text → ready = true ∧ marks text = expected
  complete : short → ready = true → ∃ text, answer = .ok text

namespace Shows

theorem text (content : String) :
    Shows short true (marks content) (.ok content) := by
  constructor
  · rintro text ⟨⟩
    exact ⟨rfl, rfl⟩
  · exact fun _ _ => ⟨content, rfl⟩

theorem weaken {other : Prop} (shows : Shows short ready expected answer)
    (stronger : other → short) : Shows other ready expected answer :=
  ⟨shows.sound, fun holds => shows.complete (stronger holds)⟩

theorem map {change : String → String}
    (shows : Shows short ready expected answer)
    (clean : ∀ text, marks (change text) = []) :
    Shows short ready [] (answer.map change) := by
  constructor
  · intro text mapped
    obtain ⟨before, printed, rfl⟩ := exists_of_map_eq_ok mapped
    exact ⟨(shows.sound before printed).1, clean before⟩
  · intro holds isReady
    obtain ⟨before, rfl⟩ := shows.complete holds isReady
    exact ⟨change before, rfl⟩

theorem append {others : Except RenderError String} {more : Bool}
    {marksBehind : List Char} (first : Shows short ready expected answer)
    (second : Shows short more marksBehind others) :
    Shows short (ready && more) (expected ++ marksBehind)
      (answer.bind fun text => others.map (text ++ ·)) := by
  constructor
  · intro text printed
    obtain ⟨lead, rfl, mapped⟩ := exists_of_bind_eq_ok printed
    obtain ⟨rest, rfl, rfl⟩ := exists_of_map_eq_ok mapped
    obtain ⟨isReady, same⟩ := first.sound lead rfl
    obtain ⟨areReady, alike⟩ := second.sound rest rfl
    rw [isReady, areReady, marks_append, same, alike]
    exact ⟨rfl, rfl⟩
  · intro holds bothReady
    rw [Bool.and_eq_true] at bothReady
    obtain ⟨lead, rfl⟩ := first.complete holds bothReady.1
    obtain ⟨rest, rfl⟩ := second.complete holds bothReady.2
    exact ⟨lead ++ rest, rfl⟩

end Shows

theorem shows_print (given : content.given? = some flag) :
    Shows content.IsShort flag (marks content.display) content.print := by
  have shows : Shows content.IsShort true (marks content.display)
      (content.written.mapError fun _ => tooLong) := by
    unfold Value.written IsShort
    cases content.exceeds digitLimit with
    | false => exact Shows.text content.display
    | true => exact ⟨nofun, nofun⟩
  cases content with
  | missing what =>
      cases what with
      | name name =>
          cases given
          exact ⟨nofun, nofun⟩
      | _ => cases given
  | text content | int number | float number | bool flag =>
      cases given
      exact shows
  | _ => cases given

theorem print_applyEscape (given : content.given? = some flag) :
    (applyEscape content).bind Value.print = content.print.map escape := by
  have plain (printed : Except RenderError String) :
      (printed.map fun text => Value.markup (escape text)).bind Value.print =
        printed.map escape := by
    cases printed with
    | error error => rfl
    | ok text => rfl
  cases content with
  | markup content => cases given
  | _ =>
      rw [← plain]
      rfl

theorem print_applyPercent (given : content.given? = some flag) :
    (applyPercent content).bind Value.print =
      content.print.map (percentEncode ['/']) := by
  have plain (printed : Except RenderError String) :
      (printed.map fun text => Value.text (percentEncode ['/'] text)).bind
        Value.print = printed.map (percentEncode ['/']) := by
    cases printed with
    | error error => rfl
    | ok text => rfl
  cases content with
  | missing what =>
      cases what with
      | name name => rfl
      | _ => cases given
  | text content | int number | float number | bool flag =>
      simp only [applyPercent, items?, Option.map_none, Option.getD_none]
      exact plain _
  | _ => cases given

/-! ## Arguments -/

/-- The names stand for arguments, of which these are given. -/
def Scope.Gives (scope : Scope) (used : List String) (given : String → Bool) :
    Prop := ∀ name ∈ used, (scope name).given? = some (given name)

/-- No whole number that one of the names stands for is too long. -/
def Scope.IsShort (scope : Scope) (used : List String) : Prop :=
  ∀ name ∈ used, (scope name).IsShort

variable {scope : Scope} {used : List String} {given : String → Bool}

/-- The expression is an argument or a constant text, or stands for one where an
argument is not given. -/
def Expression.isScalar (used : List String) : Expression → Bool
  | .constant (.text _) => true
  | .name argument => used.contains argument
  | .filter _ subject change slots [other] =>
      change == "default" && slots == [.position] && subject.isScalar used &&
        other.isScalar used
  | _ => false

/-- Whether what the expression stands for is given. -/
def Expression.isGiven (given : String → Bool) : Expression → Bool
  | .name argument => given argument
  | .filter _ subject _ _ [] => subject.isGiven given
  | .filter _ subject _ _ [other] =>
      subject.isGiven given || other.isGiven given
  | _ => true

/-- The expression is escaped, for markup or for an address. -/
def Expression.isEscaped (used : List String) : Expression → Bool
  | .filter _ subject change [] [] =>
      (change == "e" || change == "urlencode") && subject.isScalar used
  | _ => false

/-- The name that the expression is. -/
def Expression.name? : Expression → Option String
  | .name argument => some argument
  | _ => none

/-- The name whose argument the expression asks for. -/
def Expression.tested? : Expression → Option String
  | .test _ subject question [] [] =>
      if question == "defined" then subject.name? else none
  | _ => none

theorem Expression.exists_eval_of_isScalar (gives : scope.Gives used given)
    (subject : Expression) (scalar : subject.isScalar used = true) :
    ∃ content, subject.eval scope = .ok content ∧
      content.given? = some (subject.isGiven given) ∧
      (scope.IsShort used → content.IsShort) := by
  cases subject with
  | constant content =>
      cases content with
      | text content => exact ⟨.text content, rfl, rfl, fun _ => rfl⟩
      | _ => cases scalar
  | name argument =>
      have member : argument ∈ used := by simpa [isScalar] using scalar
      exact ⟨scope argument, rfl, gives _ member, fun short => short _ member⟩
  | filter line subject change slots arguments =>
      match arguments, scalar with
      | [other], scalar =>
          simp only [isScalar, Bool.and_eq_true, beq_iff_eq] at scalar
          obtain ⟨⟨⟨rfl, rfl⟩, first⟩, second⟩ := scalar
          obtain ⟨content, value, isGiven, short⟩ :=
            exists_eval_of_isScalar gives subject first
          obtain ⟨default, otherValue, otherGiven, otherShort⟩ :=
            exists_eval_of_isScalar gives other second
          have applied : (Expression.filter line subject "default" [.position]
              [other]).eval scope = applyDefault content (some default) none := by
            change (subject.eval scope >>= _) = _
            rw [value]
            change ((other.eval scope >>= _) >>= _) = _
            rw [otherValue]
            rfl
          rw [applied, Expression.isGiven]
          cases content with
          | missing what =>
              cases what with
              | name name =>
                  obtain isMissing := Option.some.inj isGiven
                  rw [← isMissing, Bool.false_or]
                  exact ⟨default, rfl, otherGiven, otherShort⟩
              | _ => cases isGiven
          | text content | int number | float number | bool flag =>
              obtain isGiven := Option.some.inj isGiven
              rw [← isGiven, Bool.true_or]
              exact ⟨_, rfl, rfl, short⟩
          | _ => cases isGiven
  | _ => cases scalar

theorem Expression.shows_print_of_isEscaped (gives : scope.Gives used given)
    (subject : Expression) (escaped : subject.isEscaped used = true) :
    Shows (scope.IsShort used) (subject.isGiven given) []
      ((subject.eval scope).bind Value.print) := by
  unfold isEscaped at escaped
  split at escaped
  · rename_i line subject change
    simp only [Bool.and_eq_true, Bool.or_eq_true, beq_iff_eq] at escaped
    obtain ⟨escaping, scalar⟩ := escaped
    obtain ⟨content, value, isGiven, short⟩ :=
      exists_eval_of_isScalar gives subject scalar
    have shows := (shows_print isGiven).weaken short
    have applied : ((Expression.filter line subject change [] []).eval
        scope) = applyFilter change content [] [] := by
      change (subject.eval scope >>= _) = _
      rw [value]
      rfl
    rw [applied, Expression.isGiven]
    rcases escaping with rfl | rfl
    · change Shows _ _ _ ((applyEscape content).bind Value.print)
      rw [print_applyEscape isGiven]
      exact shows.map marks_escape
    · change Shows _ _ _ ((applyPercent content).bind Value.print)
      rw [print_applyPercent isGiven]
      exact shows.map marks_percentEncode
  · cases escaped

theorem Expression.eq_name_of_name? {subject : Expression} {name : String}
    (found : subject.name? = some name) : subject = .name name := by
  cases subject with
  | name argument =>
      obtain rfl := Option.some.inj found
      rfl
  | _ => cases found

theorem Expression.eval_of_tested? {condition : Expression} {name : String}
    (tested : condition.tested? = some name)
    (isGiven : (scope name).given? = some flag) :
    condition.eval scope = .ok (.bool flag) := by
  unfold tested? at tested
  split at tested
  · rename_i line subject question
    split at tested
    · rename_i same
      obtain rfl := eq_of_beq same
      obtain rfl := eq_name_of_name? tested
      change (((applyTest "defined" (scope name) [] []) >>= fun flag =>
        Except.ok (Value.bool flag)) : Except RenderError Value) = _
      cases content : scope name with
      | missing what =>
          cases what with
          | name name =>
              rw [content] at isGiven
              cases isGiven
              rfl
          | _ => simp [content, given?] at isGiven
      | text content | int number | float number | bool flag =>
          rw [content] at isGiven
          cases isGiven
          rfl
      | _ => simp [content, given?] at isGiven
    · cases tested
  · cases tested

/-! ## Statements -/

/-- A piece of the marks that a body prints. -/
inductive Stretch where
  /-- Marks of the body's own. -/
  | own (marks : List Char)
  /-- The marks of an argument. -/
  | argument (name : String)

/-- The marks of a piece. -/
def Stretch.marks (scope : Scope) : Stretch → List Char
  | .own marks => marks
  | .argument name => Shortcode.marks (scope name).display

mutual

/-- The statement is a text, prints an argument, or asks whether one is given. -/
def Statement.isGuarded (used : List String) : Statement → Bool
  | .text _ => true
  | .print subject =>
      subject.name?.any used.contains || subject.isEscaped used
  | .choose condition yes no =>
      condition.tested?.any used.contains && areGuarded used yes &&
        areGuarded used no
  | _ => false

/-- All of the statements are of this kind. -/
def areGuarded (used : List String) : List Statement → Bool
  | [] => true
  | first :: rest => first.isGuarded used && areGuarded used rest

end

mutual

/-- Whether all is given that the statement prints. -/
def Statement.isReady (given : String → Bool) : Statement → Bool
  | .print subject => subject.isGiven given
  | .choose condition yes no =>
      if condition.tested?.any given then areReady given yes
      else areReady given no
  | _ => true

/-- Whether all is given that the statements print. -/
def areReady (given : String → Bool) : List Statement → Bool
  | [] => true
  | first :: rest => first.isReady given && areReady given rest

end

mutual

/-- The pieces of the marks that the statement prints. -/
def Statement.stretches (given : String → Bool) : Statement → List Stretch
  | .text content => [.own (marks content)]
  | .print subject => (subject.name?.map Stretch.argument).toList
  | .choose condition yes no =>
      if condition.tested?.any given then stretchesOf given yes
      else stretchesOf given no
  | _ => []

/-- The pieces of the marks that the statements print. -/
def stretchesOf (given : String → Bool) : List Statement → List Stretch
  | [] => []
  | first :: rest => first.stretches given ++ stretchesOf given rest

end

/-- A body keeps the scope, and prints something with these marks. -/
def Keeps (scope : Scope) (short : Prop) (ready : Bool) (expected : List Char)
    (run : Except RenderError (String × Scope)) : Prop :=
  ∃ answer, run = answer.map (·, scope) ∧ Shows short ready expected answer

variable {around : Surroundings}

theorem Statement.keeps_print {subject : Expression} {expected : List Char}
    (shows : Shows short ready expected ((subject.eval scope).bind Value.print)) :
    Keeps scope short ready expected
      ((Statement.print subject).run around scope) := by
  refine ⟨_, ?_, shows⟩
  change (subject.eval scope >>= _) = _
  cases subject.eval scope with
  | error error => rfl
  | ok content =>
      change (content.print >>= _) = content.print.map _
      cases content.print with
      | error error => rfl
      | ok text => rfl

theorem Keeps.cons {first : Statement} {rest : List Statement} {more : Bool}
    {marksBehind : List Char}
    (keeps : Keeps scope short ready expected (first.run around scope))
    (keepsRest : Keeps scope short more marksBehind
      (runAll around scope rest)) :
    Keeps scope short (ready && more) (expected ++ marksBehind)
      (runAll around scope (first :: rest)) := by
  obtain ⟨answer, run, shows⟩ := keeps
  obtain ⟨others, runRest, showsRest⟩ := keepsRest
  refine ⟨_, ?_, shows.append showsRest⟩
  change (first.run around scope >>= _) = _
  rw [run]
  cases answer with
  | error error => rfl
  | ok text =>
      change (runAll around scope rest >>= _) = _
      rw [runRest]
      cases others with
      | error error => rfl
      | ok rest => rfl

mutual

/-- Induction on the statement: a text and what is printed are the leaves, and a
choice is one of its branches. -/
theorem Statement.keeps_run (gives : scope.Gives used given)
    (around : Surroundings) (statement : Statement)
    (guarded : statement.isGuarded used = true) :
    Keeps scope (scope.IsShort used) (statement.isReady given)
      ((statement.stretches given).flatMap (Stretch.marks scope))
      (statement.run around scope) := by
  cases statement with
  | text content =>
      refine ⟨.ok content, rfl, ?_⟩
      rw [Statement.stretches, List.flatMap_singleton]
      exact Shows.text content
  | print subject =>
      apply Statement.keeps_print
      rw [Statement.isGuarded, Bool.or_eq_true] at guarded
      rcases guarded with plain | escaped
      · obtain ⟨name, found, member⟩ := Option.any_eq_true _ _ |>.mp plain
        obtain rfl := Expression.eq_name_of_name? found
        rw [List.contains_iff_mem] at member
        have shows := shows_print (gives name member)
        rw [Statement.stretches, found, Option.map_some, Option.toList_some,
          List.flatMap_singleton]
        exact shows.weaken fun short => short name member
      · have unnamed : subject.name? = none := by
          cases subject with
          | name argument => cases escaped
          | _ => rfl
        rw [Statement.stretches, unnamed]
        exact Expression.shows_print_of_isEscaped gives subject escaped
  | choose condition yes no =>
      simp only [Statement.isGuarded, Bool.and_eq_true,
        Option.any_eq_true] at guarded
      obtain ⟨⟨⟨name, tested, member⟩, whenTrue⟩, whenFalse⟩ := guarded
      rw [List.contains_iff_mem] at member
      have run : (Statement.choose condition yes no).run around scope =
          runAll around scope (if given name then yes else no) := by
        change (condition.eval scope >>= _) = _
        rw [Expression.eval_of_tested? tested (gives name member)]
        cases given name with
        | true => rfl
        | false => rfl
      rw [run, Statement.isReady, Statement.stretches, tested, Option.any_some]
      cases given name with
      | true => exact keeps_runAll gives around yes whenTrue
      | false => exact keeps_runAll gives around no whenFalse
  | _ => cases guarded

theorem keeps_runAll (gives : scope.Gives used given) (around : Surroundings)
    (body : List Statement) (guarded : areGuarded used body = true) :
    Keeps scope (scope.IsShort used) (areReady given body)
      ((stretchesOf given body).flatMap (Stretch.marks scope))
      (runAll around scope body) := by
  cases body with
  | nil => exact ⟨.ok "", rfl, Shows.text ""⟩
  | cons first rest =>
      rw [areGuarded, Bool.and_eq_true] at guarded
      rw [stretchesOf, List.flatMap_append, areReady]
      exact .cons (Statement.keeps_run gives around first guarded.1)
        (keeps_runAll gives around rest guarded.2)

end

/-- What becomes of a whole template of this kind. -/
theorem Tree.shows_render {tree : Tree} (gives : scope.Gives used given)
    (guarded : areGuarded used tree = true)
    (ownless : (Names.ofBody [] tree).own = []) :
    Shows (scope.IsShort used) (areReady given tree)
      ((stretchesOf given tree).flatMap (Stretch.marks scope))
      (tree.render scope) := by
  obtain ⟨answer, run, shows⟩ :=
    keeps_runAll gives ⟨(Names.ofBody [] tree).known, none⟩ tree guarded
  have rendered : tree.render scope = answer := by
    rw [Tree.render, ownless, List.foldl_nil, run]
    cases answer with
    | error error => rfl
    | ok text => rfl
  rw [rendered]
  exact shows

/-! ## Two runs -/

mutual

/-- The arguments that the statement prints as they are. -/
def Statement.plain : Statement → List String
  | .print subject => subject.name?.toList
  | .choose _ yes no => plainOf yes ++ plainOf no
  | _ => []

/-- The arguments that the statements print as they are. -/
def plainOf : List Statement → List String
  | [] => []
  | first :: rest => first.plain ++ plainOf rest

end

mutual

theorem Statement.mem_plain {name : String} (statement : Statement)
    (member : .argument name ∈ statement.stretches given) :
    name ∈ statement.plain := by
  cases statement with
  | print subject =>
      simpa [Statement.stretches, Statement.plain] using member
  | choose condition yes no =>
      rw [Statement.stretches] at member
      rw [Statement.plain, List.mem_append]
      split at member
      · exact .inl (mem_plainOf yes member)
      · exact .inr (mem_plainOf no member)
  | text content => simp [Statement.stretches] at member
  | _ => cases member

theorem mem_plainOf {name : String} (body : List Statement)
    (member : .argument name ∈ stretchesOf given body) :
    name ∈ plainOf body := by
  cases body with
  | nil => cases member
  | cons first rest =>
      rw [stretchesOf, List.mem_append] at member
      rw [plainOf, List.mem_append]
      exact member.imp (Statement.mem_plain first) (mem_plainOf rest)

end

mutual

/-- The statement prints the argument as it is whenever it is given. -/
def Statement.prints (name : String) : Statement → Bool
  | .print subject => subject.name? == some name
  | .choose condition yes no =>
      (condition.tested? == some name || printsOf name no) && printsOf name yes
  | _ => false

/-- One of the statements prints the argument whenever it is given. -/
def printsOf (name : String) : List Statement → Bool
  | [] => false
  | first :: rest => first.prints name || printsOf name rest

end

mutual

theorem Statement.mem_stretches {name : String} (isGiven : given name = true)
    (statement : Statement) (prints : statement.prints name = true) :
    .argument name ∈ statement.stretches given := by
  cases statement with
  | print subject =>
      rw [Statement.prints, beq_iff_eq] at prints
      simp [Statement.stretches, prints]
  | choose condition yes no =>
      simp only [Statement.prints, Bool.and_eq_true, Bool.or_eq_true,
        beq_iff_eq] at prints
      obtain ⟨tested | whenFalse, whenTrue⟩ := prints
      · rw [Statement.stretches, tested, Option.any_some, isGiven, if_pos rfl]
        exact mem_stretchesOf isGiven yes whenTrue
      · rw [Statement.stretches]
        split
        · exact mem_stretchesOf isGiven yes whenTrue
        · exact mem_stretchesOf isGiven no whenFalse
  | _ => cases prints

theorem mem_stretchesOf {name : String} (isGiven : given name = true)
    (body : List Statement) (prints : printsOf name body = true) :
    .argument name ∈ stretchesOf given body := by
  cases body with
  | nil => cases prints
  | cons first rest =>
      rw [printsOf, Bool.or_eq_true] at prints
      rw [stretchesOf, List.mem_append]
      exact prints.imp (Statement.mem_stretches isGiven first)
        (mem_stretchesOf isGiven rest)

end

section Pieces

variable {α β : Type} {items : List α} {first second : α → List β}

theorem length_flatMap_lt {item : α} (member : item ∈ items)
    (shorter : (first item).length < (second item).length)
    (others : ∀ other ∈ items, other ≠ item → first other = second other) :
    (items.flatMap first).length < (items.flatMap second).length := by
  rw [List.length_flatMap, List.length_flatMap]
  apply List.sum_lt_sum
  · intro other isItem
    by_cases same : other = item
    · rw [same]
      exact shorter.le
    · rw [others other isItem same]
  · exact ⟨item, member, shorter⟩

theorem eq_of_flatMap_eq (same : items.flatMap first = items.flatMap second)
    (lengths : ∀ item ∈ items, (first item).length = (second item).length) :
    ∀ item ∈ items, first item = second item := by
  induction items with
  | nil => nofun
  | cons head rest induction =>
      rw [List.forall_mem_cons] at lengths
      rw [List.flatMap_cons, List.flatMap_cons] at same
      obtain ⟨here, later⟩ := List.append_inj same lengths.1
      rw [List.forall_mem_cons]
      exact ⟨here, induction later lengths.2⟩

/-- Two joined texts whose pieces are the same but for one, which may occur more
than once. -/
theorem flatMap_eq_iff {item : α} (member : item ∈ items)
    (others : ∀ other ∈ items, other ≠ item → first other = second other) :
    items.flatMap first = items.flatMap second ↔ first item = second item := by
  constructor
  · intro same
    have lengths : (first item).length = (second item).length := by
      rcases lt_trichotomy (first item).length (second item).length with
        shorter | alike | longer
      · have apart := length_flatMap_lt member shorter others
        rw [same] at apart
        exact absurd apart (lt_irrefl _)
      · exact alike
      · have apart := length_flatMap_lt member longer
          fun other isItem differs => (others other isItem differs).symm
        rw [same] at apart
        exact absurd apart (lt_irrefl _)
    apply eq_of_flatMap_eq same _ item member
    intro other isItem
    by_cases here : other = item
    · rw [here]
      exact lengths
    · rw [others other isItem here]
  · intro same
    apply List.flatMap_congr
    intro other isItem
    by_cases here : other = item
    · rw [here]
      exact same
    · exact others other isItem here

end Pieces

end Template

end Shortcode
