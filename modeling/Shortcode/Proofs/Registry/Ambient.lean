import Shortcode.Proofs.Registry.Loading
import Shortcode.Proofs.Template.Names

/-!
# Arguments and ambient values

The page, the site and the body of a call stand for themselves in its template,
whatever the arguments of these names are.  What a call comes to depends on its
other arguments alone, and of these on the ones that the template names.
-/

namespace Shortcode

theorem Template.Context.lookup_set (context : Context) (bound : String)
    (content : Value) (name : String) :
    (context.set bound content).lookup name =
      if name = bound then some content else context.lookup name := by
  induction context with
  | nil =>
      rw [set, List.lookup_cons, List.lookup_nil]
      by_cases same : name = bound
      · rw [if_pos same, beq_iff_eq.mpr same]
      · rw [if_neg same, beq_eq_false_iff_ne.mpr same]
  | cons entry rest induction =>
      rw [set]
      by_cases same : name = bound
      · subst same
        rw [if_pos rfl]
        split
        · rw [List.lookup_cons, BEq.rfl]
        · rename_i elsewhere
          rw [List.lookup_cons, beq_eq_false_iff_ne.mpr (Ne.symm elsewhere),
            induction, if_pos rfl]
      · rw [if_neg same, List.lookup_cons]
        split
        · rename_i here
          rw [List.lookup_cons, here, beq_eq_false_iff_ne.mpr same]
        · rw [List.lookup_cons, induction, if_neg same]

namespace Call

variable {call other : Call} {page site : Value} {file name : String}

theorem lookup_toValue (arguments : Arguments) (name : String) :
    (arguments.map fun (name, content) => (name, content.toValue)).lookup name =
      (arguments.lookup name).map Scalar.toValue := by
  induction arguments with
  | nil => rfl
  | cons first rest induction =>
      rw [List.map_cons, List.lookup_cons, List.lookup_cons, induction]
      cases name == first.1 with
      | true => rfl
      | false => rfl

/-! ## What a template sees -/

/-- The values that a call is rendered with, whatever its arguments are. -/
def ambient (call : Call) (page site : Value) : List (String × Value) :=
  [("site", site), ("page", page)] ++
    call.body.toList.map fun body => ("body", .text body)

/-- The names of these values. -/
def ambientNames (call : Call) : List String :=
  "page" :: "site" :: if call.body.isSome then ["body"] else []

/-- What the names stand for in the template of a call, read from a file of this
name. -/
def scope (call : Call) (file : String) (page site : Value) : Template.Scope :=
  (Template.Scope.ofContext (call.context page site)).set "self"
    (Template.templateObject file)

theorem mem_of_mem_ambientNames (member : name ∈ call.ambientNames) :
    name ∈ ["page", "site", "body"] := by
  unfold ambientNames at member
  split at member
  · exact member
  · exact List.mem_append_left ["body"] member

theorem lookup_context (call : Call) (page site : Value) (name : String) :
    (call.context page site).lookup name =
      ((call.ambient page site).lookup name).or
        ((call.arguments.lookup name).map Scalar.toValue) := by
  unfold Call.context contextOf ambient
  dsimp only
  by_cases isSite : name = "site"
  · subst isSite
    rw [Template.Context.lookup_set, if_pos rfl]
    rfl
  rw [Template.Context.lookup_set, if_neg isSite, Template.Context.lookup_set,
    List.cons_append, List.lookup_cons, beq_eq_false_iff_ne.mpr isSite]
  by_cases isPage : name = "page"
  · subst isPage
    rw [if_pos rfl]
    rfl
  rw [if_neg isPage, List.cons_append, List.lookup_cons,
    beq_eq_false_iff_ne.mpr isPage]
  cases call.body with
  | none => exact lookup_toValue _ name
  | some body =>
      dsimp only
      rw [Template.Context.lookup_set, lookup_toValue]
      by_cases isBody : name = "body"
      · subst isBody
        rfl
      · simp [isBody, List.lookup_cons, beq_eq_false_iff_ne.mpr isBody]

theorem scope_eq (call : Call) (file : String) (page site : Value)
    (name : String) :
    call.scope file page site name =
      if name = "self" then Template.templateObject file
      else (((call.ambient page site).lookup name).or
        ((call.arguments.lookup name).map Scalar.toValue)).getD
          (Template.Scope.empty name) := by
  unfold scope Template.Scope.set
  by_cases itself : name = "self"
  · rw [if_pos (beq_iff_eq.mpr itself), if_pos itself]
  · rw [if_neg (mt beq_iff_eq.mp itself), if_neg itself,
      Template.Scope.ofContext, lookup_context]

theorem lookup_ambient_eq_none_iff :
    (call.ambient page site).lookup name = none ↔ name ∉ call.ambientNames := by
  rw [List.lookup_eq_none_iff]
  unfold ambient ambientNames
  cases call.body with
  | none => simp [and_comm]
  | some body => simp [← and_assoc, and_comm]

theorem scope_of_lookup_ambient {content : Value} (notSelf : name ≠ "self")
    (found : (call.ambient page site).lookup name = some content) :
    call.scope file page site name = content := by
  rw [scope_eq, if_neg notSelf, found]
  rfl

/-- What the names in the template of a call stand for. -/
structure Sees (call : Call) (page site : Value) (scope : Template.Scope) :
    Prop where
  page : scope "page" = page
  site : scope "site" = site
  body : ∀ body ∈ call.body, scope "body" = .text body
  argument : ∀ name ∉ "self" :: call.ambientNames,
    ∀ content ∈ call.arguments.lookup name, scope name = content.toValue

theorem sees_scope (call : Call) (file : String) (page site : Value) :
    call.Sees page site (call.scope file page site) where
  page := scope_of_lookup_ambient (by decide) rfl
  site := scope_of_lookup_ambient (by decide) rfl
  body := by
    intro body given
    apply scope_of_lookup_ambient (by decide)
    rw [ambient, Option.mem_def.mp given]
    rfl
  argument := by
    intro name foreign content given
    rw [List.mem_cons, not_or] at foreign
    rw [scope_eq, if_neg foreign.1, lookup_ambient_eq_none_iff.mpr foreign.2,
      Option.mem_def.mp given]
    rfl

/-! ## Calls with other arguments -/

/-- The calls differ in their arguments alone, or in the place in the line. -/
structure IsVariantOf (other call : Call) : Prop where
  name_eq : other.name = call.name
  body_eq : other.body = call.body
  line_eq : other.line = call.line

theorem IsVariantOf.scope_eq (isVariant : other.IsVariantOf call)
    (agree : name ∉ call.ambientNames →
      other.arguments.lookup name = call.arguments.lookup name) :
    other.scope file page site name = call.scope file page site name := by
  have ambient : other.ambient page site = call.ambient page site := by
    rw [Call.ambient, isVariant.body_eq, Call.ambient]
  rw [Call.scope_eq, Call.scope_eq, ambient]
  cases found : (call.ambient page site).lookup name with
  | some content => rfl
  | none => rw [agree (lookup_ambient_eq_none_iff.mp found)]

end Call

namespace Registry

open Template

variable {registry : Registry interpreter} {call other : Call}
  {page site : Value}

/-- The interpreter renders the template of a call in the scope of the call. -/
theorem render_of_find?_interpreter
    {template : RegisteredTemplate interpreter}
    (found : registry.find? call.name = some template) (page site : Value) :
    registry.render call page site =
      (template.compiled.tree.render
        (call.scope template.compiled.name page site)).mapError fun error =>
          ⟨call.line, .render call.name error.message⟩ := by
  rw [render_of_find? found]
  change ((template.compiled.tree.render
    (call.scope template.compiled.name page site)).mapError _).mapError _ = _
  cases template.compiled.tree.render
      (call.scope template.compiled.name page site) with
  | ok text => rfl
  | error error => rfl

/-- Of the arguments of a call, only those that the template names count. -/
theorem render_congr (isVariant : other.IsVariantOf call)
    (agree : ∀ template, registry.find? call.name = some template →
      ∀ name ∈ namesReadBy template.compiled.tree, name ∉ call.ambientNames →
        other.arguments.lookup name = call.arguments.lookup name) :
    registry.render other page site = registry.render call page site := by
  cases found : registry.find? call.name with
  | none =>
      have unknown : registry.find? other.name = none := by
        rw [isVariant.name_eq, found]
      rw [render, render, renderNamed, renderNamed, unknown, found,
        isVariant.line_eq, isVariant.name_eq]
  | some template =>
      have known : registry.find? other.name = some template := by
        rw [isVariant.name_eq, found]
      have same :
          template.compiled.tree.render
              (other.scope template.compiled.name page site) =
            template.compiled.tree.render
              (call.scope template.compiled.name page site) :=
        template.compiled.tree.render_congr fun name member =>
          isVariant.scope_eq (agree template found name member)
      rw [render_of_find?_interpreter known, render_of_find?_interpreter found,
        same, isVariant.line_eq, isVariant.name_eq]

/-- No argument takes the place of the page, the site or the body. -/
theorem render_eq_and_sees_ambient (isVariant : other.IsVariantOf call)
    (agree : ∀ name ∉ call.ambientNames,
      other.arguments.lookup name = call.arguments.lookup name)
    (registry : Registry interpreter) (page site : Value) :
    registry.render other page site = registry.render call page site ∧
      ∀ template, registry.find? call.name = some template →
        ∃ scope, call.Sees page site scope ∧
          registry.render call page site =
            (template.compiled.tree.render scope).mapError fun error =>
              ⟨call.line, .render call.name error.message⟩ := by
  constructor
  · exact render_congr isVariant fun _ _ name _ foreign => agree name foreign
  · intro template found
    exact ⟨call.scope template.compiled.name page site,
      call.sees_scope _ page site, render_of_find?_interpreter found page site⟩

/-- A template that uses the page, the site and the body in many ways. -/
def note : RegisteredTemplate interpreter where
  name := "note"
  origin := .user
  path := ⟨.here, ["note.html"]⟩
  compiled := {
    name := "note.html"
    tree := [
      .assign (.single 1 "shown") (.filter 1 (.name "page") "upper" [] []),
      .loop (.single 1 "part") (.list [.name "site", .name "body"])
        (.constant (.bool true)) [.print (.name "part")] [],
      .print (.name "shown"),
      .print (.name "size")] }

/-- A registry of this template alone. -/
def notes : Registry interpreter where
  templates := [note]
  fetch name := .error (.raised (interpreter.missing name []))

/-- A call of this template with a body and one argument. -/
def plainNote : Call where
  name := "note"
  arguments := [("size", .int 3)]
  shape := .body
  body := some "b"
  start := 0
  stop := 40
  line := 2

/-- A call that also has arguments of the names that it does not set. -/
def forgedNote : Call :=
  { plainNote with arguments := [("page", .text "x"), ("body", .text "y"),
      ("size", .int 3), ("site", .bool true)] }

theorem render_eq_and_sees_ambient_note :
    forgedNote.IsVariantOf plainNote ∧
      (∀ name ∉ plainNote.ambientNames,
        forgedNote.arguments.lookup name = plainNote.arguments.lookup name) ∧
      notes.render forgedNote (.text "p") (.text "s") =
        notes.render plainNote (.text "p") (.text "s") ∧
      notes.render plainNote (.text "p") (.text "s") = .ok "sbP3" := by
  have isVariant : forgedNote.IsVariantOf plainNote := ⟨rfl, rfl, rfl⟩
  have agree : ∀ name ∉ plainNote.ambientNames,
      forgedNote.arguments.lookup name = plainNote.arguments.lookup name := by
    intro name foreign
    have names : plainNote.ambientNames = ["page", "site", "body"] := rfl
    simp only [names, List.mem_cons, List.not_mem_nil, or_false, not_or] at foreign
    simp only [← beq_eq_false_iff_ne] at foreign
    simp only [forgedNote, plainNote, List.lookup_cons, foreign]
  have printed : notes.render plainNote (.text "p") (.text "s") =
      .ok "sbP3" := by
    apply eq_ok_of_toOption
    decide +kernel
  exact ⟨isVariant, agree,
    (render_eq_and_sees_ambient isVariant agree notes _ _).1, printed⟩

end Registry

end Shortcode
