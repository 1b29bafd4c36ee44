import Shortcode.Proofs.Argument.Mapping
import Shortcode.Proofs.BuiltIn
import Shortcode.Proofs.Registry.Ambient
import Shortcode.Proofs.Template.Marks

/-!
# Built-in embeds

The built-in templates that embed something from elsewhere escape the arguments
of a call, two of them apart: the start of a video and the width of a figure are
printed as they are, as is its caption.  So the values of the other arguments
neither end an attribute nor begin a tag.
-/

namespace Shortcode

open Template

namespace BuiltIn

variable {name text : String}

/-- The templates that embed something. -/
def embeds : List String := ["youtube", "vimeo", "gist", "figure"]

/-- The arguments of the embeds. -/
def embedArguments : List String :=
  ["id", "start", "title", "user", "file", "src", "alt", "caption", "width"]

/-- The argument that an embed prints as it is, though it belongs into an
attribute. -/
def unescaped? (name : String) : Option String :=
  match name with
  | "youtube" => some "start"
  | "figure" => some "width"
  | _ => none

/-- The arguments that an embed prints as they are. -/
def printedAsIs (name : String) : List String :=
  (unescaped? name).toList ++ if name == "figure" then ["caption"] else []

theorem mem_embedArguments {argument : String}
    (member : argument ∈ printedAsIs name) : argument ∈ embedArguments := by
  rw [printedAsIs, List.mem_append, Option.mem_toList] at member
  rcases member with hole | caption
  · unfold unescaped? at hole
    split at hole
    · obtain rfl := Option.some.inj hole
      simp [embedArguments]
    · obtain rfl := Option.some.inj hole
      simp [embedArguments]
    · cases hole
  · split at caption
    · obtain rfl := List.mem_singleton.mp caption
      simp [embedArguments]
    · cases caption

/-- A template that uses its arguments as the embed of a name does. -/
def isEmbed (name : String) (tree : Tree) : Bool :=
  areGuarded embedArguments tree && (Names.ofBody [] tree).own.isEmpty &&
    (plainOf tree).all (printedAsIs name).contains &&
    (unescaped? name).all fun argument => printsOf argument tree

/-- The tree of a text is that of an embed, and is ready with these arguments. -/
def isEmbedText (name text : String) (ready : List String) : Bool :=
  (Tree.read (templateFileName name) text).toOption.any fun tree =>
    isEmbed name tree && areReady ready.contains tree

theorem isEmbedText_embeds :
    isEmbedText "youtube" youtube ["id", "start"] = true ∧
      isEmbedText "vimeo" vimeo ["id"] = true ∧
      isEmbedText "gist" gist ["user", "id"] = true ∧
      isEmbedText "figure" figure ["src"] = true := by
  unfold isEmbedText Tree.read scan
  -- The characters of the texts are laid open before the kernel reads them.
  simp only [figure, gist, vimeo, youtube, toList_ofLines, List.flatMap_cons,
    List.flatMap_nil, String.toList_append]
  repeat rw [String.toList_ofList]
  decide +kernel

/-- The text of an embed is that of a template which uses its arguments so. -/
theorem isEmbed_of_read (isEmbed : name ∈ embeds)
    (member : (name, text) ∈ templates) {tree : Tree}
    (read : Tree.read (templateFileName name) text = .ok tree) :
    BuiltIn.isEmbed name tree = true := by
  obtain ⟨onYoutube, onVimeo, onGist, onFigure⟩ := isEmbedText_embeds
  have checked : ∃ ready, isEmbedText name text ready = true := by
    simp only [embeds, templates, List.mem_cons, List.not_mem_nil, or_false,
      Prod.mk.injEq] at isEmbed member
    rcases member with ⟨rfl, rfl⟩ | ⟨rfl, rfl⟩ | ⟨rfl, rfl⟩ | ⟨rfl, rfl⟩ |
      ⟨rfl, rfl⟩ | ⟨rfl, rfl⟩
    · simp at isEmbed
    · simp at isEmbed
    · exact ⟨_, onFigure⟩
    · exact ⟨_, onGist⟩
    · exact ⟨_, onVimeo⟩
    · exact ⟨_, onYoutube⟩
  obtain ⟨ready, checked⟩ := checked
  rw [isEmbedText, read] at checked
  exact (Bool.and_eq_true _ _ |>.mp checked).1

end BuiltIn

/-! ## The scope of a call -/

namespace Call

variable {call other : Call} {page site : Value} {file name : String}

/-- An argument of an embed is not hidden by what every template knows. -/
theorem scope_of_argument (isArgument : name ∈ BuiltIn.embedArguments) :
    call.scope file page site name =
      ((call.arguments.lookup name).map Scalar.toValue).getD
        (.missing (.name name)) := by
  have apart : ∀ name ∈ BuiltIn.embedArguments,
      name ∉ ["self", "page", "site", "body"] ∧ globals.lookup name = none := by
    decide
  obtain ⟨foreign, unknown⟩ := apart name isArgument
  rw [List.mem_cons, not_or] at foreign
  have around : (call.ambient page site).lookup name = none := by
    rw [lookup_ambient_eq_none_iff]
    exact fun member => foreign.2 (mem_of_mem_ambientNames member)
  have outside : Scope.empty name = .missing (.name name) := by
    rw [Scope.empty, unknown]
    rfl
  rw [scope_eq, if_neg foreign.1, around, outside]
  rfl

/-- Whether the call has an argument of this name. -/
def gives (call : Call) (name : String) : Bool :=
  (call.arguments.lookup name).isSome

/-- No whole number among the arguments is too long to be written. -/
def IsShort (call : Call) : Prop :=
  ∀ argument ∈ call.arguments, argument.2.toValue.IsShort

/-- The quotes and the angle brackets in what an argument is printed as. -/
def argumentMarks? (call : Call) (name : String) : Option (List Char) :=
  (call.arguments.lookup name).map fun content => marks content.toValue.display

theorem scope_gives :
    (call.scope file page site).Gives BuiltIn.embedArguments call.gives := by
  intro name isArgument
  rw [scope_of_argument isArgument, gives]
  cases call.arguments.lookup name with
  | none => rfl
  | some content =>
      cases content with
      | _ => rfl

theorem IsShort.scope (short : call.IsShort) :
    (call.scope file page site).IsShort BuiltIn.embedArguments := by
  intro name isArgument
  rw [scope_of_argument isArgument]
  cases found : call.arguments.lookup name with
  | none => rfl
  | some content =>
      obtain ⟨lead, rest, same, -⟩ := List.lookup_eq_some_iff.mp found
      apply short (name, content)
      rw [same]
      simp

theorem marks_scope (isArgument : name ∈ BuiltIn.embedArguments)
    (isGiven : call.gives name = true) (file : String) (page site : Value) :
    call.argumentMarks? name =
      some (marks (call.scope file page site name).display) := by
  obtain ⟨content, found⟩ := Option.isSome_iff_exists.mp isGiven
  rw [scope_of_argument isArgument, argumentMarks?, found]
  rfl

/-- What becomes of an embed. -/
theorem shows_embed {tree : Tree} (isEmbed : BuiltIn.isEmbed name tree = true) :
    Shows call.IsShort (areReady call.gives tree)
      ((stretchesOf call.gives tree).flatMap
        (Stretch.marks (call.scope file page site)))
      (tree.render (call.scope file page site)) := by
  simp only [BuiltIn.isEmbed, Bool.and_eq_true, List.isEmpty_iff] at isEmbed
  obtain ⟨⟨⟨guarded, ownless⟩, -⟩, -⟩ := isEmbed
  exact (Tree.shows_render scope_gives guarded ownless).weaken IsShort.scope

/-- The call has other values than another one for the same arguments; the
caption of a figure is the same. -/
structure Replaces (other call : Call) : Prop where
  named : other.name = call.name
  keys : other.arguments.map Prod.fst = call.arguments.map Prod.fst
  caption : call.name = "figure" →
    other.arguments.lookup "caption" = call.arguments.lookup "caption"

theorem gives_iff :
    call.gives name = true ↔ name ∈ call.arguments.map Prod.fst := by
  rw [gives, List.lookup_isSome_iff, List.mem_map]
  constructor
  · rintro ⟨argument, member, same⟩
    exact ⟨argument, member, (eq_of_beq same).symm⟩
  · rintro ⟨argument, member, rfl⟩
    exact ⟨argument, member, beq_self_eq_true _⟩

theorem Replaces.gives (replaces : other.Replaces call) :
    other.gives = call.gives := by
  funext name
  rw [Bool.eq_iff_iff, gives_iff, gives_iff, replaces.keys]

theorem scope_congr (isArgument : name ∈ BuiltIn.embedArguments)
    (same : other.arguments.lookup name = call.arguments.lookup name) :
    other.scope file page site name = call.scope file page site name := by
  rw [scope_of_argument isArgument, scope_of_argument isArgument, same]

theorem lookup_of_not_gives (absent : call.gives name = false) :
    call.arguments.lookup name = none := by
  rwa [gives, Option.isSome_eq_false_iff, Option.isNone_iff_eq_none] at absent

theorem Replaces.lookup_of_not_gives (replaces : other.Replaces call)
    (absent : call.gives name = false) :
    other.arguments.lookup name = call.arguments.lookup name := by
  rw [Call.lookup_of_not_gives absent]
  apply Call.lookup_of_not_gives
  rw [replaces.gives, absent]

/-- The pieces of an embed that two calls share. -/
theorem Replaces.marks_stretch {tree : Tree} (replaces : other.Replaces call)
    (isEmbed : BuiltIn.isEmbed call.name tree = true) (file : String)
    (page site : Value) (stretch : Stretch) (member : stretch ∈ stretchesOf call.gives tree)
    (safe : ∀ hole ∈ BuiltIn.unescaped? call.name, call.gives hole = true →
      stretch ≠ .argument hole) :
    stretch.marks (other.scope file page site) =
      stretch.marks (call.scope file page site) := by
  cases stretch with
  | own marks => rfl
  | argument name =>
      simp only [BuiltIn.isEmbed, Bool.and_eq_true, List.all_eq_true,
        List.contains_iff_mem] at isEmbed
      obtain ⟨⟨-, plain⟩, -⟩ := isEmbed
      have printed := plain name (mem_plainOf tree member)
      have isArgument := BuiltIn.mem_embedArguments printed
      have same : other.scope file page site name = call.scope file page site name := by
        rw [BuiltIn.printedAsIs, List.mem_append, Option.mem_toList] at printed
        rcases printed with hole | caption
        · apply scope_congr isArgument
          apply replaces.lookup_of_not_gives
          cases isGiven : call.gives name with
          | false => rfl
          | true => exact absurd rfl (safe name hole isGiven)
        · split at caption
          · rename_i isFigure
            obtain rfl := List.mem_singleton.mp caption
            exact scope_congr isArgument (replaces.caption (eq_of_beq isFigure))
          · cases caption
      rw [Stretch.marks, Stretch.marks, same]

theorem Replaces.marks_render_iff {tree : Tree} {text result : String}
    (replaces : other.Replaces call)
    (isEmbed : BuiltIn.isEmbed call.name tree = true)
    (renders : tree.render (call.scope file page site) = .ok text)
    (rendersOther : tree.render (other.scope file page site) = .ok result) :
    marks result = marks text ↔
      ∀ hole ∈ BuiltIn.unescaped? call.name,
        other.argumentMarks? hole = call.argumentMarks? hole := by
  obtain ⟨-, same⟩ := (shows_embed isEmbed).sound text renders
  obtain ⟨-, sameOther⟩ := (shows_embed isEmbed).sound result rendersOther
  rw [replaces.gives] at sameOther
  rw [same, sameOther]
  have alike := replaces.marks_stretch isEmbed file page site
  simp only [BuiltIn.isEmbed, Bool.and_eq_true] at isEmbed
  obtain ⟨-, shown⟩ := isEmbed
  by_cases exposed : ∃ hole ∈ BuiltIn.unescaped? call.name,
      call.gives hole = true
  · obtain ⟨hole, unescaped, isGiven⟩ := exposed
    have isArgument : hole ∈ BuiltIn.embedArguments := by
      apply BuiltIn.mem_embedArguments
      exact List.mem_append_left _ (Option.mem_toList.mpr unescaped)
    rw [unescaped, Option.all_some] at shown
    have member := mem_stretchesOf isGiven tree shown
    have others (stretch : Stretch) (inTree : stretch ∈ stretchesOf call.gives tree)
        (apart : stretch ≠ .argument hole) :
        stretch.marks (other.scope file page site) =
          stretch.marks (call.scope file page site) := by
      apply alike stretch inTree
      rintro _ known -
      obtain rfl := Option.mem_unique unescaped known
      exact apart
    have isGivenThere : other.gives hole = true := by rwa [replaces.gives]
    rw [flatMap_eq_iff member others, unescaped]
    simp only [Option.mem_def, Option.some.injEq, forall_eq']
    rw [marks_scope isArgument isGiven file page site,
      marks_scope isArgument isGivenThere file page site, Option.some.injEq]
    rfl
  · have absent (hole : String) (unescaped : hole ∈ BuiltIn.unescaped? call.name) :
        call.gives hole = false := by
      rw [← Bool.not_eq_true]
      exact fun isGiven => exposed ⟨hole, unescaped, isGiven⟩
    apply iff_of_true
    · apply List.flatMap_congr
      intro stretch inTree
      apply alike stretch inTree
      intro hole unescaped isGiven
      exact absurd ⟨hole, unescaped, isGiven⟩ exposed
    · intro hole unescaped
      rw [argumentMarks?, argumentMarks?,
        replaces.lookup_of_not_gives (absent hole unescaped)]

end Call

/-! ## Rendered calls -/

namespace Registry

variable {registry : Registry interpreter} {call other : Call}
  {page site : Value} {text result : String}

theorem HasBuiltIn.exists_tree (builtIn : registry.HasBuiltIn call.name)
    (isEmbed : call.name ∈ BuiltIn.embeds) :
    ∃ tree, BuiltIn.isEmbed call.name tree = true ∧
      ∀ other : Call, other.name = call.name → ∀ page site text,
        registry.render other page site = .ok text ↔
          tree.render (other.scope (templateFileName call.name) page site) =
            .ok text := by
  obtain ⟨template, text, found, member, compiled⟩ := builtIn
  obtain ⟨file, read⟩ := compile_eq_ok_iff.mp compiled
  refine ⟨template.compiled.tree, BuiltIn.isEmbed_of_read isEmbed member read,
    ?_⟩
  intro other named page site text
  rw [render_of_find?_interpreter (named ▸ found), file]
  cases template.compiled.tree.render
      (other.scope (templateFileName call.name) page site) with
  | error error => simp [Except.mapError]
  | ok text => simp [Except.mapError]

theorem HasBuiltIn.marks_render_iff (builtIn : registry.HasBuiltIn call.name)
    (isEmbed : call.name ∈ BuiltIn.embeds) (replaces : other.Replaces call)
    (renders : registry.render call page site = .ok text)
    (rendersOther : registry.render other page site = .ok result) :
    marks result = marks text ↔
      ∀ hole ∈ BuiltIn.unescaped? call.name,
        other.argumentMarks? hole = call.argumentMarks? hole := by
  obtain ⟨tree, isEmbed, rendered⟩ := builtIn.exists_tree isEmbed
  rw [rendered call rfl] at renders
  rw [rendered other replaces.named] at rendersOther
  exact replaces.marks_render_iff isEmbed renders rendersOther

/-- The values of an embed's arguments can be replaced, but for the caption of a
figure: the call can still be rendered, unless a number is too long, and its
quotes and angle brackets stay what they are.  The exception is the start of a
video on YouTube and the width of a figure, which are not escaped: the text
keeps its quotes and brackets exactly if that argument does. -/
theorem marks_render_eq_iff_of_replaces (isEmbed : call.name ∈ BuiltIn.embeds)
    (builtIn : registry.HasBuiltIn call.name) (replaces : other.Replaces call)
    (renders : registry.render call page site = .ok text) :
    (other.IsShort → ∃ result, registry.render other page site = .ok result) ∧
      ∀ result, registry.render other page site = .ok result →
        (marks result = marks text ↔
          ∀ hole ∈ BuiltIn.unescaped? call.name,
            other.argumentMarks? hole = call.argumentMarks? hole) := by
  constructor
  · intro short
    obtain ⟨tree, isEmbed, rendered⟩ := builtIn.exists_tree isEmbed
    rw [rendered call rfl] at renders
    obtain ⟨isReady, -⟩ := (Call.shows_embed isEmbed).sound text renders
    rw [← replaces.gives] at isReady
    obtain ⟨result, rendersOther⟩ :=
      (Call.shows_embed isEmbed).complete short isReady
    exact ⟨result, (rendered other replaces.named _ _ _).mpr rendersOther⟩
  · intro result rendersOther
    exact builtIn.marks_render_iff isEmbed replaces renders rendersOther

end Registry

/-! ## Videos -/

namespace BuiltIn

/-- A call for a video on YouTube, from its start on. -/
def video (id : String) (start : Scalar) : Call :=
  ⟨⟨"youtube", [("id", .text id), ("start", start)]⟩, .inline, none, 0, 0, 1⟩

theorem replaces_video (id other : String) (start later : Scalar) :
    (video other later).Replaces (video id start) :=
  ⟨rfl, rfl, by simp [video]⟩

theorem exists_registry_youtube :
    ∃ registry : Registry interpreter, registry.HasBuiltIn "youtube" ∧
      ∀ (id : String) (start : Scalar) (page site : Value),
        (video id start).IsShort →
          ∃ text, registry.render (video id start) page site = .ok text := by
  obtain ⟨checked, -⟩ := isEmbedText_embeds
  rw [isEmbedText, Option.any_eq_true] at checked
  obtain ⟨tree, answered, checked⟩ := checked
  rw [Bool.and_eq_true] at checked
  obtain ⟨isEmbed, isReady⟩ := checked
  have read := eq_ok_of_toOption answered
  let template : RegisteredTemplate interpreter :=
    ⟨"youtube", .builtIn, ⟨.here, ["youtube.html"]⟩,
      ⟨templateFileName "youtube", tree⟩⟩
  let registry : Registry interpreter :=
    ⟨[template], fun name => .error (.raised (interpreter.missing name []))⟩
  refine ⟨registry, ⟨template, youtube, rfl, ?_, ?_⟩, ?_⟩
  · simp [templates]
  · exact compile_eq_ok_iff.mpr ⟨rfl, read⟩
  · intro id start page site short
    have gives : (video id start).gives = ["id", "start"].contains := by
      funext name
      rw [Bool.eq_iff_iff, Call.gives_iff, List.contains_iff_mem]
      rfl
    rw [← gives] at isReady
    have rendered :
        ∃ text, tree.render ((video id start).scope template.compiled.name
          page site) = .ok text :=
      (Call.shows_embed isEmbed).complete short isReady
    obtain ⟨text, rendered⟩ := rendered
    have found : registry.find? (video id start).name = some template := rfl
    refine ⟨text, ?_⟩
    rw [Registry.render_of_find?_interpreter found, rendered]
    rfl

theorem isShort_video {id : String} {start : Scalar}
    (short : start.toValue.IsShort) : (video id start).IsShort := by
  simp only [Call.IsShort, video, List.forall_mem_cons]
  exact ⟨rfl, short, List.forall_mem_nil _⟩

end BuiltIn

open BuiltIn

theorem Registry.marks_render_eq_of_video :
    ∃ registry : Registry interpreter, ∃ text result,
      registry.HasBuiltIn "youtube" ∧
      (video "\"><script>" (.bool true)).Replaces (video "a" (.text "7")) ∧
      registry.render (video "a" (.text "7")) .null .null = .ok text ∧
      registry.render (video "\"><script>" (.bool true)) .null .null =
        .ok result ∧
      marks result = marks text := by
  obtain ⟨registry, builtIn, rendered⟩ := exists_registry_youtube
  obtain ⟨text, renders⟩ :=
    rendered "a" (.text "7") .null .null (isShort_video rfl)
  have isEmbed : "youtube" ∈ embeds := List.mem_cons_self
  have replaces := replaces_video "a" "\"><script>" (.text "7") (.bool true)
  obtain ⟨rendersOther, same⟩ :=
    marks_render_eq_iff_of_replaces isEmbed builtIn replaces renders
  obtain ⟨result, rendersOther⟩ := rendersOther (isShort_video rfl)
  refine ⟨registry, text, result, builtIn, replaces, renders, rendersOther, ?_⟩
  rw [same result rendersOther]
  rintro hole ⟨⟩
  decide +kernel

theorem Registry.not_marks_render_eq_of_replaces :
    ¬ ∀ (registry : Registry interpreter) (call other : Call)
      (page site : Value) (text result : String), call.name ∈ embeds →
        registry.HasBuiltIn call.name → other.Replaces call →
        registry.render call page site = .ok text →
        registry.render other page site = .ok result →
        marks result = marks text := by
  intro safe
  obtain ⟨registry, builtIn, rendered⟩ := exists_registry_youtube
  have isEmbed : "youtube" ∈ embeds := List.mem_cons_self
  have replaces := replaces_video "a" "a" (.text "7") (.text "\"><script>")
  obtain ⟨text, renders⟩ :=
    rendered "a" (.text "7") .null .null (isShort_video rfl)
  obtain ⟨result, rendersOther⟩ :=
    rendered "a" (.text "\"><script>") .null .null (isShort_video rfl)
  have same :=
    safe _ _ _ _ _ _ _ isEmbed builtIn replaces renders rendersOther
  rw [builtIn.marks_render_iff isEmbed replaces renders rendersOther] at same
  exact absurd (same "start" rfl) (by decide +kernel)

end Shortcode
