import Shortcode.Content
import Shortcode.Outline
import Shortcode.Proofs.Document.Failure
import Shortcode.Proofs.Expansion.Trace
import Shortcode.Proofs.Outcome
import Shortcode.Yaml.Load

/-!
# Faults of content files

The body of a content file is the end of its text, and the lines before the
body are counted on to the line of each fault.  Checking a file and expanding
it find the same fault, unless a call cannot be rendered.
-/

namespace Shortcode

/-! ## The body of a file -/

namespace Frontmatter

theorem suffix_of_mem_afterLineEnds {text rest : List Char}
    (member : rest ∈ afterLineEnds text) : rest <:+ text := by
  fun_induction afterLineEnds text with
  | case1 => cases member
  | case2 => cases member
  | case3 char text blank lineEnd induction =>
      rcases List.mem_append.mp member with later | here
      · exact (induction later).trans (List.suffix_cons char text)
      · rw [List.mem_singleton.mp here]
        exact List.suffix_cons char text
  | case4 char text blank inLine induction =>
      exact (induction member).trans (List.suffix_cons char text)

theorem suffix_of_mem_afterFence {text rest : List Char}
    (member : rest ∈ afterFence text) : rest <:+ text := by
  unfold afterFence at member
  split at member
  · rename_i after lead
    rw [Text.dropLead?_eq_some_iff.mp lead]
    exact (suffix_of_mem_afterLineEnds member).trans
      (List.suffix_append fence after)
  · cases member

theorem suffix_of_splitAtFence? {text inner body : List Char}
    (split : splitAtFence? text = some (inner, body)) : body <:+ text := by
  fun_induction splitAtFence? text generalizing inner with
  | case1 => cases split
  | case2 char rest found fenced =>
      cases split
      split at fenced
      · exact (suffix_of_mem_afterFence (List.mem_of_head? fenced)).trans
          (List.suffix_cons char rest)
      · cases fenced
  | case3 char rest open_ induction =>
      obtain ⟨⟨before, found⟩, later, same⟩ := Option.map_eq_some_iff.mp split
      cases same
      exact (induction later).trans (List.suffix_cons char rest)

theorem suffix_of_split? {text inner body : List Char}
    (split : split? text = some (inner, body)) : body <:+ text := by
  obtain ⟨rest, member, found⟩ := List.exists_of_findSome?_eq_some split
  exact (suffix_of_splitAtFence? found).trans (suffix_of_mem_afterFence member)

/-- The body is the end of the text, whatever the frontmatter is. -/
theorem suffix_of_read {loader : Yaml.Loader} {text body : List Char}
    {head : List (Value × Value)}
    (read : read loader text = .ok (head, body)) : body <:+ text := by
  unfold Frontmatter.read at read
  split at read
  · cases read
    exact List.suffix_rfl
  · rename_i inner after split
    have behind := suffix_of_split? split
    split at read
    · cases read
    · cases read
      exact List.suffix_rfl
    · cases read
      exact behind
    · cases read
      split
      · exact List.suffix_rfl
      · exact behind

end Frontmatter

/-- The lines in front of the body are those that its faults are moved by. -/
theorem ContentFile.exists_lead_of_ofText {loader : Yaml.Loader} {path : Path}
    {text : List Char} {file : ContentFile}
    (made : ofText loader path text = .ok file) :
    file.path = path ∧ ∃ lead, text = lead ++ file.body ∧
      file.offset = Text.lineEnds lead := by
  unfold ofText at made
  cases read : Frontmatter.read loader text with
  | error => simp [read, bind, Except.bind] at made
  | ok parts =>
      obtain ⟨head, body⟩ := parts
      obtain ⟨lead, rfl⟩ := Frontmatter.suffix_of_read read
      simp only [read, bind, Except.bind, pure, Except.pure,
        Except.ok.injEq] at made
      subst made
      refine ⟨rfl, lead, rfl, ?_⟩
      simp [Text.lineAt]

theorem ContentFile.exists_text_of_load {loader : Yaml.Loader}
    {tree : FileTree} {directory path : Path} {file : ContentFile}
    (loaded : load loader tree directory path = .ok file) :
    ∃ text, tree.readText directory path = .ok text ∧
      ofText loader path text = .ok file := by
  unfold load at loaded
  cases read : tree.readText directory path with
  | error => simp [read, bind, Except.bind, Except.mapError] at loaded
  | ok text =>
      refine ⟨text, rfl, ?_⟩
      cases made : ofText loader path text with
      | error =>
          simp [read, made, bind, Except.bind, Except.mapError] at loaded
      | ok other =>
          simpa [read, made, bind, Except.bind, Except.mapError] using loaded

namespace Store

/-- A render that fails blames the call, on the call's line. -/
def BlamesCalls (store : Store) : Prop :=
  ∀ call page site fault, store.render call page site = .error fault →
    fault.line = call.line ∧
      ∃ shortcode message, fault.problem = .render shortcode message

/-- The shortcode to blame for a fault of a document, by the offset of its
delimiter. -/
inductive Blames (store : Store) (page site : Value) (document : List Char) :
    Fault → (start : Nat) → Prop where
  /-- The reader comes to a delimiter, and cannot read what stands there. -/
  | malformed {last : Cursor} {shape : Shape} {fault : Fault} :
      (Cursor.ofText document).Reaches last → last.atLineStart = false →
      shape.opener <+: last.rest →
      readTag shape last.line (last.rest.drop 3) = .error (.fault fault) →
      Blames store page site document fault last.position
  /-- The first call whose name is unknown. -/
  | unknown {known rest : List Call} {call : Call} :
      calls document = .ok (known ++ call :: rest) →
      (∀ other ∈ known, store.isKnown other.name = true) →
      store.isKnown call.name = false →
      Blames store page site document
        ⟨call.line, .unknown call.name (sortNames store.names)⟩ call.start
  /-- The first call that fails, all names being known. -/
  | failed {before rest : List Call} {call : Call} {fault : Fault} :
      calls document = .ok (before ++ call :: rest) →
      (∀ other ∈ before ++ call :: rest, store.isKnown other.name = true) →
      (∀ other ∈ before, ∃ text, store.render other page site = .ok text) →
      store.render call page site = .error fault →
      Blames store page site document fault call.start

variable {store : Store} {page site : Value}

theorem exists_opener_of_mem_calls {document : List Char} {found : List Call}
    (read : calls document = .ok found) {call : Call} (member : call ∈ found) :
    (∃ shape : Shape, shape.opener <+: document.drop call.start) ∧
      (call.line : Int) = 1 + Text.lineEnds (document.take call.start) := by
  have written := (ascending_writtenIn_of_calls read).2 call member
  have line := congrArg (Nat.cast : Nat → Int) written.line_eq
  obtain ⟨before, invocation, rest, rfl, _, _, _, _, start, _⟩ := written
  refine ⟨⟨invocation.shape, ?_⟩, by simpa using line⟩
  rw [start, List.drop_left]
  exact invocation.opener_prefix_print.trans (List.prefix_append _ rest)

/-- What cannot be read at a delimiter is blamed on the line of the delimiter. -/
theorem opener_and_line_of_readTag {document : List Char} {last : Cursor}
    {shape : Shape} {fault : Fault}
    (reaches : (Cursor.ofText document).Reaches last)
    (opens : shape.opener <+: last.rest)
    (failed : readTag shape last.line (last.rest.drop 3) =
      .error (.fault fault)) :
    (∃ shape : Shape, shape.opener <+: document.drop last.position) ∧
      fault.line = 1 + Text.lineEnds (document.take last.position) := by
  obtain ⟨passed, passes⟩ := reaches.passes
  have cut : document = passed ++ last.rest := passes.rest
  have start : last.position = passed.length := by
    simp [Cursor.position, passes.before, Cursor.ofText]
  have line : (last.line : Int) = 1 + Text.lineEnds passed :=
    (congrArg Nat.cast passes.line).trans (Int.natCast_add 1 _)
  have here : fault.line = last.line := (foundAt_of_readTag_error failed).1
  rw [start, cut, List.drop_left, List.take_left]
  exact ⟨⟨shape, opens⟩, here.trans line⟩

/-- A delimiter stands where the shortcode to blame starts, and the line of the
fault is the line of that place. -/
theorem Blames.opener_and_line (own : store.BlamesCalls)
    {document : List Char} {fault : Fault} {start : Nat}
    (blames : store.Blames page site document fault start) :
    (∃ shape : Shape, shape.opener <+: document.drop start) ∧
      fault.line = 1 + Text.lineEnds (document.take start) := by
  cases blames with
  | malformed reaches _ opens failed =>
      exact opener_and_line_of_readTag reaches opens failed
  | unknown read => exact exists_opener_of_mem_calls read (by simp)
  | failed read _ _ failing =>
      rw [(own _ _ _ _ failing).1]
      exact exists_opener_of_mem_calls read (by simp)

theorem exists_blames_of_collect {document : List Char} {fault : Fault}
    (failed : store.collect document = .error (.fault fault)) :
    ∃ start, store.Blames page site document fault start := by
  cases read : calls document with
  | error failure =>
      rw [collect_of_calls_error read] at failed
      cases failed
      obtain ⟨last, shape, reaches, inside, opens, tagFailed⟩ :=
        Cursor.exists_reaches_of_calls_error read
      exact ⟨_, .malformed reaches inside opens tagFailed⟩
  | ok found =>
      rcases store.known_or_unknown found with
        allKnown | ⟨known, call, rest, rfl, early, unknown⟩
      · rw [collect_of_known read allKnown] at failed
        cases failed
      · rw [collect_of_unknown read early unknown] at failed
        cases failed
        exact ⟨_, .unknown read early unknown⟩

/-- An expansion fails as the collection of its calls does. -/
theorem expand_of_collect_error {document : String} {failure : Failure}
    (failed : store.collect document.toList = .error failure) :
    (store.expand document page site).outcome = .error failure := by
  rw [expand, failed]

/-- Once the calls are collected, only a call that cannot be rendered is a
fault. -/
theorem outcome_of_collect {document : String} {found : List Call}
    (collected : store.collect document.toList = .ok found) :
    (∃ text, (store.expand document page site).outcome = .ok text) ∨
      ∃ call fault, store.render call page site = .error fault ∧
        (store.expand document page site).outcome = .error (.fault fault) ∧
        store.Blames page site document.toList fault call.start := by
  obtain ⟨expansion, trace⟩ := Trace.exists_trace store document page site
  rw [trace.expand_eq]
  cases trace with
  | malformed read =>
      rw [collect_of_calls_error read] at collected
      cases collected
  | unknown read early unknown =>
      rw [collect_of_unknown read early unknown] at collected
      cases collected
  | failed read allKnown rendered failing =>
      exact .inr ⟨_, _, failing, rfl, .failed read allKnown rendered failing⟩
  | rendered => exact .inl ⟨_, rfl⟩

end Store

/-! ## Errors of a file -/

namespace ShortcodeError

/-- The text of an error shows its document, its line and its problem. -/
def IsWorded (error : ShortcodeError) : Prop :=
  error.text = error.path.toString ++ ":" ++ toString error.line ++ ": " ++
    error.problem.detail

theorem isWorded_raised (path : Path) (fault : Fault) :
    (fault.raised path).IsWorded := rfl

/-- The line that an error shows is moved with it. -/
theorem IsWorded.shift {error : ShortcodeError} (worded : error.IsWorded)
    (count : Nat) : (error.shift count).IsWorded := by
  unfold ShortcodeError.shift
  split
  · exact worded
  · rfl

variable (error : ShortcodeError) (count : Nat)

theorem path_shift : (error.shift count).path = error.path := by
  unfold shift
  split <;> rfl

theorem problem_shift : (error.shift count).problem = error.problem := by
  unfold shift
  split <;> rfl

theorem line_shift : (error.shift count).line = error.line + count := by
  unfold shift
  split
  · rename_i none
    rw [none, Int.natCast_zero, Int.add_zero]
  · rfl

end ShortcodeError

namespace ContentFile

variable {loader : Yaml.Loader} {file : ContentFile} {store : Store}
  {directory : Path} {root : Option Path} {page site : Value}
  {error : ShortcodeError}

theorem expand_of_page (paged : file.page directory root = .ok page) :
    file.expand store directory root site =
      ((store.expand (String.ofList file.body) page site).outcome).mapError
        file.fail := by
  rw [expand, paged]
  rfl

/-- An error of a file is that of a fault of its body, moved on. -/
structure IsErrorOf (error : ShortcodeError) (file : ContentFile)
    (located : Fault) : Prop where
  path : error.path = file.path
  line : error.line = located.line + file.offset
  problem : error.problem = located.problem
  worded : error.IsWorded

theorem isErrorOf_fail {located : Fault}
    (failed : file.fail (.fault located) = .shortcode error) :
    IsErrorOf error file located := by
  cases failed
  exact ⟨ShortcodeError.path_shift _ _, ShortcodeError.line_shift _ _,
    ShortcodeError.problem_shift _ _,
    (ShortcodeError.isWorded_raised _ _).shift _⟩

theorem exists_of_mapError_fail {α : Type} {outcome : Except Failure α}
    (failed : outcome.mapError file.fail = .error (.shortcode error)) :
    ∃ located : Fault, outcome = .error (.fault located) ∧
      IsErrorOf error file located := by
  cases outcome with
  | ok => cases failed
  | error failure =>
      cases failure with
      | tooManyDigits => cases failed
      | fault located =>
          exact ⟨located, rfl, isErrorOf_fail (Except.error.inj failed)⟩

/-- An error of the file is one of the body. -/
theorem exists_blames (paged : file.page directory root = .ok page)
    (failed : file.check store = .error (.shortcode error) ∨
      file.expand store directory root site = .error (.shortcode error)) :
    ∃ (located : Fault) (start : Nat), IsErrorOf error file located ∧
      store.Blames page site file.body located start := by
  rcases failed with checked | expanded
  · obtain ⟨located, collected, moved⟩ := exists_of_mapError_fail checked
    obtain ⟨start, blames⟩ := Store.exists_blames_of_collect collected
    exact ⟨located, start, moved, blames⟩
  · rw [expand_of_page paged] at expanded
    obtain ⟨located, outcome, moved⟩ := exists_of_mapError_fail expanded
    have body : (String.ofList file.body).toList = file.body :=
      String.toList_ofList
    cases collected : store.collect file.body with
    | error failure =>
        rw [Store.expand_of_collect_error (body.symm ▸ collected)] at outcome
        cases outcome
        obtain ⟨start, blames⟩ := Store.exists_blames_of_collect collected
        exact ⟨located, start, moved, blames⟩
    | ok found =>
        rcases store.outcome_of_collect (body.symm ▸ collected) with
          ⟨text, rendered⟩ | ⟨call, other, _, failing, blames⟩
        · rw [rendered] at outcome
          cases outcome
        · rw [failing] at outcome
          cases outcome
          exact ⟨_, call.start, moved, body ▸ blames⟩

/-- The line of an error is that of the place in the file where the shortcode to
blame starts. -/
theorem IsErrorOf.line_of_lead {located : Fault} {lead : List Char}
    {start : Nat} (isError : IsErrorOf error file located)
    (offset : file.offset = Text.lineEnds lead)
    (line : located.line = 1 + Text.lineEnds (file.body.take start)) :
    error.line =
      1 + Text.lineEnds ((lead ++ file.body).take (lead.length + start)) := by
  rw [isError.line, line, offset, List.take_length_add_append,
    Text.lineEnds_append, Int.natCast_add]
  omega

/-- An error that is raised for a content file has the line of the file on which
the shortcode to blame starts, the frontmatter and the blank lines behind it
counted, and its text shows this line.  Checking and expanding the file agree,
but for calls that cannot be rendered. -/
theorem faults_at_lines_of_file {tree : FileTree} {path : Path}
    {text : List Char} (read : tree.readText directory path = .ok text)
    (loaded : load loader tree directory path = .ok file)
    (paged : file.page directory root = .ok page) (own : store.BlamesCalls) :
    (∀ error,
      file.check store = .error (.shortcode error) ∨
        file.expand store directory root site = .error (.shortcode error) →
      ∃ (lead : List Char) (located : Fault) (start : Nat),
        text = lead ++ file.body ∧
        store.Blames page site file.body located start ∧
        error.problem = located.problem ∧
        (∃ shape : Shape, shape.opener <+: text.drop (lead.length + start)) ∧
        error.line = 1 + Text.lineEnds (text.take (lead.length + start)) ∧
        error.text = path.toString ++ ":" ++ toString error.line ++ ": " ++
          error.problem.detail) ∧
    (∀ error, file.check store = .error (.shortcode error) →
      file.expand store directory root site = .error (.shortcode error)) ∧
    ∀ found, file.check store = .ok found →
      (∃ result, file.expand store directory root site = .ok result) ∨
        ∃ error shortcode message,
          file.expand store directory root site = .error (.shortcode error) ∧
          error.problem = .render shortcode message := by
  obtain ⟨other, same, made⟩ := exists_text_of_load loaded
  cases read.symm.trans same
  obtain ⟨isPath, lead, rfl, offset⟩ := exists_lead_of_ofText made
  have body : (String.ofList file.body).toList = file.body :=
    String.toList_ofList
  refine ⟨?_, ?_, ?_⟩
  · intro error failed
    obtain ⟨located, start, isError, blames⟩ := exists_blames paged failed
    obtain ⟨opener, line⟩ := blames.opener_and_line own
    refine ⟨lead, located, start, rfl, blames, isError.problem, ?_,
      isError.line_of_lead offset line, ?_⟩
    · rwa [List.drop_length_add_append]
    · rw [isError.worded, isError.path, isPath]
  · intro error checked
    rw [expand_of_page paged]
    cases collected : store.collect file.body with
    | ok found => simp [check, collected, Except.mapError] at checked
    | error failure =>
        rw [check, collected] at checked
        rw [Store.expand_of_collect_error (body.symm ▸ collected)]
        exact congrArg Except.error (Except.error.inj checked)
  · intro found checked
    rw [expand_of_page paged]
    cases collected : store.collect file.body with
    | error failure => simp [check, collected, Except.mapError] at checked
    | ok others =>
        rcases store.outcome_of_collect (body.symm ▸ collected) with
          ⟨result, rendered⟩ | ⟨call, fault, failing, outcome, _⟩
        · exact .inl ⟨result, by rw [rendered]; rfl⟩
        · obtain ⟨-, shortcode, message, problem⟩ := own _ _ _ _ failing
          refine .inr ⟨_, shortcode, message, congrArg _ outcome, ?_⟩
          rw [(isErrorOf_fail rfl).problem, problem]

/-- Frontmatter, and lines of blanks behind it. -/
def titledLead : List Char := "---\ntitle: T\n---\n \t\n\n".toList

/-- A code span, and two calls. -/
def titledBody : List Char :=
  "`\x7b\x7b<`\n\x7b\x7b< b() >\x7d\x7d\n\x7b\x7b< nope() >\x7d\x7d\n".toList

def titledTree : FileTree :=
  FileTree.empty.addFile ["a.md"] (Text.Utf8.encode (titledLead ++ titledBody))

/-- The error of the call that no template is there for. -/
def titledError : ShortcodeError :=
  ⟨⟨.here, ["a.md"]⟩, 8, .unknown "nope" ["b"],
    "a.md:8: unknown shortcode `nope`. Available: b"⟩

theorem faults_at_lines_of_titledTree :
    ∃ file page,
      titledTree.readText ⟨.root, []⟩ ⟨.here, ["a.md"]⟩ =
        .ok (titledLead ++ titledBody) ∧
      load Yaml.loader titledTree ⟨.root, []⟩ ⟨.here, ["a.md"]⟩ = .ok file ∧
      file.page ⟨.root, []⟩ none = .ok page ∧
      (Outline.store ["b"] [] none).BlamesCalls ∧
      file.check (Outline.store ["b"] [] none) =
        .error (.shortcode titledError) ∧
      file.expand (Outline.store ["b"] [] none) ⟨.root, []⟩ none .null =
        .error (.shortcode titledError) ∧
      ∃ start, (∃ shape : Shape,
          shape.opener <+: (titledLead ++ titledBody).drop start) ∧
        8 = 1 + (Text.lineEnds ((titledLead ++ titledBody).take start) : Int) := by
  have read : titledTree.readText ⟨.root, []⟩ ⟨.here, ["a.md"]⟩ =
      .ok (titledLead ++ titledBody) := by
    apply eq_ok_of_toOption
    decide +kernel
  have shown : ((ofText Yaml.loader ⟨.here, ["a.md"]⟩
      (titledLead ++ titledBody)).toOption.bind fun file =>
        (file.page ⟨.root, []⟩ none).toOption.bind fun _ =>
          failure? (file.check (Outline.store ["b"] [] none))) =
        some (.shortcode titledError) := by
    decide +kernel
  have own : (Outline.store ["b"] [] none).BlamesCalls := by
    intro call page site fault failed
    simp [Outline.store] at failed
  obtain ⟨file, isFile, opened⟩ := Option.bind_eq_some_iff.mp shown
  obtain ⟨page, isPage, failed⟩ := Option.bind_eq_some_iff.mp opened
  have made := eq_ok_of_toOption isFile
  have paged := eq_ok_of_toOption isPage
  have checked := eq_error_of_failure? failed
  have loaded : load Yaml.loader titledTree ⟨.root, []⟩ ⟨.here, ["a.md"]⟩ =
      .ok file := by
    rw [load, read]
    simp [Except.mapError, bind, Except.bind, made]
  obtain ⟨lines, agree, -⟩ := faults_at_lines_of_file read loaded paged own
  obtain ⟨lead, _, start, _, _, _, opener, line, _⟩ := lines _ (.inl checked)
  exact ⟨file, page, read, loaded, paged, own, checked, agree _ checked,
    lead.length + start, opener, line⟩

end ContentFile

end Shortcode
