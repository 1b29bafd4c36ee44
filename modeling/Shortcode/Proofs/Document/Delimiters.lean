import Mathlib.Data.List.Pairwise
import Shortcode.Proofs.Document.Search

/-!
# The delimiters of a document

The search walks over the pieces of the segmentation one after the other, so it
stops at the opening delimiters in prose and nowhere else.
-/

namespace Shortcode

namespace Cursor

theorem delimiters_of_find?_none {cursor : Cursor}
    (ended : cursor.find? = none) : cursor.delimiters.1 = [] := by
  rw [find?_eq_none_iff] at ended
  rw [delimiters]
  split
  · rfl
  · simp_all

theorem delimiters_of_find?_some {cursor moved : Cursor} {shape : Shape}
    (found : cursor.find? = some (shape, moved)) :
    cursor.delimiters.1 =
      moved.delimiter shape :: (moved.jump 3).delimiters.1 := by
  rw [find?_eq_some_iff] at found
  rw [delimiters]
  split
  · simp_all
  · simp_all

/-- The search goes on three characters from the start of the delimiter. -/
theorem advance?_of_find?_some {cursor moved : Cursor} {shape : Shape}
    (found : cursor.find? = some (shape, moved)) :
    moved.advance? ((moved.delimiter shape).start + 3) =
      some (moved.jump 3) := by
  have nonempty : moved.rest ≠ [] :=
    rest_ne_nil_of_next (find?_eq_some_iff.mp found)
  have later : ¬ ((moved.position : Int) + 3 ≤ moved.position) := by omega
  have distance :
      ((moved.position : Int) + 3).toNat - moved.position = 3 := by omega
  simp [advance?, delimiter, later, distance, nonempty]

theorem delimiters_congr {cursor other : Cursor}
    (same : cursor.find? = other.find?) :
    cursor.delimiters.1 = other.delimiters.1 := by
  cases found : other.find? with
  | none =>
      rw [delimiters_of_find?_none (same.trans found),
        delimiters_of_find?_none found]
  | some entry =>
      rw [delimiters_of_find?_some (same.trans found),
        delimiters_of_find?_some found]

/-- The delimiter at the cursor, if its first character is prose. -/
def openersIn (cursor : Cursor) (region : Region) : List Delimiter :=
  match region with
  | .prose => (openerAt? cursor.rest).toList.map cursor.delimiter
  | .code | .fenced => []

/-- The search over one piece of the text. -/
theorem delimiters_of_piece {cursor : Cursor} {lineStart next : Bool}
    {text : List Char} {count : Nat} {region : Region}
    (piece : Piece lineStart text count region next)
    (remaining : cursor.rest = text) (fresh : cursor.atLineStart = lineStart)
    (unfenced : cursor.fence = none) :
    cursor.delimiters.1 =
      cursor.openersIn region ++ (cursor.behind count next).delimiters.1 := by
  by_cases quiet : region = .prose → openerAt? text = none
  · have none : cursor.openersIn region = [] := by
      cases region with
      | prose => simp [openersIn, remaining, quiet rfl]
      | code | fenced => rfl
    rw [none, List.nil_append]
    exact delimiters_congr
      (find?_of_piece piece quiet remaining fresh unfenced)
  · obtain ⟨rfl, open_⟩ := Classical.not_imp.mp quiet
    obtain ⟨shape, found⟩ := Option.ne_none_iff_exists'.mp open_
    have opens := openerAt?_eq_some_iff.mp found
    cases piece with
    | run _ unclosed =>
        obtain ⟨rest, rfl⟩ := unclosed.exists_cons
        simp [openerAt?] at found
    | @char lineStart char rest plain notTick =>
        have brace : char = '{' := by
          rw [Shape.opener_eq, List.cons_prefix_cons] at opens
          exact opens.1.symm
        let inside := cursor.behind 0 false
        have insideOpens : shape.opener <+: inside.rest := by
          simpa [inside, remaining] using opens
        have stop : cursor.find? = some (shape, inside) :=
          find?_of_opener_of_not_opensFence unfenced (remaining ▸ opens)
            (by rwa [fresh, remaining])
        have notEnd : (char == '\n') = false := by simp [brace]
        -- The cursor jumps over three characters, the segmentation takes
        -- them one by one.
        rw [delimiters_of_find?_some stop,
          delimiters_congr (find?_jump_opener rfl insideOpens), behind_skip,
          notEnd]
        simp [openersIn, remaining, found, delimiter, position, inside, behind,
          skip, Text.lineEnds]

end Cursor

/-! ## All pieces -/

/-- The delimiters that open at prose characters of a text; `before` is what
stands before the text, nearest first. -/
def proseOpeners (before : List Char) :
    (text : List Char) → List Region → List Delimiter
  | char :: rest, region :: regions =>
    let shape := if region = .prose then openerAt? (char :: rest) else none
    (shape.toList.map fun shape =>
        ⟨shape, before.length, 1 + Text.lineEnds before⟩) ++
      proseOpeners (char :: before) rest regions
  | _, _ => []

theorem proseOpeners_skip {region : Region} {regions : List Region}
    {count : Nat} {before text : List Char}
    (quiet : region = .prose →
      ∀ offset < count, openerAt? (text.drop offset) = none) :
    proseOpeners before text (List.replicate count region ++ regions) =
      proseOpeners ((text.take count).reverse ++ before) (text.drop count)
        regions := by
  induction count generalizing before text with
  | zero => simp
  | succ count induction =>
      cases text with
      | nil => simp [proseOpeners]
      | cons char rest =>
          have quietRest : region = .prose →
              ∀ offset < count, openerAt? (rest.drop offset) = none := by
            intro same offset inside
            simpa using quiet same (offset + 1) (by omega)
          have others := @induction (char :: before) rest quietRest
          cases region with
          | prose =>
              have none := quiet rfl 0 (by omega)
              rw [List.drop_zero] at none
              simp [proseOpeners, List.replicate_succ, none, others]
          | code => simp [proseOpeners, List.replicate_succ, others]
          | fenced => simp [proseOpeners, List.replicate_succ, others]

theorem openerAt?_of_startsWithRun {length offset : Nat} {text : List Char}
    (run : StartsWithRun '`' length text) (inside : offset < length) :
    openerAt? (text.drop offset) = none := by
  obtain ⟨rest, rfl, _⟩ := run
  obtain ⟨more, rfl⟩ := Nat.exists_eq_add_of_lt inside
  have dropped : (List.replicate (offset + more + 1) '`' ++ rest).drop offset =
      '`' :: (List.replicate more '`' ++ rest) := by
    rw [Nat.add_assoc, List.replicate_add, List.append_assoc,
      List.drop_left' (by simp)]
    simp [List.replicate_succ]
  simp [dropped, openerAt?]

theorem proseOpeners_piece {lineStart next : Bool} {text : List Char}
    {count : Nat} {region : Region} (regions : List Region)
    (piece : Piece lineStart text count region next) {cursor : Cursor}
    (remaining : cursor.rest = text) (lined : cursor.Lined) :
    proseOpeners cursor.before text (List.replicate count region ++ regions) =
      cursor.openersIn region ++
        proseOpeners ((text.take count).reverse ++ cursor.before)
          (text.drop count) regions := by
  cases piece with
  | fenced => exact proseOpeners_skip (by simp)
  | code => exact proseOpeners_skip (by simp)
  | run _ unclosed =>
      obtain ⟨positive, starts, _⟩ := unclosed
      have quiet : ∀ offset < count, openerAt? (text.drop offset) = none :=
        fun offset inside => openerAt?_of_startsWithRun starts inside
      have here : openerAt? text = none := quiet 0 positive
      rw [proseOpeners_skip fun _ => quiet]
      simp [Cursor.openersIn, remaining, here]
  | @char lineStart char rest =>
      cases opens : openerAt? (char :: rest) with
      | none => simp [proseOpeners, Cursor.openersIn, remaining, opens]
      | some shape =>
          have line : cursor.line = 1 + Text.lineEnds cursor.before := lined
          simp [proseOpeners, Cursor.openersIn, remaining, opens,
            Cursor.delimiter, Cursor.position, line]

theorem delimiters_eq_proseOpeners {lineStart : Bool} {text : List Char}
    {regions : List Region}
    (segmentation : Segmentation lineStart text regions) {cursor : Cursor}
    (remaining : cursor.rest = text) (fresh : cursor.atLineStart = lineStart)
    (unfenced : cursor.fence = none) (lined : cursor.Lined) :
    cursor.delimiters.1 = proseOpeners cursor.before text regions := by
  induction segmentation generalizing cursor with
  | done =>
      rw [Cursor.delimiters_of_find?_none (Cursor.find?_of_rest_eq_nil remaining)]
      simp [proseOpeners]
  | @piece lineStart next text count region regions piece _ induction =>
      have passes := cursor.passes_behind count next
      have dropped : (cursor.behind count next).rest = text.drop count := by
        simp [← remaining, Cursor.behind, Cursor.skip]
      have later := induction dropped rfl rfl (passes.lined lined)
      rw [passes.before, remaining] at later
      rw [Cursor.delimiters_of_piece piece remaining fresh unfenced, later,
        proseOpeners_piece regions piece remaining lined]

theorem mem_proseOpeners_iff {before text : List Char} {regions : List Region}
    {delimiter : Delimiter} :
    delimiter ∈ proseOpeners before text regions ↔
      ∃ offset, delimiter.start = before.length + offset ∧
        regions[offset]? = some .prose ∧
        delimiter.shape.opener <+: text.drop offset ∧
        delimiter.line = 1 + Text.lineEnds (text.take offset) +
          Text.lineEnds before := by
  induction text generalizing before regions with
  | nil =>
      have closed : ¬ delimiter.shape.opener <+: [] := by
        simp [Shape.opener_eq]
      simp [proseOpeners, closed]
  | cons char rest induction =>
      cases regions with
      | nil => simp [proseOpeners]
      | cons region regions =>
          obtain ⟨shape, start, line⟩ := delimiter
          simp only [proseOpeners, List.mem_append, induction]
          constructor
          · rintro (here | ⟨offset, place, prose, opens, counted⟩)
            · refine ⟨0, ?_⟩
              split at here
              · simp_all [openerAt?_eq_some_iff]
              · simp at here
            · refine ⟨offset + 1, ?_, by simpa using prose, by simpa using opens, ?_⟩
              · simp [place]
                omega
              · simp [counted, Text.lineEnds_cons]
                omega
          · rintro ⟨offset, place, prose, opens, counted⟩
            cases offset with
            | zero =>
                left
                have region_eq : region = .prose := by simpa using prose
                simp_all [openerAt?_eq_some_iff]
            | succ offset =>
                right
                refine ⟨offset, ?_, by simpa using prose, by simpa using opens, ?_⟩
                · simp [place]
                  omega
                · simp [counted, Text.lineEnds_cons]
                  omega

theorem pairwise_proseOpeners (before text : List Char)
    (regions : List Region) :
    (proseOpeners before text regions).Pairwise
      fun earlier later => earlier.start < later.start := by
  induction text generalizing before regions with
  | nil => simp [proseOpeners]
  | cons char rest induction =>
      cases regions with
      | nil => simp [proseOpeners]
      | cons region regions =>
          rw [proseOpeners, List.pairwise_append]
          refine ⟨?_, induction (char :: before) regions, ?_⟩
          · cases (if region = .prose then openerAt? (char :: rest) else none)
            · simp
            · simp
          · intro earlier here later there
            obtain ⟨offset, place, _⟩ := mem_proseOpeners_iff.mp there
            obtain ⟨shape, _, rfl⟩ := List.mem_map.mp here
            change before.length < later.start
            rw [place, List.length_cons]
            omega

/-- The search stops, in order, exactly at the opening delimiters whose first
character is prose in the one segmentation of the document. -/
theorem mem_delimiters_iff_opens_in_prose (text : List Char) :
    ∃ regions, (∀ other, Segmentation true text other ↔ other = regions) ∧
      (Cursor.ofText text).delimiters.1.Pairwise
        (fun earlier later => earlier.start < later.start) ∧
      ∀ delimiter, delimiter ∈ (Cursor.ofText text).delimiters.1 ↔
        regions[delimiter.start]? = some .prose ∧
          delimiter.shape.opener <+: text.drop delimiter.start ∧
          delimiter.line = 1 + Text.lineEnds (text.take delimiter.start) := by
  obtain ⟨regions, segmentation⟩ := Segmentation.exists_regions true text
  have found : (Cursor.ofText text).delimiters.1 =
      proseOpeners [] text regions :=
    delimiters_eq_proseOpeners segmentation rfl rfl rfl rfl
  refine ⟨regions, ?_, ?_, ?_⟩
  · intro other
    constructor
    · exact fun otherSegmentation => otherSegmentation.unique segmentation
    · rintro rfl
      exact segmentation
  · rw [found]
    exact pairwise_proseOpeners [] text regions
  · intro delimiter
    rw [found, mem_proseOpeners_iff]
    simp

end Shortcode
