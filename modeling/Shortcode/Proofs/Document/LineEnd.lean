import Shortcode.Proofs.Document.Reading
import Shortcode.Proofs.Document.Search

/-!
# What stands behind a line end

Looks at fences, delimiters and tags stay on their line, and a search for a
closing run or an end tag stops at the first one.  So a text that ends a line
is read alike whatever follows it, provided that the search has found what it
looks for.
-/

namespace Shortcode

/-- The last line of the text is ended. -/
def EndsLine (text : List Char) : Prop :=
  ∃ lines, text = lines ++ ['\n']

namespace EndsLine

theorem mem {text : List Char} (ended : EndsLine text) : '\n' ∈ text := by
  obtain ⟨lines, rfl⟩ := ended
  simp

theorem eq_lineEnd {lines : List Char} {last : Char}
    (ended : EndsLine (lines ++ [last])) : last = '\n' := by
  obtain ⟨others, same⟩ := ended
  have ends := (List.append_inj' same rfl).2
  exact List.singleton_inj.mp ends

theorem of_append {passed rest : List Char}
    (ended : EndsLine (passed ++ rest)) : rest = [] ∨ EndsLine rest := by
  rcases List.eq_nil_or_concat rest with empty | ⟨lines, last, rfl⟩
  · exact .inl empty
  · right
    rw [List.concat_eq_append, ← List.append_assoc] at ended
    obtain rfl := ended.eq_lineEnd
    exact ⟨lines, List.concat_eq_append⟩

theorem of_cons {char : Char} {rest : List Char}
    (ended : EndsLine (char :: rest)) (inLine : char ≠ '\n') :
    EndsLine rest := by
  have whole : EndsLine ([char] ++ rest) := ended
  rcases whole.of_append with rfl | later
  · have alone : EndsLine ([] ++ [char]) := ended
    exact absurd alone.eq_lineEnd inLine
  · exact later

end EndsLine

/-- What holds no line end does not reach behind one. -/
theorem prefix_append_iff_of_mem {lead text : List Char}
    (single : '\n' ∉ lead) (member : '\n' ∈ text) (tail : List Char) :
    lead <+: text ++ tail ↔ lead <+: text := by
  constructor
  · rintro ⟨rest, cut⟩
    rcases List.append_eq_append_iff.mp cut with
      ⟨more, textCut, _⟩ | ⟨more, leadCut, _⟩
    · exact ⟨more, textCut.symm⟩
    · refine absurd ?_ single
      rw [leadCut]
      exact List.mem_append_left _ member
  · intro begins
    exact begins.trans (List.prefix_append text tail)

/-! ## Lines and fences -/

theorem firstLine_append_of_mem {text : List Char} (member : '\n' ∈ text)
    (tail : List Char) : firstLine (text ++ tail) = firstLine text := by
  obtain ⟨after, cut, rfl | ⟨rest, rfl⟩⟩ := exists_firstLine text
  · rw [List.append_nil] at cut
    rw [cut] at member
    exact absurd member (lineEnd_notMem_firstLine text)
  · have single := lineEnd_notMem_firstLine text
    generalize firstLine text = line at cut single ⊢
    rw [cut, List.append_assoc, firstLine_append single]
    simp

theorem lineLength_of_mem {text : List Char} (member : '\n' ∈ text) :
    lineLength text = (firstLine text).length + 1 := by
  have starts := firstLine_prefix text
  have shorter : (firstLine text).length < text.length := by
    refine lt_of_le_of_ne starts.length_le ?_
    intro same
    rw [← starts.eq_of_length same] at member
    exact lineEnd_notMem_firstLine text member
  simp [lineLength, shorter]

theorem lineLength_append_of_mem {text : List Char} (member : '\n' ∈ text)
    (tail : List Char) : lineLength (text ++ tail) = lineLength text := by
  rw [lineLength_of_mem member,
    lineLength_of_mem (List.mem_append_left tail member),
    firstLine_append_of_mem member]

theorem opening?_append_of_mem {text : List Char} (member : '\n' ∈ text)
    (tail : List Char) :
    Fence.opening? (dropIndent (text ++ tail)) =
      Fence.opening? (dropIndent text) := by
  ext fence
  rw [Fence.opening?_dropIndent_iff, Fence.opening?_dropIndent_iff, firstLine_append_of_mem member]

theorem closedBy_append_of_mem {text : List Char} {fence : Fence}
    (marked : fence.mark = '`' ∨ fence.mark = '~') (long : 3 ≤ fence.length)
    (member : '\n' ∈ text) (tail : List Char) :
    fence.closedBy (dropIndent (text ++ tail)) =
      fence.closedBy (dropIndent text) := by
  rw [Bool.eq_iff_iff, Fence.closedBy_dropIndent_iff marked long,
    Fence.closedBy_dropIndent_iff marked long, firstLine_append_of_mem member]

/-! ## Code spans -/

theorem runLength_append_of_mem {mark : Char} (inLine : mark ≠ '\n')
    {text : List Char} (member : '\n' ∈ text) (tail : List Char) :
    runLength mark (text ++ tail) = runLength mark text := by
  obtain ⟨rest, cut, stop⟩ := startsWithRun_runLength mark text
  have nonempty : rest ≠ [] := by
    rintro rfl
    rw [cut, List.append_nil, List.mem_replicate] at member
    exact inLine member.2.symm
  generalize runLength mark text = length at cut ⊢
  rw [runLength_eq_iff]
  refine ⟨rest ++ tail, by rw [cut, List.append_assoc], ?_⟩
  rwa [List.head?_append_of_ne_nil _ nonempty]

theorem tick_ne_lineEnd : '`' ≠ '\n' := by decide

theorem closingRun?_tick (length : Nat) (rest : List Char) :
    closingRun? length ('`' :: rest) =
      if runLength '`' rest + 1 = length then some 0
      else (closingRun? length (rest.drop (runLength '`' rest))).map
        (· + (runLength '`' rest + 1)) := by
  rw [closingRun?]
  simp

theorem closingRun?_of_ne {char : Char} (different : char ≠ '`')
    (length : Nat) (rest : List Char) :
    closingRun? length (char :: rest) =
      (closingRun? length rest).map (· + 1) := by
  rw [closingRun?]
  simp [different]

theorem closingRun?_append {length distance : Nat} {text : List Char}
    (found : closingRun? length text = some distance) (ended : EndsLine text)
    (tail : List Char) :
    closingRun? length (text ++ tail) = some distance := by
  fun_induction closingRun? length text generalizing distance with
  | case1 => cases found
  | case2 char rest tick =>
      rename_i run same
      obtain rfl : char = '`' := by simpa using tick
      have counted := runLength_append_of_mem tick_ne_lineEnd
        (ended.of_cons (by decide)).mem tail
      rw [List.cons_append, closingRun?_tick, counted, if_pos (by simpa using same)]
      exact found
  | case3 char rest tick =>
      rename_i run different induction
      obtain rfl : char = '`' := by simpa using tick
      have later := ended.of_cons (by decide)
      have counted := runLength_append_of_mem tick_ne_lineEnd later.mem tail
      have inside : runLength '`' rest ≤ rest.length :=
        (startsWithRun_runLength '`' rest).length_le
      obtain ⟨near, foundNear, rfl⟩ := Option.map_eq_some_iff.mp found
      change closingRun? length (rest.drop (runLength '`' rest)) = some near
        at foundNear
      -- A partner is found behind the run, so the run is not the end.
      have behind : EndsLine (rest.drop (runLength '`' rest)) := by
        rw [← List.take_append_drop (runLength '`' rest) rest] at later
        rcases later.of_append with empty | ended
        · simp [empty, closingRun?] at foundNear
        · exact ended
      have others := induction foundNear behind
      rw [List.cons_append, closingRun?_tick, counted,
        if_neg (by simpa using different), List.drop_append_of_le_length inside]
      exact Option.map_eq_some_iff.mpr ⟨near, others, rfl⟩
  | case4 char rest tick induction =>
      have different : char ≠ '`' := by simpa using tick
      obtain ⟨near, foundNear, rfl⟩ := Option.map_eq_some_iff.mp found
      have behind : EndsLine rest := by
        have whole : EndsLine ([char] ++ rest) := ended
        rcases whole.of_append with rfl | later
        · simp [closingRun?] at foundNear
        · exact later
      rw [List.cons_append, closingRun?_of_ne different,
        induction foundNear behind]
      rfl

theorem codeSpan?_append {text : List Char} {count : Nat}
    (found : codeSpan? text = some count) (ended : EndsLine text)
    (tail : List Char) : codeSpan? (text ++ tail) = some count := by
  have counted := runLength_append_of_mem tick_ne_lineEnd ended.mem tail
  have inside : runLength '`' text ≤ text.length :=
    (startsWithRun_runLength '`' text).length_le
  obtain ⟨distance, foundRun, rfl⟩ := Option.map_eq_some_iff.mp found
  have behind : EndsLine (text.drop (runLength '`' text)) := by
    rw [← List.take_append_drop (runLength '`' text) text] at ended
    rcases ended.of_append with empty | later
    · simp [empty, closingRun?] at foundRun
    · exact later
  have others := closingRun?_append foundRun behind tail
  simp only [codeSpan?, counted, List.drop_append_of_le_length inside, others,
    Option.map_some]

/-! ## Delimiters and tags -/

theorem openerAt?_append_of_mem {text : List Char} (member : '\n' ∈ text)
    (tail : List Char) : openerAt? (text ++ tail) = openerAt? text := by
  ext shape
  have single : '\n' ∉ shape.opener := by cases shape <;> decide
  rw [openerAt?_eq_some_iff, openerAt?_eq_some_iff,
    prefix_append_iff_of_mem single member]

theorem splitAtCloser?_append_of_mem {shape : Shape} {text : List Char}
    (member : '\n' ∈ text) (tail : List Char) :
    splitAtCloser? shape.closer (text ++ tail) =
      (splitAtCloser? shape.closer text).map
        fun (content, rest) => (content, rest ++ tail) := by
  have noEnd : '\n' ∉ shape.closer := by cases shape <;> decide
  cases split : splitAtCloser? shape.closer text with
  | some parts =>
      obtain ⟨content, rest⟩ := parts
      obtain ⟨cut, single, absent⟩ := splitAtCloser?_eq_some_iff.mp split
      rw [Option.map_some, splitAtCloser?_eq_some_iff]
      exact ⟨by simp [cut], single, absent⟩
  | none =>
      rw [Option.map_none, Option.eq_none_iff_forall_not_mem]
      rintro ⟨content, rest⟩ found
      obtain ⟨cut, single, absent⟩ := splitAtCloser?_eq_some_iff.mp found
      have tagSingle : '\n' ∉ content ++ shape.closer := by
        simp [single, noEnd]
      have begins : content ++ shape.closer <+: text ++ tail :=
        ⟨rest, by rw [cut, List.append_assoc]⟩
      obtain ⟨after, textCut⟩ :=
        (prefix_append_iff_of_mem tagSingle member tail).mp begins
      have here := splitAtCloser?_append single absent after
      rw [← List.append_assoc, textCut, split] at here
      cases here

theorem readBody_append {line : Int} {head : Head} {length : Nat}
    {text : List Char} {reading : Reading}
    (read : readBody line head length text = .ok reading) (tail : List Char) :
    readBody line head length (text ++ tail) = .ok reading := by
  obtain ⟨block, tag, rest, rfl, endTag, absent, rfl⟩ :=
    readBody_eq_ok_iff.mp read
  exact readBody_eq_ok_iff.mpr
    ⟨block, tag, rest ++ tail, by simp, endTag, absent, rfl⟩

theorem readTag_append {shape : Shape} {line : Int} {text : List Char}
    {reading : Reading} (read : readTag shape line text = .ok reading)
    (member : '\n' ∈ text) (tail : List Char) :
    readTag shape line (text ++ tail) = .ok reading := by
  have longer : ∀ {shape : Shape} {content rest : List Char},
      splitAtCloser? shape.closer text = some (content, rest) →
      splitAtCloser? shape.closer (text ++ tail) = some (content, rest ++ tail) := by
    intro shape content rest split
    rw [splitAtCloser?_append_of_mem member, split]
    rfl
  rw [readTag_eq_iff] at read ⊢
  cases read with
  | delimiter missing =>
      refine .delimiter ?_
      rw [splitAtCloser?_append_of_mem member, missing]
      rfl
  | strayEnd split ends => exact .strayEnd (longer split) ends
  | inline split reads => exact .inline (longer split) reads
  | body split notEnd reads found =>
      exact .body (longer split) notEnd reads (readBody_append found tail)

end Shortcode
