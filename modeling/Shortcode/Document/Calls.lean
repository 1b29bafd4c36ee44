import Shortcode.Call
import Shortcode.Document.Tag

/-!
# The calls of a document

`calls` reads every shortcode in prose, in document order, up to the first malformed one.  An
opener without a closer on its line, and an end tag that closes nothing, are passed over.
-/

namespace Shortcode

/-- What stands at an opening delimiter, and the number of its characters. -/
inductive Reading where
  /-- The delimiter alone: no closer follows on its line. -/
  | delimiter
  /-- An end tag without a body. -/
  | strayEnd (length : Nat)
  | call (shape : Shape) (head : Head) (body : Option String) (length : Nat)

/-- The number of characters to pass over. -/
def Reading.length : Reading → Nat
  | .delimiter => 3
  | .strayEnd length => length
  | .call _ _ _ length => length

/-- Reads the body of a call and its end tag, after the tag that opens it. -/
def readBody (line : Int) (head : Head) (tagLength : Nat) (text : List Char) :
    Except Failure Reading :=
  match findEndTag? text with
  | none => .error (.fault ⟨line, .unclosedBody head.name⟩)
  | some (start, stop) =>
    let body := String.ofList (Text.trim (text.take start))
    .ok (.call .body head (some body) (tagLength + stop))

/-- Reads what stands at a delimiter; `text` is what follows its three characters. -/
def readTag (shape : Shape) (line : Int) (text : List Char) : Except Failure Reading :=
  match splitAtCloser? shape.closer text with
  | none => .ok .delimiter
  | some (content, rest) =>
    let length := content.length + 6
    let callText := Text.trim content
    match shape with
    | .inline => (Head.read line callText).map fun head => .call .inline head none length
    | .body =>
      if callText == endWord then .ok (.strayEnd length)
      else match Head.read line callText with
        | .error failure => .error failure
        | .ok head => readBody line head length rest

theorem length_pos_of_readTag {shape : Shape} {line : Nat} {text : List Char} {reading : Reading}
    (read : readTag shape line text = .ok reading) : 0 < reading.length := by
  unfold readTag at read
  split at read
  · cases read
    simp [Reading.length]
  · rename_i content rest _
    dsimp only at read
    cases shape with
    | inline =>
      dsimp only at read
      cases head : Head.read line (Text.trim content) with
      | error failure => simp [head, Except.map] at read
      | ok head' =>
        simp only [head, Except.map, Except.ok.injEq] at read
        subst read
        simp [Reading.length]
    | body =>
      dsimp only at read
      split at read
      · cases read
        simp [Reading.length]
      · split at read
        · cases read
        · unfold readBody at read
          split at read
          · cases read
          · cases read
            simp only [Reading.length]
            omega

/-- The call that a reading at the cursor stands for. -/
def Reading.call? (reading : Reading) (cursor : Cursor) : Option Call :=
  match reading with
  | .call shape head body length =>
    some { head with
      shape, body, start := cursor.position, stop := cursor.position + length, line := cursor.line }
  | _ => none

/-- The calls from the cursor on. -/
def Cursor.calls (cursor : Cursor) : Except Failure (List Call) :=
  match _found : cursor.next with
  | (none, _) => .ok []
  | (some shape, moved) =>
    match _read : readTag shape moved.line (moved.rest.drop 3) with
    | .error failure => .error failure
    | .ok reading =>
      (moved.jump reading.length).calls.map ((reading.call? moved).toList ++ ·)
termination_by cursor.rest.length
decreasing_by exact length_rest_jump_next _found (length_pos_of_readTag _read)

/-- The calls of a document. -/
def calls (text : List Char) : Except Failure (List Call) := (Cursor.ofText text).calls

end Shortcode
