import Shortcode.Text.Search

/-!
# Code fences

A line that, after at most three spaces, starts with three or more backticks or tildes opens a
fence.  The fence is closed by a line with a run of the same character at least as long, and nothing
but blanks after it.
-/

namespace Shortcode

/-- An open code fence: its character and how many of them opened it. -/
structure Fence where
  mark : Char
  length : Nat
deriving DecidableEq, Repr

/-- How often `mark` is repeated at the start of the text. -/
def runLength (mark : Char) (text : List Char) : Nat := (text.takeWhile (· == mark)).length

/-- The text without up to three spaces at its start. -/
def dropIndent : List Char → List Char
  | ' ' :: ' ' :: ' ' :: rest => rest
  | ' ' :: ' ' :: rest => rest
  | ' ' :: rest => rest
  | text => text

/-- The text up to the first line end. -/
def firstLine (text : List Char) : List Char := text.takeWhile (· != '\n')

/-- The number of characters of the first line, with its line end if it has one. -/
def lineLength (text : List Char) : Nat :=
  let line := firstLine text
  if line.length < text.length then line.length + 1 else line.length

namespace Fence

/-- The characters that a fence is made of. -/
def isMark (char : Char) : Bool := char == '`' || char == '~'

/-- The fence that the text opens, indentation aside. -/
def opening? : (text : List Char) → Option Fence
  | [] => none
  | mark :: rest =>
    if isMark mark && runLength mark (mark :: rest) ≥ 3 then
      some ⟨mark, runLength mark (mark :: rest)⟩
    else none

/-- A character that may follow the closing run. -/
def isFiller (char : Char) : Bool := char == ' ' || char == '\t' || char == '\r'

/-- The text closes the fence, indentation aside. -/
def closedBy (fence : Fence) (text : List Char) : Bool :=
  let run := runLength fence.mark text
  run > 0 && run ≥ fence.length && (firstLine (text.drop run)).all isFiller

end Fence

end Shortcode
