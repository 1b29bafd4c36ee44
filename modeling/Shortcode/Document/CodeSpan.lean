import Shortcode.Document.Fence

/-!
# Code spans

A run of backticks opens a code span that the next run of exactly the same length closes, on
whatever line it stands.
-/

namespace Shortcode

/-- The distance to the next run of exactly `length` backticks.  A run is counted from where the
search meets it, and a run of another length is passed over whole. -/
def closingRun? (length : Nat) (text : List Char) : Option Nat :=
  match text with
  | [] => none
  | char :: rest =>
    if char == '`' then
      let run := runLength '`' rest + 1
      if run == length then some 0
      else (closingRun? length (rest.drop (run - 1))).map (· + run)
    else (closingRun? length rest).map (· + 1)
termination_by text.length
decreasing_by all_goals simp_wf; try omega

/-- The number of characters of the code span at the start of the text, if its opening run of
backticks is closed. -/
def codeSpan? (text : List Char) : Option Nat :=
  let run := runLength '`' text
  (closingRun? run (text.drop run)).map (run + · + run)

end Shortcode
