import Mathlib.Algebra.GroupWithZero.Nat
import Shortcode.CommandLine.Run
import Shortcode.Packages.Standard
import Shortcode.Proofs.Content

/-!
# Checking files

A run that checks files looks at each of them as if it were alone: the tally of
a list is the sum over its files, and no fault of one is seen in another.  What
is reported of a file is its path, the line of the shortcode to blame and what
is wrong with it.
-/

namespace Shortcode.CommandLine.Setting

section

variable (setting : Setting) (loaded : Project setting.packages.templates)
  (path : Path)

/-- The calls of one content file, each with a known name. -/
def checked : Except ContentFailure (List Call) := do
  let file ← ContentFile.load setting.packages.yaml setting.tree
    setting.directory path
  file.check loaded.registry.store

end

variable {setting : Setting} {root path : Path}
  {loaded : Project setting.packages.templates} {paths : List Path}

/-! ## Reports -/

end Shortcode.CommandLine.Setting
