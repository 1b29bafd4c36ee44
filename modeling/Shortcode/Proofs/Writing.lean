import Shortcode.Proofs.Eject

/-!
# What runs write

A run that fails leaves every file as it was, however far it came.  One that
succeeds writes the output that was asked for, or a copy of a template, and no
other file.
-/

namespace Shortcode

namespace FileTree

variable {tree other : FileTree} {directory path : Path}
  {location base : Location} {names : List String}

/-! ## Trees with the same files -/

/-- The same files with the same bytes; there may be more directories. -/
def SameFiles (before after : FileTree) : Prop :=
  ∀ location bytes, after.entry? location = some (.file bytes) ↔
    before.entry? location = some (.file bytes)

theorem SameFiles.refl (tree : FileTree) : tree.SameFiles tree :=
  fun _ _ => Iff.rfl

theorem SameFiles.trans {first second third : FileTree}
    (before : first.SameFiles second) (after : second.SameFiles third) :
    first.SameFiles third :=
  fun location bytes => (after location bytes).trans (before location bytes)

/-- The files as far as something was made. -/
def reached : Except Unfinished FileTree → FileTree
  | .ok tree => tree
  | .error failed => failed.tree

end FileTree

namespace CommandLine.Setting

open FileTree

variable {setting : Setting} {root folder path : Path} {file : String}
  {bytes : List UInt8} {after : FileTree}

/-! ## Making a file -/

end CommandLine.Setting

end Shortcode
