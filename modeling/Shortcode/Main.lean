import Shortcode.BuiltIn
import Shortcode.CommandLine.Run
import Shortcode.Packages.Standard

/-!
# The program

Reads the files around the current directory and those that the command line names, runs the
command line on them, and writes what it says and the files that it changes.
-/

namespace Shortcode.Program

open CommandLine

/-- The folder that the built-in templates are shown in. -/
def builtInFolder : Path := Path.ofString "/usr/share/sigil/builtins"

/-- The length of the longest line of a help page. -/
def pageWidth : Nat := 78

/-- The files of the built-in templates. -/
def builtInTree : FileTree :=
  BuiltIn.templates.foldl (fun tree (name, text) =>
    tree.addFile (builtInFolder.names ++ [name ++ templateSuffix])
      (Text.Utf8.encode text.toList)) .empty

/-- The tree with what stands at a path. -/
partial def readPath (tree : FileTree) (path : String) : IO FileTree := do
  let place := (← IO.currentDir) / path
  let location := ((Path.ofString place.toString).resolve (Path.ofString "")).names
  if ← place.isDir then
    let mut tree := tree.addDirectory location
    for entry in ← place.readDir do
      tree ← readPath tree entry.path.toString
    return tree
  else if ← place.pathExists then
    return tree.addFile location (← IO.FS.readBinFile place).toList
  else return tree

/-- The part of a word that may name a path. -/
def pathIn (word : String) : String :=
  if word.startsWith "-" then ((word.splitOn "=").drop 1).headD "" else word

/-- Writes the files that a command made or changed. -/
def writeChanges (before after : FileTree) : IO Unit := do
  let here ← IO.currentDir
  for (location, bytes) in before.changes after do
    let place := here / (Path.mk .root location).toString
    if let some folder := place.parent then IO.FS.createDirAll folder
    IO.FS.writeBinFile place (ByteArray.mk bytes.toArray)

/-- Writes a text, without styles where nothing shows them. -/
def say (stream : IO.FS.Stream) (text : String) : IO Unit := do
  stream.putStr (if ← stream.isTty then text else Text.withoutStyles text)
  stream.flush

/-- Runs a command line in the current directory. -/
def run (words : List String) : IO UInt32 := do
  let here := (← IO.currentDir).toString
  let mut tree := builtInTree
  for path in here :: words.map pathIn do
    unless path.isEmpty do tree ← readPath tree path
  let setting : Setting := ⟨.standard, tree, Path.ofString here, builtInFolder, pageWidth⟩
  let outcome := setting.run words
  writeChanges tree outcome.tree
  say (← IO.getStdout) outcome.output
  say (← IO.getStderr) outcome.errors
  if let some crash := outcome.crash then IO.eprintln crash.message
  return outcome.exit.toUInt32

end Shortcode.Program

/-- Runs the command line. -/
def main (words : List String) : IO UInt32 := Shortcode.Program.run words
