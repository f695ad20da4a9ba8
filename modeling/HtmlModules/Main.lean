import HtmlModules.Command.Basic

/-!
# The program

Reads the files that a command needs, carries it out, prints what it has to say and writes the files
that have changed.
-/

namespace HtmlModules

/-- Adds a file, or all files below a directory, to a tree. -/
partial def loadFiles (t : FileTree) (path : String) : IO FileTree := do
  let place ← try IO.FS.realPath path catch _ => return t
  if ← place.isDir then
    let t := { t with directories := t.directories ++ [path] }
    (← place.readDir).foldlM (fun t entry => loadFiles t (FileTree.start path ++ entry.fileName)) t
  else if ← place.pathExists then return t.write path (← IO.FS.readBinFile path)
  else return t

/-- Makes the files on disk those of the second tree, given that they are those of the first. -/
def storeFiles (old new : FileTree) : IO Unit := do
  for (path, bytes) in old.written new do
    IO.FS.createDirAll (Url.dirName path)
    IO.FS.writeBinFile path bytes
  for path in old.removed new do
    IO.FS.removeFile path

/-- What is printed in place of a command that was not understood. -/
def usageText : String := "usage: modulizer [-h] \x7bpackage,workspace\x7d ..."

/-- Carries out a command on the files on disk. -/
def runCommand (c : Command) : IO UInt32 := do
  let cwd := toString (← IO.currentDir)
  let old ← (c.inputs cwd).foldlM loadFiles {}
  let noColor ← IO.getEnv "NO_COLOR"
  let colorMode ← IO.getEnv "MODULIZER_COLOR"
  let color := wantsColor (noColor.getD "") (colorMode.getD "")
  match c.runOn cwd old color with
  | .error (e, disk) =>
    IO.eprintln e.text
    storeFiles old disk.tree
    return 1
  | .ok outcome =>
    IO.eprint outcome.printed
    storeFiles old outcome.tree
    return UInt32.ofNat outcome.exitCode

end HtmlModules

/-- The entry point. -/
def main (words : List String) : IO UInt32 :=
  match HtmlModules.Command.read words with
  | .error e => do
    IO.println HtmlModules.usageText
    return UInt32.ofNat e.code
  | .ok command => HtmlModules.runCommand command
