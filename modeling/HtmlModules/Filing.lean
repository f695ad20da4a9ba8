import HtmlModules.FileTree

/-!
# Operations on files

All that a run does to files is a sequence of operations on the disk. Each of them is put on record
when it is carried out, with the reason why it failed if it did. What has been done before a failure
stays done.
-/

namespace HtmlModules

open Text

/-- An operation on files. -/
inductive FileOperation where
  /-- Makes a directory, and those that it is in, unless they are there. -/
  | makeDirectory (path : String)
  | write (path text : String)
  | remove (path : String)
  /-- Goes into a directory to copy what is in it; `room` is how far directories may still nest. -/
  | enter (path : String) (room : Nat)
  /-- Makes a directory for a copy. -/
  | copyDirectory (path : String)
  | copyFile (source target : String)

namespace FileTree

/-- The tree after a step, and why it failed; a failing step leaves the tree as it was. -/
def attempt (t : FileTree) : Except Failure FileTree → FileTree × Option Failure
  | .ok t => (t, none)
  | .error e => (t, some e)

/-- Writes a text to a path; a file whose text cannot be written down is left empty. -/
def writeText (t : FileTree) (path text : String) : FileTree × Option Failure :=
  match t.locate path with
  | .error e => (t, some e)
  | .ok path =>
    if t.placeAt path = .directory then (t, some .isADirectory)
    else if Surrogate.occursIn text then (t.write path .empty, some .notEncodable)
    else (t.write path (Utf8.encode text), none)

/-- Removes the file at a path. -/
def removeFile (t : FileTree) (path : String) : Except Failure FileTree := do
  let path ← t.locate path
  match t.placeAt path with
  | .file => return t.remove path
  | .directory => throw .isADirectory
  | .nothing => throw .missingFile

/-- Makes a directory for a copy. -/
def copyDirectory (t : FileTree) (path : String) : Except Failure FileTree :=
  match t.makeDirectories [] (steps path) with
  | .ok (t, _) => .ok t
  | .error _ => .error .notCopied

/-- Copies a file to a path, or into the directory that is there. -/
def copyFile (t : FileTree) (source target : String) : Except Failure FileTree :=
  let target := if t.placeAt target = .directory then start target ++ Url.baseName source else target
  match Table.get? t.files source with
  | none => .error .notCopied
  | some bytes =>
    if target = source || t.placeAt target = .directory then .error .notCopied
    else .ok (t.write target bytes)

end FileTree

/-- The tree that an operation leaves, and why it failed. -/
def FileOperation.carryOut (op : FileOperation) (t : FileTree) : FileTree × Option Failure :=
  match op with
  | makeDirectory path => t.attempt (t.makeDirectory path)
  | write path text => t.writeText path text
  | remove path => t.attempt (t.removeFile path)
  | enter _ room => (t, if room = 0 then some .notCopied else none)
  | copyDirectory path => t.attempt (t.copyDirectory path)
  | copyFile source target => t.attempt (t.copyFile source target)

/-- The files, and the operations that have been carried out on them, the latest one first, each with
the reason why it failed. -/
structure Disk where
  tree : FileTree := {}
  operations : List (FileOperation × Option Failure) := []

/-- The disk after an operation. -/
def Disk.after (d : Disk) (op : FileOperation) : Disk :=
  let (tree, failure) := op.carryOut d.tree
  { tree, operations := (op, failure) :: d.operations }

/-- The last step was into a directory that nests too deeply: the copying has been given up. -/
def Disk.gaveUp (d : Disk) : Bool :=
  match d.operations with
  | (.enter _ 0, _) :: _ => true
  | _ => false

/-- A computation that does something to files. -/
abbrev Filing := EStateM Failure Disk

namespace Filing

/-- Carries out an operation. -/
def perform (op : FileOperation) : Filing Unit := fun d =>
  match (op.carryOut d.tree).2 with
  | none => .ok () (d.after op)
  | some e => .error e (d.after op)

/-- Runs computations, also those behind one that fails unless the copying has been given up; then
the first failure is that of all. -/
def tryAll : List (Filing Unit) → Filing Unit
  | [] => pure ()
  | m :: ms => fun d =>
    match m d with
    | .ok () d => tryAll ms d
    | .error e d =>
      if d.gaveUp then .error e d
      else match tryAll ms d with
        | .ok () d | .error _ d => .error e d

/-! ## Writing -/

/-- Writes a text, in directories that are made if they are missing. -/
def writeText (path text : String) : Filing Unit := do
  perform (.makeDirectory (FileTree.pathOf (FileTree.steps path).dropLast.reverse))
  perform (.write path text)

/-- Writes a text to a path below a directory, or removes the file that is there. -/
def put (dir : String) (result : String × Option String) : Filing Unit := do
  let path := FileTree.spelled dir result.1
  match result.2 with
  | some text => writeText path text
  | none => if (← get).tree.placeOf path ≠ .nothing then perform (.remove path)

/-- Writes results below a directory and then removes the files that match the patterns, those just
written apart. -/
def writeResults (dir : String) (results : Table (Option String)) (patterns : List String) :
    Filing Unit := do
  let written := (results.filter (·.2.isSome)).map Prod.fst
  (sortBy (fun a b => le a.1 b.1) results).forM (put dir)
  let doomed := ((← get).tree.matching dir patterns).filter fun path => !written.contains path
  doomed.forM fun path => perform (.remove (FileTree.resolve dir path))

/-! ## Copying -/

/-- Copies a directory to the one that `make` makes. What is in a directory is listed when the copying
comes to it, so a directory that is copied to is copied as well if it is among that. -/
def copyTree (isLeftOut : String → Bool) : Nat → FileOperation → String → String → Filing Unit
  | 0, _, source, _ => perform (.enter source 0)
  | room + 1, make, source, target => do
    perform (.enter source (room + 1))
    let t := (← get).tree
    perform make
    tryAll (((t.namesIn source).filter fun name => !isLeftOut name).map fun name =>
      let path := FileTree.start source ++ name
      let copy := FileTree.start target ++ name
      if t.placeAt path = .directory then copyTree isLeftOut room (.copyDirectory copy) path copy
      else perform (.copyFile path copy))

/-- The name is left out of a copy: it is one of a directory of dependencies, or that of the directory
that is copied to if that is right in the one that is copied. -/
def isLeftOut (source target name : String) : Bool :=
  let own := if Url.dirName target == source then [Url.baseName target] else []
  (foreignDirectories ++ own).any fun pattern => globMatches pattern name

/-- Copies the files of a package from one directory to another. -/
def copyPackage (room : Nat) (source target : String) : Filing Unit :=
  copyTree (isLeftOut source target) room (.makeDirectory target) source target

end Filing

/-- The tree with results written below a directory and the files removed that match the patterns. -/
def FileTree.writeResults (t : FileTree) (dir : String) (results : Table (Option String))
    (patterns : List String) : Except Failure FileTree :=
  match Filing.writeResults dir results patterns { tree := t } with
  | .ok () d => .ok d.tree
  | .error e _ => .error e

end HtmlModules
