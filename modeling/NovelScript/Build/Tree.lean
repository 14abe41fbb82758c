import NovelScript.Build.Document
import NovelScript.Files.Disk

/-!
# Documents below a directory

A build looks at all documents below a root, a watch at all directories there. Both pass over hidden
directories below the root; the root itself may be hidden.
-/

namespace NovelScript.Build

open Files (Entry Disk DiskError)

variable {α : Type}

/-- Is it a directory that is passed over? -/
def isSkipped (name : Text) (e : Entry α) : Bool :=
  e.isDirectory && isHidden name

mutual

/-- The documents at a path and below it. -/
def documentsAt (path : Text) : Entry α → List Text
  | .file _ => if isSource path then [path] else []
  | .directory entries => documentsIn path entries

/-- The documents among the entries of a directory and below them. -/
def documentsIn (path : Text) : List (Text × Entry α) → List Text
  | [] => []
  | (name, e) :: more =>
    (if isSkipped name e then [] else documentsAt (Files.join path name) e) ++ documentsIn path more

end

mutual

/-- The directories at a path and below it. -/
def directoriesAt (path : Text) : Entry α → List Text
  | .file _ => []
  | .directory entries => path :: directoriesIn path entries

/-- The directories among the entries of a directory and below them. -/
def directoriesIn (path : Text) : List (Text × Entry α) → List Text
  | [] => []
  | (name, e) :: more =>
    (if isSkipped name e then [] else directoriesAt (Files.join path name) e) ++
      directoriesIn path more

end

/-- The entry that a walk starts from. -/
def startOf (d : Disk α) (root : Text) : Except DiskError (Entry α) :=
  Disk.fail "lstat" root (d.find root)

/-- The documents below a root, in the order of their paths. -/
def discover (d : Disk α) (root : Text) : Except DiskError (List Text) :=
  (startOf d root).map fun e => Text.sort (documentsAt root e)

/-- The directories below a root, with the root. -/
def directories (d : Disk α) (root : Text) : Except DiskError (List Text) :=
  (startOf d root).map fun e => directoriesAt root e

end NovelScript.Build
