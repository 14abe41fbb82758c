import NovelScript.Files.Disk
import NovelScript.Text.Space

/-!
# Files that are replaced as a whole

A file is replaced by writing a new one beside it and moving that into its place, so that a reader
finds either the old content or the new one. Before that a copy of the old file may be kept, with
the time in its name; the newest copy can be put back.
-/

namespace NovelScript.Files

/-- What a write takes from outside. -/
structure Moment where
  /-- The second that the clock on the wall shows, written so that later ones sort behind. The clock
  may show it again, and it may be put back. -/
  stamp : Text
  /-- A part of a name that no other file has. -/
  salt : Text
deriving DecidableEq

/-- The directory for copies of the files in a directory. -/
def backupDirectory (dir : Text) : Text :=
  join (join dir stateName) (Text.lit "backups")

/-- The end of the name of a copy. -/
def backupEnding : Text := Text.lit ".bak"

/-- What the names of all copies of a file start with. -/
def backupStart (path : Text) : Text :=
  base path ++ Text.lit "."

/-- The copy of a file at a moment. -/
def backupPath (path stamp : Text) : Text :=
  join (backupDirectory (directory path)) (backupStart path ++ stamp ++ backupEnding)

/-- The file beside `path` that is written first. -/
def temporaryPath (path salt : Text) : Text :=
  join (directory path) (Text.lit "." ++ base path ++ Text.lit ".tmp-" ++ salt)

/-- Why a file is not replaced. -/
inductive WriteFailure where
  /-- No path is given. -/
  | noPath
  /-- Its directory cannot be made. -/
  | directory (e : DiskError)
  /-- The old file cannot be copied. -/
  | backup (name : Text) (e : DiskError)
  /-- The new file cannot be written. -/
  | temporary (e : DiskError)
  /-- The new file cannot be moved into place. -/
  | replace (name : Text) (e : DiskError)
deriving DecidableEq

/-- What is said when a file is not replaced. -/
def WriteFailure.message : WriteFailure → Text
  | .noPath => Text.lit "path is required"
  | .directory e => Text.lit "create dir: " ++ e.message
  | .backup name e => Text.lit "backup " ++ name ++ Text.lit ": " ++ e.message
  | .temporary e => Text.lit "write temp file: " ++ e.message
  | .replace name e => Text.lit "replace " ++ name ++ Text.lit ": " ++ e.message

/-- What the disk said, if it said something. -/
def WriteFailure.disk? : WriteFailure → Option DiskError
  | .noPath => none
  | .directory e | .temporary e => some e
  | .backup _ e | .replace _ e => some e

section

variable {α : Type}

/-- Copies a file, over what is there. The place for the copy is made before the file is read. -/
def copy (empty : α) (source target : Text) : Disk.Work α DiskError Unit := do
  match (← get).find source with
  | .error c => throw ⟨"open", [source], c⟩
  | .ok entry =>
    Disk.change id (·.makeAll (directory target))
    match entry with
    | .file content => Disk.change id (·.write target content)
    | .directory _ =>
      Disk.change id (·.write target empty)
      throw ⟨"write", [target], .copiedDirectory⟩

/-- Keeps a copy of a file if there is one. -/
def keepBackup (empty : α) (m : Moment) (path : Text) : Disk.Work α WriteFailure Unit := do
  if (← get).isThere path then
    (copy empty path (backupPath path m.stamp)).adaptExcept (.backup (base path))

/-- Moves the new file into place. What stands in the way is taken away if that is possible. -/
def moveIntoPlace (temporary path : Text) : Disk.Work α WriteFailure Unit := fun d =>
  match d.rename temporary path with
  | .ok d => .ok () d
  | .error e =>
    let d := if d.isThere path then (d.remove path).toOption.getD d else d
    match if d.isThere path then .error e else d.rename temporary path with
    | .ok d => .ok () d
    | .error e => .error (.replace (base path) e) ((d.remove temporary).toOption.getD d)

/-- Replaces a file. -/
def writeAtomic (empty : α) (m : Moment) (backup : Bool) (path : Text) (content : α) :
    Disk.Work α WriteFailure Unit := do
  if Text.isBlank path then throw .noPath
  Disk.change .directory (·.makeAll (directory path))
  if backup then keepBackup empty m path
  Disk.change .temporary (·.write (temporaryPath path m.salt) content)
  moveIntoPlace (temporaryPath path m.salt) path

/-! ## Copies -/

/-- The copies of a file, the oldest first. -/
def backups (d : Disk α) (path : Text) : Except DiskError (List Text) :=
  let dir := backupDirectory (directory path)
  match d.list dir with
  | .error e => if e.cause = .notFound then .ok [] else .error e
  | .ok names =>
    .ok (Text.sort ((names.filter fun n =>
      Text.startsWith (backupStart path) n && Text.endsWith backupEnding n).map (join dir)))

/-- Why no copy is put back. -/
inductive RestoreFailure where
  /-- The copies cannot be listed. -/
  | unlisted (e : DiskError)
  /-- There is no copy. -/
  | none
  /-- The newest copy cannot be read. -/
  | unread (e : DiskError)
  /-- The file cannot be replaced. -/
  | unwritten (e : WriteFailure)
deriving DecidableEq

/-- What is said when no copy is put back. -/
def RestoreFailure.message : RestoreFailure → Text
  | .unlisted e => Text.lit "read backups dir: " ++ e.message
  | .none => Text.lit "no backups found"
  | .unread e => Text.lit "read latest backup: " ++ e.message
  | .unwritten e => e.message

/-- What the disk said, if it said something. -/
def RestoreFailure.disk? : RestoreFailure → Option DiskError
  | .none => Option.none
  | .unlisted e | .unread e => some e
  | .unwritten e => e.disk?

/-- Puts the newest copy of a file back, and says which that is. -/
def restoreLatest (empty : α) (m : Moment) (path : Text) : Disk.Work α RestoreFailure Text := do
  match backups (← get) path with
  | .error e => throw (.unlisted e)
  | .ok all =>
    match all.getLast? with
    | Option.none => throw .none
    | some latest =>
      match (← get).read latest with
      | .error e => throw (.unread e)
      | .ok content =>
        (writeAtomic empty m false path content).adaptExcept .unwritten
        return latest

end

end NovelScript.Files
