import NovelScript.Files.Path

/-!
# Disks

A disk is a tree of directories and files and a working directory. The operations are those of an
operating system: they follow a spelling name by name, so that `..` is the directory above the one
that was reached, and they fail the way a system fails. What a file holds is a type `α`.
-/

namespace NovelScript.Files

/-- A file or a directory. -/
inductive Entry (α : Type) where
  /-- A file and what it holds. -/
  | file (content : α)
  /-- A directory and what is in it, by name. -/
  | directory (entries : List (Text × Entry α))

/-- Why an operation fails. -/
inductive Cause where
  /-- There is nothing of that name. -/
  | notFound
  /-- Something on the way is no directory. -/
  | notDirectory
  /-- There is a directory where a file is wanted. -/
  | isDirectory
  /-- There is something already. -/
  | exists
  /-- A directory is not empty. -/
  | notEmpty
  /-- No name can be like that. -/
  | invalid
  /-- A name is too long. -/
  | tooLong
  /-- A directory cannot be copied like a file. -/
  | copiedDirectory
deriving DecidableEq, Repr

/-- What the system says. -/
def Cause.message : Cause → String
  | .notFound => "no such file or directory"
  | .notDirectory => "not a directory"
  | .isDirectory => "is a directory"
  | .exists => "file exists"
  | .notEmpty => "directory not empty"
  | .invalid => "invalid argument"
  | .tooLong => "file name too long"
  | .copiedDirectory => "copy_file_range: is a directory"

/-- A failed operation on a path, or on two paths. -/
structure DiskError where
  /-- The operation. -/
  operation : String
  /-- The paths, as they were spelled. -/
  paths : List Text
  /-- Why it failed. -/
  cause : Cause
deriving DecidableEq

/-- What is said about a failed operation. -/
def DiskError.message (e : DiskError) : Text :=
  Text.join (Text.lit " ") (Text.lit e.operation :: e.paths) ++ Text.lit ": " ++
    Text.lit e.cause.message

namespace Entry

variable {α : Type}

/-- Is it a directory? -/
def isDirectory : Entry α → Bool
  | file _ => false
  | directory _ => true

/-- The entry at the end of a list of names. -/
def get? : Entry α → List Text → Option (Entry α)
  | e, [] => some e
  | file _, _ :: _ => none
  | directory es, name :: more =>
    match es.lookup name with
    | some e => e.get? more
    | none => none

/-- The list with the entry of one name set, or taken away. -/
def setEntry (name : Text) (new : Option (Entry α)) :
    List (Text × Entry α) → List (Text × Entry α)
  | [] => (new.map fun e => (name, e)).toList
  | (n, e) :: more =>
    if n = name then (new.map fun e => (name, e)).toList ++ more
    else (n, e) :: setEntry name new more

/-- The tree with the entry at a list of names set, or taken away. Directories on the way must be
there; otherwise nothing changes. -/
def set (new : Option (Entry α)) : Entry α → List Text → Entry α
  | e, [] => new.getD e
  | file c, _ :: _ => file c
  | directory es, [name] => directory (setEntry name new es)
  | directory es, name :: more =>
    match es.lookup name with
    | some e => directory (setEntry name (some (e.set new more)) es)
    | none => directory es

end Entry

/-- A disk. -/
structure Disk (α : Type) where
  /-- The directory above all. -/
  root : Entry α := .directory []
  /-- The names of the working directory. -/
  home : List Text := []

namespace Disk

variable {α : Type}

/-- Where a spelling leads: the names from the root on. All but the last must be directories that
are there; a slash at the end asks for a directory. -/
structure Place where
  /-- The names. -/
  names : List Text
  /-- Does the spelling ask for a directory? -/
  wantsDirectory : Bool

/-- Follows names from a directory on. -/
def follow (root : Entry α) (reached : List Text) : List Text → Except Cause (List Text)
  | [] => .ok reached
  | name :: more =>
    if name == dot then follow root reached more
    else if name == dotDot then follow root reached.dropLast more
    else if 255 < name.length then .error .tooLong
    else
      let here := reached ++ [name]
      if more.isEmpty then .ok here
      else
        match root.get? here with
        | none => .error .notFound
        | some (.file _) => .error .notDirectory
        | some (.directory _) => follow root here more

/-- The place of a spelling. -/
def locate (d : Disk α) (path : Text) : Except Cause Place :=
  if path.isEmpty then .error .notFound
  else if path.contains 0 then .error .invalid
  else do
    let names := (Text.splitAt slash path).filter (!·.isEmpty)
    let start := if path.head? = some slash then [] else d.home
    let names ← follow d.root start names
    let wants := path.getLast? == some slash
    match d.root.get? names with
    | some (.file _) => if wants then .error .notDirectory else .ok ⟨names, wants⟩
    | _ => .ok ⟨names, wants⟩

/-- The entry of a spelling. -/
def find (d : Disk α) (path : Text) : Except Cause (Entry α) := do
  let p ← d.locate path
  match d.root.get? p.names with
  | some e => return e
  | none => throw .notFound

/-- A failure of an operation on one path. -/
def fail {β : Type} (operation : String) (path : Text) (r : Except Cause β) : Except DiskError β :=
  match r with
  | .ok b => .ok b
  | .error c => .error ⟨operation, [path], c⟩

/-- Work on a disk that may fail, and that keeps what was done before it failed. -/
abbrev Work (α ε β : Type) := EStateM ε (Disk α) β

/-- One change of the disk; `wrap` says what a failure means here. -/
def change {ε : Type} (wrap : DiskError → ε) (f : Disk α → Except DiskError (Disk α)) :
    Work α ε Unit := fun d =>
  match f d with
  | .ok d => .ok () d
  | .error e => .error (wrap e) d

/-- Looks whether there is something, and what. -/
def stat (d : Disk α) (path : Text) : Except DiskError (Entry α) :=
  fail "stat" path (d.find path)

/-- Is there something? -/
def isThere (d : Disk α) (path : Text) : Bool :=
  (d.find path).isOk

/-- What a file holds. A directory can be opened but not read. -/
def read (d : Disk α) (path : Text) : Except DiskError α :=
  match d.find path with
  | .error c => .error ⟨"open", [path], c⟩
  | .ok (.directory _) => .error ⟨"read", [path], .isDirectory⟩
  | .ok (.file c) => .ok c

/-- The names in a directory, in their order. -/
def list (d : Disk α) (path : Text) : Except DiskError (List Text) :=
  match d.find path with
  | .error c => .error ⟨"open", [path], c⟩
  | .ok (.file _) => .error ⟨"open", [path], .notDirectory⟩
  | .ok (.directory es) => .ok (Text.sort (es.map Prod.fst))

/-- Puts a file in place, over one that is there. -/
def write (d : Disk α) (path : Text) (content : α) : Except DiskError (Disk α) :=
  fail "open" path do
    let p ← d.locate path
    match d.root.get? p.names with
    | some (.directory _) => throw .isDirectory
    | some (.file _) => return { d with root := d.root.set (some (.file content)) p.names }
    | none =>
      if p.wantsDirectory then throw .isDirectory
      else return { d with root := d.root.set (some (.file content)) p.names }

/-- Makes a directory. -/
def makeDirectory (d : Disk α) (path : Text) : Except DiskError (Disk α) :=
  fail "mkdir" path do
    let p ← d.locate path
    match d.root.get? p.names with
    | some _ => throw .exists
    | none => return { d with root := d.root.set (some (.directory [])) p.names }

/-- The spelling of the directory above a spelling; `none` when there is none to make. -/
def parent? (path : Text) : Option Text :=
  let trimmed := (path.reverse.dropWhile (· == slash)).reverse
  let up := (splitLast trimmed).1
  if up.length ≤ 1 then none else some up.dropLast

/-- Makes a directory and the directories above it, as far as they are missing. -/
def makeDirectories : (fuel : Nat) → Disk α → (path : Text) → Except DiskError (Disk α)
  | 0, d, _ => .ok d
  | fuel + 1, d, path =>
    match d.find path with
    | .ok (.directory _) => .ok d
    | .ok (.file _) => .error ⟨"mkdir", [path], .notDirectory⟩
    | .error _ => do
      let d ← match parent? path with
        | some up => makeDirectories fuel d up
        | none => pure d
      match d.makeDirectory path with
      | .ok d => return d
      | .error e => if (d.find path).toOption.any Entry.isDirectory then return d else throw e

/-- Makes a directory with all above it. -/
def makeAll (d : Disk α) (path : Text) : Except DiskError (Disk α) :=
  makeDirectories (path.length + 1) d path

/-- Takes a file or an empty directory away. -/
def remove (d : Disk α) (path : Text) : Except DiskError (Disk α) :=
  fail "remove" path do
    let p ← d.locate path
    match d.root.get? p.names with
    | none => throw .notFound
    | some (.directory (_ :: _)) => throw .notEmpty
    | some _ => return { d with root := d.root.set none p.names }

/-- Takes away whatever is there. -/
def removeAll (d : Disk α) (path : Text) : Disk α :=
  match d.locate path with
  | .ok p => { d with root := d.root.set none p.names }
  | .error _ => d

/-- Moves a file or a directory to another place. A directory in that place is never replaced. -/
def rename (d : Disk α) (source target : Text) : Except DiskError (Disk α) :=
  let failure (c : Cause) : DiskError := ⟨"rename", [source, target], c⟩
  match d.find source with
  | .error c => .error (failure c)
  | .ok entry =>
    match d.locate source, d.locate target with
    | .ok old, .ok new =>
      match d.root.get? new.names with
      | some (.directory _) => .error (failure .exists)
      | some (.file _) =>
        if entry.isDirectory then .error (failure .notDirectory)
        else .ok { d with root := (d.root.set none old.names).set (some entry) new.names }
      | none =>
        if new.wantsDirectory && !entry.isDirectory then .error (failure .notDirectory)
        else if old.names.isPrefixOf new.names then .error (failure .invalid)
        else .ok { d with root := (d.root.set none old.names).set (some entry) new.names }
    | .error c, _ => .error (failure c)
    | _, .error c => .error (failure c)

end Disk

end NovelScript.Files
