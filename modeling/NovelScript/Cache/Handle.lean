import NovelScript.Cache.Location
import NovelScript.Content
import NovelScript.Files.Disk

/-!
# Open caches

A cache in a file of a disk, once it is opened. The file is made if it is not there, and its tables
are brought up to date. Every task reads the file and, when it changes something, writes it again.
-/

namespace NovelScript.Cache

open Files (Disk DiskError)

/-- Why a cache cannot be opened. -/
inductive OpenError where
  /-- The directory of the file cannot be made. -/
  | directory (e : DiskError)
  /-- The file cannot be opened as a cache. -/
  | file (f : OpenFailure)
  /-- The server cannot be reached. -/
  | server (f : Fault)
deriving DecidableEq

/-- What is said when a cache cannot be opened. -/
def OpenError.message : OpenError → Text
  | .directory e => Text.lit "create cache dir: " ++ e.message
  | .file f => f.message
  | .server f => Text.lit "ping postgres: " ++ f.message

/-- The refusal of the database, if there was one. -/
def OpenError.fault? : OpenError → Option Fault
  | .directory _ => none
  | .file f => some f.fault
  | .server f => some f

/-- An open cache. -/
structure Handle where
  /-- The file. -/
  path : Text
  /-- Was it closed again? -/
  closed : Bool := false
deriving DecidableEq

/-- The database in a file, which may be missing. -/
def databaseAt (d : Disk Content) (path : Text) : Except Fault Database :=
  match d.find path with
  | .ok (.file c) => (c.asDatabase?).elim (.error .notDatabase) .ok
  | .ok (.directory _) => .error .unopened
  | .error .notFound => .ok {}
  | .error _ => .error .unopened

/-- Writes the database into its file. -/
def putDatabase (path : Text) (db : Database) (d : Disk Content) : Disk Content :=
  (d.write path (.database db)).toOption.getD d

/-- Opens the cache in a file. What the steps to a newer form have done stays, even when a later
step fails. -/
def openFile (cancelled : Bool) (path : Text) : Disk.Work Content OpenError Handle := do
  Disk.change .directory (·.makeAll (Files.directory path))
  if cancelled then throw (.file (.file .cancelled))
  match databaseAt (← get) path with
  | .error f => throw (.file (.file f))
  | .ok db =>
    let (db, result) := db.prepare
    modify (putDatabase path db)
    match result with
    | .error f => throw (.file f)
    | .ok _ => return { path }

/-- Opens the cache that a text names. No server can be reached from here. -/
def openNamed (cancelled : Bool) (name : Text) : Disk.Work Content OpenError Handle :=
  match Location.ofText name with
  | .file path => openFile cancelled path
  | .server _ =>
    throw (.server (if cancelled then .cancelled else .said (Text.lit "no connection")))

namespace Handle

/-- The database behind an open cache. -/
def database (h : Handle) (cancelled : Bool) (d : Disk Content) : Except Fault Database :=
  if h.closed then .error .closed
  else if cancelled then .error .cancelled
  else databaseAt d h.path

/-- A task that only asks. -/
def ask {β : Type} (h : Handle) (cancelled : Bool) (f : Database → Except Fault β)
    (d : Disk Content) : Except Fault β := do
  f (← h.database cancelled d)

/-- Finds the script of a document. -/
def lookup (h : Handle) (cancelled : Bool) (path source options : Text) (d : Disk Content) :
    Except Failure (Option Text) :=
  (h.ask cancelled (·.lookup path source options) d).mapError (.during .lookup)

/-- Counts what is there. -/
def stats (h : Handle) (cancelled : Bool) (d : Disk Content) : Except Failure Stats :=
  (h.ask cancelled (·.stats) d).mapError (.during .stats)

/-- Puts an entry into the table, in place of the one of its document. -/
def store (h : Handle) (cancelled : Bool) (e : Entry) (d : Disk Content) :
    Except Failure (Disk Content) :=
  if Text.isBlank e.path then .error .noPath
  else
    match h.ask cancelled (·.store e) d with
    | .ok db => .ok (putDatabase h.path db d)
    | .error f => .error (.during .store f)

/-- Keeps what is offered at the time `now`. -/
def keep (h : Handle) (cancelled : Bool) (now : Int) (o : Offer) (d : Disk Content) :
    Except Failure (Disk Content) :=
  h.store cancelled (o.entry now) d

/-- Forgets entries that were built before `cutoff`, and says how many. -/
def prune (h : Handle) (cancelled : Bool) (cutoff : Int) (d : Disk Content) :
    Except Failure (Disk Content × Nat) :=
  match h.ask cancelled (·.prune cutoff) d with
  | .ok (db, n) => .ok (putDatabase h.path db d, n)
  | .error f => .error (.during .prune f)

end Handle

end NovelScript.Cache
