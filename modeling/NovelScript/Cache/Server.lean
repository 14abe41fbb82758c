import NovelScript.Cache.Location
import NovelScript.Cache.Migration
import NovelScript.Cache.Statement
import NovelScript.Cache.Table

/-!
# The cache on a server

A server is known only by how it answers calls. The cache asks for the same things as a file gives,
by statements, and brings the tables of the server up to date by migrations, each in a transaction
of its own: the statements of a file and the record of its version are kept together or not at all.
-/

namespace NovelScript.Cache

/-- What a server is asked. -/
inductive Call where
  /-- To do a statement, with values for its places. -/
  | exec (statement : Text) (values : List Text)
  /-- To answer a statement with rows. -/
  | query (statement : Text) (values : List Text)
  /-- To start a transaction. -/
  | begin
  /-- To keep what was done in the transaction. -/
  | commit
  /-- To undo what was done in the transaction. -/
  | rollback
deriving DecidableEq

/-- A value in a row. -/
inductive Cell where
  /-- Nothing. -/
  | null
  /-- An integer. -/
  | int (n : Int)
  /-- A text. -/
  | text (s : Text)
deriving DecidableEq

/-- What a server answers. -/
structure Answer where
  /-- The rows, as far as they came. -/
  rows : List (List Cell) := []
  /-- What cut the rows short. -/
  broken : Option Fault := none
  /-- How many rows the statement changed, if the server knows. -/
  affected : Except Fault Int := .ok 0

/-- A server: what it does on a call. -/
structure Server (σ : Type) where
  /-- The answer to a call, and what the server is like afterwards. -/
  call : Call → σ → Except Fault Answer × σ

/-- Work with a server that may fail. -/
abbrev Work (σ ε α : Type) := EStateM ε σ α

namespace Server

variable {σ ε : Type}

/-- One call; `wrap` says what a refusal means here. -/
def ask (s : Server σ) (wrap : Fault → ε) (c : Call) : Work σ ε Answer := fun st =>
  match s.call c st with
  | (.ok a, st) => .ok a st
  | (.error f, st) => .error (wrap f) st

/-- A server that is reached no more: every call is refused for one cause. -/
def refusing (f : Fault) : Server σ :=
  ⟨fun _ st => (.error f, st)⟩

/-! ## Entries -/

/-- The statement that asks for the script of a document. -/
def lookupStatement : Text :=
  Backend.server.statement (Text.lit
    "SELECT output FROM builds WHERE source_path = ? AND source_hash = ? AND options_hash = ?")

/-- Finds the script of a document. -/
def lookup (s : Server σ) (path source options : Text) : Work σ Failure (Option Text) := do
  let a ← s.ask (.during .lookup) (.query lookupStatement [path, source, options])
  match a.rows, a.broken with
  | [.text output] :: _, _ => return some output
  | [], some f => throw (.during .lookup f)
  | _, _ => return none

/-- The statement that keeps an entry in place of the one of the same document. -/
def storeStatement : Text :=
  Backend.server.statement (Text.join (Text.lit "\n\t\t")
    [[],
      Text.lit
        "INSERT INTO builds (source_path, source_hash, options_hash, output, run_id, built_at)",
      Text.lit "VALUES (?, ?, ?, ?, ?, ?)",
      Text.lit "ON CONFLICT (source_path) DO UPDATE SET",
      Text.lit "\tsource_hash = excluded.source_hash,",
      Text.lit "\toptions_hash = excluded.options_hash,",
      Text.lit "\toutput = excluded.output,",
      Text.lit "\trun_id = excluded.run_id,",
      Text.lit "\tbuilt_at = excluded.built_at"])

/-- The columns of an entry, in the order of the statement. -/
def columns (e : Entry) : List Text :=
  [e.path, e.source, e.options, e.output, e.run, Text.ofInt e.builtAt]

/-- Puts an entry into the table, in place of the one of its document. -/
def store (s : Server σ) (e : Entry) : Work σ Failure Unit := do
  if Text.isBlank e.path then throw .noPath
  let _ ← s.ask (.during .store) (.exec storeStatement (columns e))

/-- Keeps what is offered at the time `now`. -/
def keep (s : Server σ) (now : Int) (o : Offer) : Work σ Failure Unit :=
  s.store (o.entry now)

/-- The statement that forgets entries. -/
def pruneStatement : Text :=
  Backend.server.statement (Text.lit "DELETE FROM builds WHERE built_at < ?")

/-- Forgets entries that were built before `cutoff`, and says how many. -/
def prune (s : Server σ) (cutoff : Int) : Work σ Failure Int := do
  let a ← s.ask (.during .prune) (.exec pruneStatement [Text.ofInt cutoff])
  match a.affected with
  | .ok n => return n
  | .error f => throw (.uncounted f)

/-- The integer in a cell, if it holds one. -/
def Cell.int? : Cell → Option Int
  | .int n => some n
  | _ => none

/-- The statement that asks how much there is. -/
def statsStatement : Text :=
  Text.lit
    "SELECT COUNT(*), COALESCE(SUM(LENGTH(output)), 0), MIN(built_at), MAX(built_at) FROM builds"

/-- Counts what is there. -/
def stats (s : Server σ) : Work σ Failure Stats := do
  let a ← s.ask (.during .stats) (.query statsStatement [])
  match a.rows, a.broken with
  | [entries, size, oldest, newest] :: _, _ =>
    return ⟨(Cell.int? entries).getD 0, (Cell.int? size).getD 0, Cell.int? oldest, Cell.int? newest⟩
  | [], some f => throw (.during .stats f)
  | _, _ => throw (.during .stats .noRow)

/-! ## Migrations -/

/-- Why the tables cannot be brought up to date. -/
inductive MigrateFailure where
  /-- There is no place for the record of versions. -/
  | noRecord (fault : Fault)
  /-- The record cannot be asked for. -/
  | unasked (fault : Fault)
  /-- The record cannot be read. -/
  | unread (fault : Fault)
  /-- A file has no version. -/
  | name (problem : NameProblem)
  /-- No transaction can be started. -/
  | unstarted (fault : Fault)
  /-- The statements of a file fail. -/
  | body (file : Text) (fault : Fault)
  /-- The version of a file cannot be recorded. -/
  | record (file : Text) (fault : Fault)
  /-- A transaction cannot be finished. -/
  | commit (file : Text) (fault : Fault)
deriving DecidableEq

/-- The refusal behind a failure, if there is one. -/
def MigrateFailure.fault? : MigrateFailure → Option Fault
  | .name _ => none
  | .noRecord f | .unasked f | .unread f | .unstarted f => some f
  | .body _ f | .record _ f | .commit _ f => some f

/-- What is said when the tables cannot be brought up to date. -/
def MigrateFailure.message : MigrateFailure → Text
  | .noRecord f => Text.lit "ensure schema_migrations: " ++ f.message
  | .unasked f => Text.lit "select schema_migrations: " ++ f.message
  | .unread f => f.message
  | .name p => p.message
  | .unstarted f => f.message
  | .body file f => Text.lit "apply " ++ file ++ Text.lit ": " ++ f.message
  | .record file f => Text.lit "record " ++ file ++ Text.lit ": " ++ f.message
  | .commit file f => Text.lit "commit " ++ file ++ Text.lit ": " ++ f.message

/-- The version in a row of the record. -/
def rowVersion : List Cell → Except Fault Int
  | .int n :: _ => .ok n
  | .text t :: _ =>
    match Text.int64? t with
    | .ok n => .ok n
    | .error _ => .error (.notInteger "version" t "int64")
  | _ => .error .noRow

/-- The statement that makes a place for the record of versions. -/
def ensureStatement : Text :=
  Text.join (Text.lit "\n\t")
    [Text.lit "CREATE TABLE IF NOT EXISTS schema_migrations (",
      Text.lit "\tversion BIGINT PRIMARY KEY,",
      Text.lit "\tname TEXT NOT NULL,",
      Text.lit "\tapplied_at TIMESTAMPTZ NOT NULL DEFAULT now()",
      Text.lit ")"]

/-- The statement that asks for the record of versions. -/
def versionsStatement : Text :=
  Text.lit "SELECT version FROM schema_migrations"

/-- The versions that the record has. -/
def recordedVersions (s : Server σ) : Work σ MigrateFailure (List Int) := do
  let _ ← s.ask .noRecord (.exec ensureStatement [])
  let a ← s.ask .unasked (.query versionsStatement [])
  match a.rows.mapM rowVersion with
  | .error f => throw (.unread f)
  | .ok versions =>
    match a.broken with
    | some f => throw (.unread f)
    | none => return versions

/-- One call inside a transaction, which is undone when the call is refused. -/
def askWithin (s : Server σ) (wrap : Fault → MigrateFailure) (c : Call) :
    Work σ MigrateFailure Unit := fun st =>
  match s.call c st with
  | (.ok _, st) => .ok () st
  | (.error f, st) => .error (wrap f) (s.call .rollback st).2

/-- The statement that records a version. -/
def recordStatement : Text :=
  Text.lit "INSERT INTO schema_migrations (version, name) VALUES ($1, $2)"

/-- Does the statements of one file and records its version, both or none. -/
def migrateFile (s : Server σ) (version : Int) (m : Migration) : Work σ MigrateFailure Unit := do
  let _ ← s.ask .unstarted .begin
  s.askWithin (.body m.name) (.exec m.body [])
  s.askWithin (.record m.name) (.exec recordStatement [Text.ofInt version, m.name])
  let _ ← s.ask (.commit m.name) .commit

/-- Does the files whose versions are not recorded yet, in order. -/
def migrateFrom (s : Server σ) (recorded : List Int) :
    List Migration → Work σ MigrateFailure Unit
  | [] => pure ()
  | m :: more => do
    match versionOf m.name with
    | .error p => throw (.name p)
    | .ok v =>
      if !recorded.contains v then s.migrateFile v m
      s.migrateFrom recorded more

/-- Brings the tables of a server up to date with the files of a directory. -/
def migrate (s : Server σ) (entries : List Migration) : Work σ MigrateFailure Unit := do
  s.migrateFrom (← s.recordedVersions) (inOrder entries)

end Server

end NovelScript.Cache
