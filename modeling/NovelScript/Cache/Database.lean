import NovelScript.Cache.Fault
import NovelScript.Cache.Table

/-!
# The cache in a file

A file holds the table of builds and a schema number that says which form the table has. Older
forms are brought up to date step by step when the file is opened. A step is a list of statements in
a transaction with the record of its number, so it happens as a whole or not at all, whatever part
of it meets trouble. A newer form is left as it is.
-/

namespace NovelScript.Cache

/-- What is kept about the form of the tables. -/
inductive Schema where
  /-- The number of the form. -/
  | number (n : Int)
  /-- Something that is no number. -/
  | text (t : Text)
deriving DecidableEq

/-- The table of builds with its form. -/
structure Builds where
  /-- The entries. -/
  table : Table := []
  /-- Is there a column for runs? -/
  hasRuns : Bool := false
deriving DecidableEq

/-- What a file holds. -/
structure Database where
  /-- The form of the tables, if it is known. -/
  schema : Option Schema := none
  /-- The table of builds, if there is one. -/
  builds : Option Builds := none
deriving DecidableEq

/-- The form of the tables that the program works with. -/
def currentSchema : Int := 2

/-- A part of a step to a newer form. -/
inductive Part where
  /-- Its transaction is started. -/
  | begin
  /-- The statement with this index is done. -/
  | statement (index : Nat)
  /-- The number of the step is recorded. -/
  | record
  /-- Its transaction is finished. -/
  | commit
deriving DecidableEq

/-- Why a file cannot be opened as a cache. -/
inductive OpenFailure where
  /-- The file itself refuses. -/
  | file (fault : Fault)
  /-- The schema number cannot be read. -/
  | schema (fault : Fault)
  /-- A part of a step to a newer form fails. -/
  | step (number : Int) (part : Part) (fault : Fault)
deriving DecidableEq

/-- The refusal behind it. -/
def OpenFailure.fault : OpenFailure → Fault
  | .file f => f
  | .schema f => f
  | .step _ _ f => f

/-- What is said about a step when a part of it fails. -/
def Part.message (number : Int) : Part → Text
  | .begin => Text.lit "begin migration " ++ Text.ofInt number ++ Text.lit ": "
  | .statement _ => Text.lit "migration " ++ Text.ofInt number ++ Text.lit " stmt failed: "
  | .record => Text.lit "migration " ++ Text.ofInt number ++ Text.lit " update version: "
  | .commit => Text.lit "migration " ++ Text.ofInt number ++ Text.lit " commit: "

/-- What is said when a file cannot be opened as a cache. -/
def OpenFailure.message : OpenFailure → Text
  | .file f => Text.lit "enable WAL: " ++ f.message
  | .schema f => Text.lit "read version: " ++ f.message
  | .step n part f => part.message n ++ f.message

/-- What the file itself refuses, by the number of a step and the part of it; what is wrong with the
tables is not meant. -/
abbrev Trouble := Int → Part → Option Fault

/-- No trouble at all. -/
def Trouble.none : Trouble := fun _ _ => Option.none

namespace Database

/-- A statement on the tables. -/
abbrev Statement := Database → Except Fault Database

/-- Makes the table of builds, unless it is there. -/
def makeTable : Statement := fun d =>
  .ok { d with builds := some (d.builds.getD {}) }

/-- Adds the column for runs; entries that were there have an empty one. -/
def addRuns : Statement := fun d =>
  match d.builds with
  | none => .error .noTable
  | some b =>
    if b.hasRuns then .error .columnExists
    else .ok { d with builds := some { b with hasRuns := true } }

/-- Makes the index of building times, unless it is there. No answer depends on it, so nothing of it
is kept here. -/
def makeIndex : Statement := fun d =>
  match d.builds with
  | none => .error .noTable
  | some _ => .ok d

/-- The steps; the `n`-th one leads from the form `n` to the next. -/
def steps : List (List Statement) :=
  [[makeTable], [addRuns, makeIndex]]

/-- A part of a step, which fails when there is trouble or by itself. -/
def attempt (trouble : Trouble) (number : Int) (part : Part) (q : Statement) (d : Database) :
    Except OpenFailure Database :=
  match trouble number part with
  | some f => .error (.step number part f)
  | none => (q d).mapError (.step number part)

/-- The statements of a step, from the one with index `i` on. -/
def attemptAll (trouble : Trouble) (number : Int) (i : Nat) :
    List Statement → Database → Except OpenFailure Database
  | [], d => .ok d
  | q :: more, d => do
    attemptAll trouble number (i + 1) more (← attempt trouble number (.statement i) q d)

/-- The tables and the number as a step leaves them at the end of its transaction. -/
def transact (trouble : Trouble) (number : Int) (step : List Statement) (d : Database) :
    Except OpenFailure Database := do
  let d ← attempt trouble number .begin .ok d
  let d ← attemptAll trouble number 0 step d
  let d ← attempt trouble number .record (fun d => .ok { d with schema := some (.number number) }) d
  attempt trouble number .commit .ok d

/-- Does the steps one after the other, from the form `n` on. What a step has done is kept at the end
of its transaction only; nothing is left of a step that fails. -/
def climb (trouble : Trouble) (n : Int) :
    List (List Statement) → Database → Database × Except OpenFailure Unit
  | [], d => (d, .ok ())
  | step :: more, d =>
    match transact trouble (n + 1) step d with
    | .error e => (d, .error e)
    | .ok d => climb trouble (n + 1) more d

/-- Brings the tables of the form `n` up to date. -/
def upgrade (trouble : Trouble) (n : Int) (d : Database) : Database × Except OpenFailure Unit :=
  climb trouble n (steps.drop n.toNat) d

/-- Opens the cache: finds the form of the tables and brings them up to date. -/
def prepare (d : Database) : Database × Except OpenFailure Unit :=
  match d.schema with
  | none => upgrade .none 0 { d with schema := some (.number 0) }
  | some (.text t) => (d, .error (.schema (.notInteger "schema" t "int")))
  | some (.number n) => upgrade .none n d

/-- The script of a document. -/
def lookup (d : Database) (path source options : Text) : Except Fault (Option Text) :=
  match d.builds with
  | none => .error .noTable
  | some b => .ok (b.table.lookup path source options)

/-- Keeps an entry. -/
def store (d : Database) (e : Entry) : Except Fault Database :=
  match d.builds with
  | none => .error .noTable
  | some b =>
    if b.hasRuns then .ok { d with builds := some { b with table := b.table.store e } }
    else .error .noColumn

/-- Forgets entries, and says how many. -/
def prune (d : Database) (cutoff : Int) : Except Fault (Database × Nat) :=
  match d.builds with
  | none => .error .noTable
  | some b =>
    let table := b.table.prune cutoff
    .ok ({ d with builds := some { b with table } }, b.table.length - table.length)

/-- Counts what is there. -/
def stats (d : Database) : Except Fault Stats :=
  match d.builds with
  | none => .error .noTable
  | some b => .ok b.table.stats

/-- The run that built the entry of a document. -/
def run (d : Database) (path : Text) : Except Fault Text :=
  match d.builds with
  | none => .error .noTable
  | some b =>
    if !b.hasRuns then .error .unknownColumn
    else
      match b.table.find? (·.path == path) with
      | some e => .ok e.run
      | none => .error .noRow

end Database

end NovelScript.Cache
