import NovelScript.Text.Decimal

/-!
# What goes wrong with a database

The causes that a database or the way to it can have for refusing, and the failures of the cache
that are made of them.
-/

namespace NovelScript.Cache

/-- Why a database refuses. -/
inductive Fault where
  /-- It was closed before. -/
  | closed
  /-- The work was called off. -/
  | cancelled
  /-- The file cannot be opened. -/
  | unopened
  /-- The file holds something else. -/
  | notDatabase
  /-- There is no table of builds. -/
  | noTable
  /-- The table has no column for runs, and a row with one is put in. -/
  | noColumn
  /-- The table has no column for runs, and it is asked for. -/
  | unknownColumn
  /-- The table has a column for runs already. -/
  | columnExists
  /-- There is no such row. -/
  | noRow
  /-- A column should hold an integer and holds a text. -/
  | notInteger (column : String) (value : Text) (integer : String)
  /-- What a server said. -/
  | said (message : Text)
deriving DecidableEq

/-- What is said about a refusal. -/
def Fault.message : Fault → Text
  | .closed => Text.lit "sql: database is closed"
  | .cancelled => Text.lit "context canceled"
  | .unopened => Text.lit "unable to open database file: out of memory (14)"
  | .notDatabase => Text.lit "file is not a database (26)"
  | .noTable => Text.lit "SQL logic error: no such table: builds (1)"
  | .noColumn => Text.lit "SQL logic error: table builds has no column named run_id (1)"
  | .unknownColumn => Text.lit "SQL logic error: no such column: run_id (1)"
  | .columnExists => Text.lit "SQL logic error: duplicate column name: run_id (1)"
  | .noRow => Text.lit "sql: no rows in result set"
  | .notInteger column value integer =>
    Text.lit "sql: Scan error on column index 0, name " ++ Text.quoted (Text.lit column) ++
      Text.lit ": converting driver.Value type string (" ++ Text.quoted value ++
      Text.lit ") to a " ++ Text.lit integer ++ Text.lit ": invalid syntax"
  | .said m => m

/-- The things a cache is asked to do. -/
inductive Task where
  /-- Find an entry. -/
  | lookup
  /-- Keep an entry. -/
  | store
  /-- Forget old entries. -/
  | prune
  /-- Count what is there. -/
  | stats
deriving DecidableEq, Repr

/-- The name of a task. -/
def Task.name : Task → String
  | .lookup => "lookup"
  | .store => "store"
  | .prune => "prune"
  | .stats => "stats"

/-- Why a cache fails. -/
inductive Failure where
  /-- An entry names no document. -/
  | noPath
  /-- The database refused during a task. -/
  | during (task : Task) (fault : Fault)
  /-- The database did not say how many entries it has forgotten. -/
  | uncounted (fault : Fault)
deriving DecidableEq

/-- What is said about a failure. -/
def Failure.message : Failure → Text
  | .noPath => Text.lit "cache entry without source path"
  | .during task fault =>
    Text.lit "cache " ++ Text.lit task.name ++ Text.lit ": " ++ fault.message
  | .uncounted fault => fault.message

/-- The refusal behind a failure, if there is one. -/
def Failure.fault? : Failure → Option Fault
  | .noPath => none
  | .during _ fault => some fault
  | .uncounted fault => some fault

end NovelScript.Cache
