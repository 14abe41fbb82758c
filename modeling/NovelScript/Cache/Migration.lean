import NovelScript.Cache.Fault
import NovelScript.Text.Case

/-!
# Migrations of a server

The tables on a server are brought up to date by files of statements. The name of a file starts with
its version, and the files are taken in the order of their names.
-/

namespace NovelScript.Cache

/-- A file of statements. -/
structure Migration where
  /-- The name of the file. -/
  name : Text
  /-- The statements. -/
  body : Text
deriving DecidableEq

/-- Why the name of a file has no version. -/
inductive NameProblem where
  /-- There is no underscore after the version. -/
  | noVersion (name : Text)
  /-- What stands in front of the underscore is no number. -/
  | badVersion (name head : Text) (error : Text.NumberError)
deriving DecidableEq

/-- What is said about a name without a version. -/
def NameProblem.message : NameProblem → Text
  | .noVersion name =>
    Text.lit "migration " ++ Text.quoted name ++ Text.lit ": missing version prefix"
  | .badVersion name head error =>
    Text.lit "migration " ++ Text.quoted name ++ Text.lit ": " ++
      error.message "strconv.ParseInt" head

/-- The version that the name of a file starts with. -/
def versionOf (name : Text) : Except NameProblem Int :=
  match Text.cut (Text.lit "_") name with
  | none => .error (.noVersion name)
  | some (head, _) =>
    match Text.int64? head with
    | .ok v => .ok v
    | .error e => .error (.badVersion name head e)

/-- The files of statements in a directory, in the order of their names. -/
def inOrder (entries : List Migration) : List Migration :=
  (entries.filter fun m => Text.endsWith (Text.lit ".sql") (Text.lower m.name)).mergeSort
    fun m n => Text.le m.name n.name

/-- The files of the program. -/
def migrations : List Migration :=
  [⟨Text.lit "0001_builds.sql",
      Text.join [Text.newline]
        [Text.lit "-- dialect=PostgreSQL",
          Text.lit "CREATE TABLE IF NOT EXISTS builds (",
          Text.lit "    source_path  TEXT PRIMARY KEY,",
          Text.lit "    source_hash  TEXT NOT NULL,",
          Text.lit "    options_hash TEXT NOT NULL,",
          Text.lit "    output       TEXT NOT NULL,",
          Text.lit "    built_at     BIGINT NOT NULL",
          Text.lit ");", []]⟩,
    ⟨Text.lit "0002_run_id.sql",
      Text.join [Text.newline]
        [Text.lit "-- dialect=PostgreSQL",
          Text.lit "ALTER TABLE builds ADD COLUMN IF NOT EXISTS run_id TEXT NOT NULL DEFAULT '';",
          Text.lit "CREATE INDEX IF NOT EXISTS idx_builds_built_at ON builds(built_at);", []]⟩]

end NovelScript.Cache
