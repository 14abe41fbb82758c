import NovelScript.Cache.Handle
import NovelScript.Log.Logger

/-!
# The log of a cache

What the log tells about opening a cache and about forgetting entries.
-/

namespace NovelScript.Cache

open Log (Record Logger Attribute)

/-- The name of the part of the program that keeps things. -/
def component : Text := Text.lit "storage"

/-- The logger for opening the cache at a place. -/
def Location.logger (l : Logger) (place : Location) : Logger :=
  ((l.component component).operation (Text.lit "cache_open")).add
    [match place with
    | .server _ => (Text.lit "dsn", .text place.shown)
    | .file path => (Text.lit "path", .text path)]

/-- The record of an opened cache. -/
def readyRecord : Record :=
  { level := .debug, message := Text.lit "cache ready", place := some component }

/-- What is said about a cache that cannot be opened, and about the fault behind it. -/
def OpenError.account : OpenError → String × Text
  | .directory e => ("create cache dir failed", e.message)
  | .file (.file f) => ("enable WAL failed", f.message)
  | .file (.schema f) => ("ensure meta/version failed", (OpenFailure.schema f).message)
  | .file (.step n part f) => ("run migrations failed", (OpenFailure.step n part f).message)
  | .server f => ("postgres ping failed", f.message)

/-- The record of a cache that cannot be opened. -/
def OpenError.record (e : OpenError) : Record :=
  { level := .error, message := Text.lit e.account.1
    attributes := [(Text.lit "err", .fault e.account.2)], place := some component }

/-- The logger for forgetting entries. -/
def pruneLogger (l : Logger) : Logger :=
  (l.component component).operation (Text.lit "cache_prune")

/-- The record of entries that were forgotten. -/
def pruneRecord (removed : Nat) (location : Text) : Record :=
  { level := .info, message := Text.lit "cache pruned"
    attributes := [(Text.lit "removed", .int removed), (Text.lit "location", .text location)]
    place := some component }

end NovelScript.Cache
