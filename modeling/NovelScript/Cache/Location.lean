import NovelScript.Files.Path
import NovelScript.Url.Basic

/-!
# Where a cache is

A cache is named by a text: the address of a shared database server, the file of a database, or a
directory whose state directory holds the file. The address of a server is shown without its
password.
-/

namespace NovelScript.Cache

/-- The file of the cache in a state directory. -/
def cacheFile : Text := Text.lit "cache.sqlite"

/-- The file of the cache that belongs to a directory. -/
def fileOf (root : Text) : Text :=
  Files.join (Files.join root Files.stateName) cacheFile

/-- Where a cache is. -/
inductive Location where
  /-- On a server with this address. -/
  | server (address : Text)
  /-- In this file. -/
  | file (path : Text)
deriving DecidableEq

/-- The place that a text names. -/
def Location.ofText (s : Text) : Location :=
  let s := Text.trim s
  if Text.startsWith (Text.lit "postgres://") s || Text.startsWith (Text.lit "postgresql://") s then
    .server s
  else if Text.endsWith (Text.lit ".sqlite") s || Text.endsWith (Text.lit ".db") s then .file s
  else .file (fileOf (if s.isEmpty then Files.dot else s))

/-- The address of a server as it may be shown. -/
def shownAddress (address : Text) : Text :=
  match Url.ofText? address with
  | some u => u.redact.toText
  | none => Text.lit "postgres://"

/-- The place as it may be shown. -/
def Location.shown : Location → Text
  | .server address => shownAddress address
  | .file path => path

end NovelScript.Cache
