import NovelScript.Text.Case
import NovelScript.Text.Decimal
import NovelScript.Text.Space

/-!
# Levels

How much a record matters, as an integer: the four levels with names have numbers four apart, and
the numbers between them are written as a distance from the level below.
-/

namespace NovelScript.Log

/-- A level. -/
abbrev Level := Int

namespace Level

/-- For finding faults. -/
def debug : Level := -4

/-- What happens in the normal course. -/
def info : Level := 0

/-- What may be wrong. -/
def warn : Level := 4

/-- What is wrong. -/
def error : Level := 8

/-- The level that a text names; information when it names none. -/
def ofText (s : Text) : Level :=
  let s := Text.lower (Text.trim s)
  if s = Text.lit "debug" then debug
  else if s = Text.lit "warn" ∨ s = Text.lit "warning" then warn
  else if s = Text.lit "error" then error
  else info

/-- A name and the signed distance from it. -/
def distance (name : String) (d : Int) : Text :=
  Text.lit name ++
    if d = 0 then [] else if 0 < d then Text.lit "+" ++ Text.ofInt d else Text.ofInt d

/-- The name of a level, or of the level below it with the distance. -/
def name (l : Level) : Text :=
  if l < info then distance "DEBUG" (l - debug)
  else if l < warn then distance "INFO" (l - info)
  else if l < error then distance "WARN" (l - warn)
  else distance "ERROR" (l - error)

/-- The short name for the console; a level between two names has no short one. -/
def short (l : Level) : Text :=
  if l = debug then Text.lit "DBG"
  else if l = info then Text.lit "INF"
  else if l = warn then Text.lit "WRN"
  else if l = error then Text.lit "ERR"
  else name l

end Level

end NovelScript.Log
