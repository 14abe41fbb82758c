import NovelScript.Config.Basic
import NovelScript.Log.Record
import NovelScript.Text.Folding

/-!
# Loggers

A logger writes to one or two sinks: the console in the form that is wanted, and perhaps a file of
objects. A record below the least level is not written. With one sink that is decided before the
record is made, with several sinks by each of them again.
-/

namespace NovelScript

namespace LogSettings

/-- The value of a variable, or what it stands for when it is empty. -/
def valueOr (env : Environment) (name : String) (usual : String) : Text :=
  let v := env.value (Text.lit name)
  if v.isEmpty then Text.lit usual else v

/-- The settings of the log that the environment gives. -/
def ofEnvironment (env : Environment) : LogSettings where
  level := valueOr env "MDRPY_LOG_LEVEL" "info"
  format := valueOr env "MDRPY_LOG_FORMAT" "console"
  source := Text.eqIgnoringCase (valueOr env "MDRPY_LOG_SOURCE" "false") (Text.lit "true")
  file := env.value (Text.lit "MDRPY_LOG_FILE")

end LogSettings

namespace Log

/-- The forms of a line. -/
inductive Format where
  /-- For people. -/
  | console
  /-- For programs. -/
  | json
deriving DecidableEq, Repr

/-- The form that a text names, in any case. -/
def Format.ofText (s : Text) : Format :=
  if (Text.decode (Text.trim s)).flatMap Text.foldChar = "json".toList then .json else .console

/-- Where lines go and which. -/
structure Sink where
  /-- The form of the lines. -/
  format : Format
  /-- The least level. -/
  floor : Level
  /-- Does a line name its place in the program? -/
  source : Bool

/-- When something happened, as the two forms write it. -/
structure Clock where
  /-- To the second, for people. -/
  second : Text
  /-- As exactly as it is known, for programs. -/
  exact : Text

/-- The line that a sink writes for a record, with the time in front if it is known. -/
def Sink.line (s : Sink) (time : Option Clock) (chain : Chain) (r : Record) : Text :=
  let r := if s.source then r else { r with place := none }
  match s.format with
  | .console => (time.elim [] fun t => t.second ++ [Text.blank]) ++ consoleLine chain r
  | .json => jsonLine (time.map (·.exact)) chain r

/-- A logger: its sinks and what it carries. -/
structure Logger where
  /-- The sinks, the console first. -/
  sinks : List Sink
  /-- What was added to it. -/
  chain : Chain := []

namespace Logger

/-- A logger of some attributes more. -/
def add (l : Logger) (as : List Attribute) : Logger :=
  { l with chain := l.chain ++ [.attributes as] }

/-- A logger with a group for what follows. -/
def openGroup (l : Logger) (name : Text) : Logger :=
  { l with chain := l.chain ++ [.group name] }

/-- The logger of the program under some settings. -/
def ofSettings (version : Text) (s : LogSettings) : Logger :=
  let floor := Level.ofText s.level
  let console : Sink := ⟨Format.ofText s.format, floor, s.source⟩
  let file : List Sink := if Text.isBlank s.file then [] else [⟨.json, floor, s.source⟩]
  Logger.add { sinks := console :: file }
    [(Text.lit "app", .text (Text.lit "mdrpy")), (Text.lit "ver", .text version)]

/-- The logger of a part of the program. -/
def component (l : Logger) (name : Text) : Logger :=
  l.add [(Text.lit "component", .text name)]

/-- The logger of an activity. -/
def operation (l : Logger) (name : Text) : Logger :=
  l.add [(Text.lit "op", .text name)]

/-- Does any sink want records of the level? -/
def wants (l : Logger) (level : Level) : Bool :=
  l.sinks.any fun s => s.floor ≤ level

/-- The line for each sink that writes one when the record is handed to all of them. -/
def hand (l : Logger) (time : Option Clock) (r : Record) : List (Option Text) :=
  l.sinks.map fun s =>
    if l.sinks.length ≤ 1 ∨ s.floor ≤ r.level then some (s.line time l.chain r) else none

/-- The line for each sink that writes one. -/
def write (l : Logger) (time : Option Clock) (r : Record) : List (Option Text) :=
  if l.wants r.level then l.hand time r else l.sinks.map fun _ => none

end Logger

end Log

end NovelScript
