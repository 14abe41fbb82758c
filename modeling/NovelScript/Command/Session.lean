import NovelScript.Build.Journal
import NovelScript.Build.Watch
import NovelScript.Command.Request
import NovelScript.Command.Usage
import NovelScript.Config.Load
import NovelScript.Config.Save

/-!
# Sessions

A session is one run of the program as a change of a world: the disk, and everything that was said
on the way. What the program cannot know by itself is part of the world from the start: the time,
the environment, where the user keeps settings. A session may fail with a problem; what was done and
said before that stays.
-/

namespace NovelScript.Command

open Files (Disk DiskError)
open Log (Record Logger Attribute)

/-- Where something is said. -/
inductive Channel where
  /-- To the reader of the results. -/
  | out
  /-- To the user, about what goes wrong. -/
  | err
  /-- To the console of the log. -/
  | log
deriving DecidableEq, Repr

/-- The present, which stands still during a session. -/
structure Present where
  /-- The time for builds and for writes. -/
  instant : Build.Instant
  /-- The time for the log, if it is to be told. -/
  clock : Option Log.Clock := none
  /-- The time of day for the user. -/
  timeOfDay : Text := []

/-- The world of a session. -/
structure World where
  /-- The disk. -/
  disk : Disk Content
  /-- The environment. -/
  environment : Environment := []
  /-- The file with the settings of the user, if it is known where that is. -/
  userConfig : Option Text := none
  /-- The directory for files that nobody keeps. -/
  temporary : Text := Text.lit "/tmp"
  /-- The version that the program carries. -/
  version : Text := developmentVersion
  /-- The name of this run. -/
  run : Text := []
  /-- The present. -/
  present : Present
  /-- The settings of the log in force. -/
  log : LogSettings := {}
  /-- What was said, in order. -/
  said : List (Channel × Text) := []

/-- What goes wrong in a session. -/
inductive Problem where
  /-- The command line makes no sense. -/
  | usage (e : UsageError)
  /-- The disk refuses. -/
  | disk (e : DiskError)
  /-- The settings cannot be loaded. -/
  | settings (e : Config.LoadError)
  /-- The settings are not saved. -/
  | unsaved (e : Config.SaveError)
  /-- A document has no script. -/
  | malformed (path : Text) (e : Script.PassError)
  /-- A build fails. -/
  | build (e : Build.Failure)
  /-- A script cannot be printed. -/
  | sheet (e : Sheet.Problem)
  /-- A file is not replaced. -/
  | unwritten (e : Files.WriteFailure)
  /-- The cache cannot be opened. -/
  | unopened (e : Cache.OpenError)
  /-- The cache fails. -/
  | cache (e : Cache.Failure)
  /-- No copy is put back. -/
  | unrestored (e : Files.RestoreFailure)
deriving DecidableEq

/-- What is said about a problem. -/
def Problem.message : Problem → Text
  | .usage e => e.message
  | .disk e => e.message
  | .settings e => e.message
  | .unsaved e => e.message
  | .malformed path e => path ++ Text.lit ": " ++ e.message
  | .build e => e.message
  | .sheet e => e.message
  | .unwritten e => e.message
  | .unopened e => e.message
  | .cache e => e.message
  | .unrestored e => e.message

/-- A session, which may fail. -/
abbrev Session := EStateM Problem World

/-- Says something. -/
def say (c : Channel) (t : Text) : Session Unit :=
  modify fun w => { w with said := w.said ++ [(c, t)] }

/-- Says that something went wrong. -/
def sayError (message : Text) : Session Unit :=
  say .err (line (Text.lit "Error: " ++ message))

/-- Work on the disk of a session. -/
def onDisk {ε β : Type} (wrap : ε → Problem) (x : Disk.Work Content ε β) : Session β := fun w =>
  match x w.disk with
  | .ok b d => .ok b { w with disk := d }
  | .error e d => .error (wrap e) { w with disk := d }

/-- The text of a file. -/
def readText (path : Text) : Session Text := do
  match (← get).disk.read path with
  | .ok c => return c.asText
  | .error e => throw (.disk e)

/-! ## The log -/

/-- The disk with a line added to the file of the log. A log that cannot be written is passed
over. -/
def appendLine (path added : Text) (d : Disk Content) : Disk Content :=
  let old := (d.read path).toOption.elim [] Content.asText
  let d := if d.isThere path then d else (d.makeAll (Files.directory path)).toOption.getD d
  (d.write path (.text (old ++ added))).toOption.getD d

/-- The world after a record under some settings of the log; `carry` says what its logger
carries. -/
def World.record (w : World) (s : LogSettings) (carry : Logger → Logger) (r : Record) : World :=
  match (carry (Logger.ofSettings w.version s)).write w.present.clock r with
  | console :: file =>
    let w := { w with said := w.said ++ console.toList.map fun t => (Channel.log, t) }
    match file.head?.join with
    | some t => { w with disk := appendLine (Text.trim s.file) t w.disk }
    | none => w
  | [] => w

/-- Writes a record under the settings in force. -/
def record (carry : Logger → Logger) (r : Record) : Session Unit :=
  modify fun w => w.record w.log carry r

/-- The name of the part of the program that talks to the user. -/
def component : Text := Text.lit "cli"

/-- A building in a session; what happens in it is logged. -/
def building {β : Type} (run : Text) (x : Build.Building β) : Session β := fun w =>
  let logged (s : Build.Site) : World :=
    s.notes.foldl (fun w n => w.record w.log (n.logger run) n.record) { w with disk := s.disk }
  match x { disk := w.disk } with
  | .ok b s => .ok b (logged s)
  | .error e s => .error (.build e) (logged s)

/-! ## Settings -/

/-- The settings under a file. -/
def World.settings (w : World) (path : Text) : Except Config.LoadError Config :=
  let read (p : Text) := (w.disk.read p).map Content.asText
  Config.load (w.userConfig.bind fun p => (read p).toOption) read path w.environment

/-- Loads the settings under a file. -/
def settings (path : Text) : Session Config := do
  match (← get).settings path with
  | .ok c => return c
  | .error e => throw (.settings e)

/-- Loads the settings under a file; from then on the log follows them. -/
def loadSettings (path : Text) : Session Config := do
  let c ← settings path
  modify fun w => { w with log := c.log }
  return c

end NovelScript.Command
