import NovelScript.Command.Session

/-!
# Reports of crashes

When the program meets something it cannot go on with, it leaves a report: in the state directory of
what it worked on, or among the files that nobody keeps. The user is told where the report is, even
when it could not be written.
-/

namespace NovelScript.Command

/-- What a report tells about the program besides what went wrong. -/
structure Circumstances where
  /-- The time. -/
  time : Text
  /-- The system and the machine. -/
  platform : Text
  /-- The command line. -/
  command : Text
  /-- Where the program was. -/
  stack : Text := []

/-- The name of a report. -/
def reportName (stamp : Text) : Text :=
  Text.lit "crash-" ++ stamp ++ Text.lit ".log"

/-- The text of a report. -/
def reportText (version : Text) (c : Circumstances) (root cause : Text) : Text :=
  line (Text.lit "mdrpy Crash Report") ++
    line (Text.lit "Timestamp: " ++ c.time) ++
    line (Text.lit "Version: " ++ version) ++
    line (Text.lit "OS/Arch: " ++ c.platform) ++
    line (Text.lit "Command: " ++ c.command) ++
    (if root.isEmpty then [] else line (Text.lit "Root: " ++ root)) ++
    line [] ++ line (Text.lit "Panic: " ++ cause) ++ line [] ++
    line (Text.lit "Stack:") ++ line c.stack

/-- The directory for a report: the state directory of the root if it can be made. -/
def reportDirectory (root : Text) (w : World) : Text × World :=
  if root.isEmpty then (w.temporary, w)
  else
    let dir := Files.join root Files.stateName
    match w.disk.makeAll dir with
    | .ok d => (dir, { w with disk := d })
    | .error _ => (w.temporary, w)

/-- The logger for crashes. -/
def crashLogger (l : Log.Logger) : Log.Logger :=
  l.component (Text.lit "crash")

/-- Reports that the program cannot go on, and says with which code it ends. -/
def crash (c : Circumstances) (root cause : Text) : Session Nat := do
  let log (message : String) (as : List Log.Attribute) :=
    record crashLogger
      { level := .error, message := Text.lit message, attributes := as
        place := some (Text.lit "crash") }
  log "panic recovered" [(Text.lit "panic", .text cause), (Text.lit "stack", .text c.stack)]
  let (dir, w) := reportDirectory root (← get)
  set w
  let moment := w.present.instant.moment
  let path := Files.join dir (reportName moment.stamp)
  let version := shownVersion w.version
  match Files.writeAtomic Content.empty moment false path
      (.text (reportText version c root cause)) w.disk with
  | .ok _ d => set { w with disk := d }
  | .error e d =>
    set { w with disk := d }
    log "crash report not written" [(Text.lit "err", .fault e.message), (Text.lit "path", .text path)]
  say .err (line (Text.lit "A fatal error occurred. A crash report was saved to: " ++ path) ++
    line (Text.lit "Version: " ++ version) ++ line (Text.lit "OS/Arch: " ++ c.platform))
  return 2

end NovelScript.Command
