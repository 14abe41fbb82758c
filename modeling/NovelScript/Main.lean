import NovelScript.Build.Change
import NovelScript.Command.Crash
import NovelScript.Command.Reach
import NovelScript.Command.Run
import NovelScript.Content.Bytes
import NovelScript.Files.Snapshot
import NovelScript.Number.Calendar
import Std.Time.Zoned.Database

/-!
# The command line

The outer layer: it takes a snapshot of the part of the system's disk that a command may look at,
runs the command on it, does on the system's disk what the command did on the snapshot, and says what
the command said. It decides nothing.
-/

namespace NovelScript.Main

open Files (Disk Entry Deed)

/-- The spelling of a place for the system. -/
def spelled (names : List Text) : String :=
  "/" ++ Text.display (Files.Path.joined names)

/-- The names of a path, seen from a working directory. -/
def namesFrom (home : List Text) (path : Text) : List Text :=
  let path := if path.head? == some Files.slash then path
    else Files.slash :: Files.Path.joined (home ++ [path])
  (Files.Path.ofText path).names

/-- The names in a directory; none when it is no directory. -/
def listed (path : String) : IO (Option (List String)) := do
  try
    let dir ← IO.FS.realPath path
    return some ((← dir.readDir).toList.map fun e => e.fileName)
  catch _ => return none

/-- The bytes of a file; none when it cannot be read. -/
def bytesOf (path : String) : IO (Option Text) := do
  try return some (← IO.FS.readBinFile path).toList
  catch _ => return none

/-- What is at a place of the system's disk, down to some depth. -/
def look : (depth : Nat) → (names : List Text) → IO (Option (Entry Content))
  | 0, _ => return none
  | depth + 1, names => do
    match ← listed (spelled names) with
    | some inside =>
      let entries ← inside.filterMapM fun name => do
        let name := name.toUTF8.toList
        return (← look depth (names ++ [name])).map fun e => (name, e)
      return some (.directory entries)
    | none => return (← bytesOf (spelled names)).map fun s => .file (Content.ofBytes s)

/-- How deep a directory is looked at. -/
def deepest : Nat := 64

/-- The snapshot with what is at some paths, down to some depth. -/
def withPaths (depth : Nat) (d : Disk Content) (paths : List Text) : IO (Disk Content) :=
  paths.foldlM (fun d path => do
    let names := namesFrom d.home path
    match ← look depth names with
    | some e => return { d with root := e.plant names d.root }
    | none => return { d with root := d.root.set none names }) d

/-- A snapshot of everything that some named paths make matter. -/
def snapshot (d : Disk Content) (named : List Text) : IO (Disk Content) := do
  let missing := (Command.barePaths named).filter fun path =>
    !(d.root.get? (namesFrom d.home path)).any Entry.isDirectory
  withPaths deepest (← withPaths 1 d missing) (Command.wholePaths named)

/-- Does one thing on the system's disk. A file is moved into place as a whole. -/
def carryOut (deed : Deed Content) : IO Unit := do
  match deed with
  | .makeDirectory names => IO.FS.createDirAll (spelled names)
  | .putFile names c =>
    let path := spelled names
    let fresh := path ++ ".new"
    IO.FS.writeBinFile fresh ⟨c.toBytes.toArray⟩
    IO.FS.rename fresh path
  | .removeFile names => IO.FS.removeFile (spelled names)
  | .removeDirectory names => IO.FS.removeDir (spelled names)

/-- Says what was said. -/
def speak (said : List (Command.Channel × Text)) : IO Unit :=
  said.forM fun (channel, t) => do
    let stream ← match channel with
      | .out => IO.getStdout
      | _ => IO.getStderr
    stream.write ⟨t.toArray⟩
    stream.flush

/-- The value of a variable; empty when it is not set. -/
def variableValue (name : String) : IO Text := do
  return ((← IO.getEnv name).getD "").toUTF8.toList

/-- The variables that the program knows. -/
def environment : IO Environment :=
  Environment.names.mapM fun (_, name) => do
    return (Text.lit name, ← variableValue name)

/-- Some random bytes in base sixteen. -/
def randomHex (count : USize) : IO Text := do
  return (← IO.getRandomBytes count).toList.flatMap fun b => Text.hexPadded 2 b.toNat

/-- A name for a run that no other run has. -/
def runName : IO Text := do
  let digits ← randomHex 16
  let part (start count : Nat) := (digits.drop start).take count
  return Text.join (Text.lit "-") [part 0 8, part 8 4, part 12 4, part 16 4, part 20 12]

/-- How many seconds the clock on the wall is ahead. It is not when the zone is empty or unknown. -/
def zoneOffset (t : Std.Time.Timestamp) : IO Int := do
  if (← IO.getEnv "TZ") == some "" then return 0
  try
    let zone ← Std.Time.Database.defaultGetLocalZoneRules
    return (zone.timezoneAt t).offset.second.val
  catch _ => return 0

/-- The present, with the clock on the wall for everything that is shown. -/
def present : IO Command.Present := do
  let t ← Std.Time.Timestamp.now
  let now := t.toNanosecondsSinceUnixEpoch.val
  let ahead ← zoneOffset t
  let date := DateTime.onWall (now / Cache.second).toNat ahead
  let fraction := DateTime.fractionText (now % Cache.second).toNat
  return {
    instant := ⟨now, ⟨date.stamp, ← randomHex 8⟩⟩
    clock := some ⟨date.full [] ahead, date.full fraction ahead⟩
    timeOfDay := date.timeText ":" }

/-- The world before a command. -/
def world (args : List Text) : IO Command.World := do
  let home := (Files.Path.ofText (toString (← IO.currentDir)).toUTF8.toList).names
  let temporary ← variableValue "TMPDIR"
  let userConfig := Command.userConfigPath (← variableValue "XDG_CONFIG_HOME")
    (← variableValue "HOME")
  let empty : Disk Content := { home, root := Entry.plant (.directory []) home (.directory []) }
  let settingsFiles := userConfig.toList ++ Command.namedIn args
  let env ← environment
  let w : Command.World := {
    disk := ← withPaths 1 empty settingsFiles
    environment := env
    userConfig
    temporary := if temporary.isEmpty then Text.lit "/tmp" else temporary
    run := ← runName
    present := ← present
    log := LogSettings.ofEnvironment env }
  return { w with disk := ← snapshot w.disk (w.named args) }

/-- Does on the system's disk what was done on the snapshot, and says what was said. -/
def settle (before : Disk Content) (w : Command.World) : IO Command.World := do
  (Disk.deeds Content.same before w.disk).forM carryOut
  speak w.said
  return { w with said := [] }

/-- Goes on watching: looks again after a while, and lets the watch fire when a look finds nothing
new. -/
partial def watching (named : List Text) (b : Build.Builder) (watch : Build.Watch)
    (w : Command.World) : IO Unit := do
  IO.sleep Build.settlingTime.toUInt32
  let disk ← snapshot w.disk named
  let events := watch.changes Content.same w.disk disk
  let watch := events.foldl (fun v e => v.notice disk e) watch
  let w := { w with disk, present := ← present }
  if events.isEmpty && watch.armed then
    match Command.fireWatch b watch w with
    | .ok watch w => watching named b watch (← settle disk w)
    | .error _ w => watching named b watch (← settle disk w)
  else watching named b watch w

/-- Runs a command line. -/
def command (args : List Text) (w : Command.World) : IO UInt32 := do
  let named := w.named args
  let (outcome, after) := Command.run args w
  let after ← settle w.disk after
  match outcome with
  | .finished code => return code.toUInt32
  | .watching b watch =>
    watching named b watch after
    return 0

/-- Leaves a report of something that the program could not go on with. -/
def crashed (args : List Text) (w : Command.World) (cause : Text) : IO UInt32 := do
  let c : Command.Circumstances :=
    { time := w.present.clock.elim [] (·.second), platform := Text.lit "unknown"
      command := Text.join (Text.lit " ") (Text.lit "mdrpy" :: args) }
  match Command.crash c (Command.stateRoot w.disk args) cause w with
  | .ok code after =>
    let _ ← settle w.disk after
    return code.toUInt32
  | .error _ _ => return 2

end NovelScript.Main

/-- The program. -/
def main (args : List String) : IO UInt32 := do
  let args := args.map fun (a : String) => a.toUTF8.toList
  let w ← NovelScript.Main.world args
  try NovelScript.Main.command args w
  catch e => NovelScript.Main.crashed args w (toString e).toUTF8.toList
