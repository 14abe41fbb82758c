import NovelScript.Cache.Journal
import NovelScript.Cache.Statement
import NovelScript.Command.Session

/-!
# What the commands do

Each request as a session. A build prints one line for every document, a watch goes on after the
session and prints one line for every report.
-/

namespace NovelScript.Command

open Files (Disk DiskError)

/-- What is left to do after a session. -/
inductive Outcome where
  /-- Nothing; the program ends with this code. -/
  | finished (code : Nat)
  /-- To go on watching. -/
  | watching (b : Build.Builder) (w : Build.Watch)

/-- Everything went well. -/
def ended : Outcome := .finished 0

/-! ## The cache -/

/-- The cache that a text names, or why it cannot be opened. -/
def tryOpen (name : Text) : Session (Except Cache.OpenError Cache.Handle) := fun w =>
  let logger (l : Log.Logger) := (Cache.Location.ofText name).logger l
  match Cache.openNamed false name w.disk with
  | .ok h d =>
    .ok (.ok h) (World.record { w with disk := d } w.log logger Cache.readyRecord)
  | .error e d =>
    .ok (.error e) (World.record { w with disk := d } w.log logger e.record)

/-- Opens the cache that a text names. -/
def openCache (name : Text) : Session Cache.Handle := do
  match ← tryOpen name with
  | .ok h => return h
  | .error e => throw (.unopened e)

/-- The cache for a build, if it can be opened. A cache that cannot be opened ends no build. -/
def cacheForBuild (name : Text) : Session (Option Cache.Handle) := do
  match ← tryOpen name with
  | .ok h => return some h
  | .error e =>
    record (·.component component)
      { level := .warn, message := Text.lit "build cache unavailable"
        attributes := [(Text.lit "err", .fault e.message)], place := some component }
    return none

/-- How much there is in a cache, in words. -/
def statsText (now : Int) (location : Text) (s : Cache.Stats) : Text :=
  let row (key : String) (value : Text) := line (Text.lit key ++ value)
  row "backend:  " (Text.lit Cache.Backend.file.name) ++ row "location: " location ++
    row "entries:  " (Text.ofInt s.entries) ++ row "size:     " (sizeText s.size.toNat) ++
    if 0 < s.entries then
      row "oldest:   " (ageText now (s.oldest.getD 0)) ++
        row "newest:   " (ageText now (s.newest.getD 0))
    else []

/-- The nanoseconds of some days in 64-bit arithmetic. -/
def daysAge (days : Int) : Int :=
  Text.wrapInt64 (days * 24 * 3600 * Cache.second)

/-- What is said about entries that were forgotten. -/
def prunedText (removed : Nat) (days : Int) : Text :=
  line (Text.lit "Removed " ++ Text.ofNat removed ++ Text.lit " cache " ++
    Text.lit (if removed = 1 then "entry" else "entries") ++ Text.lit " older than " ++
    Text.ofInt days ++ Text.lit " days")

/-- Shows how much there is in a cache. -/
def showStats (name : Text) : Session Unit := do
  let h ← openCache name
  match h.stats false (← get).disk with
  | .error e => throw (.cache e)
  | .ok s => say .out (statsText ((← get).present.instant.now / Cache.second) h.path s)

/-- Forgets the entries of a cache that are older than some days. -/
def pruneCache (name : Text) (days : Int) : Session Unit := do
  if days < 0 then throw (.usage .negativeDays)
  let h ← openCache name
  let cutoff := Cache.cutoff (← get).present.instant.now (daysAge days)
  match h.prune false cutoff (← get).disk with
  | .error e => throw (.cache e)
  | .ok (d, removed) =>
    modify fun w => { w with disk := d }
    record Cache.pruneLogger (Cache.pruneRecord removed h.path)
    say .out (prunedText removed days)

/-- Does something with the cache. The settings are loaded before it is clear what is to be done. -/
def performCache (task config : Text) (days : Int) (dir : Option Text) : Session Unit := do
  let c ← loadSettings config
  let name := dir.getD c.cache.dsn
  if task == Text.lit "stats" then showStats name
  else if task == Text.lit "prune" then pruneCache name days
  else throw (.usage (.unknownCacheTask task))

/-! ## Builds -/

/-- The builder for a root under the settings and what was chosen. -/
def builderFor (c : BuildChoices) (root : Text) : Session Build.Builder := do
  let s ← loadSettings c.config
  let cache ← if s.cache.disabled || c.noCache then pure none
    else cacheForBuild (if s.cache.dsn.isEmpty then root else s.cache.dsn)
  return {
    options := s.script
    target := ⟨if c.outDir.isEmpty then s.build.outDir else c.outDir, s.build.ext⟩
    workers := if 0 < c.workers then c.workers else s.build.workers
    backup := s.build.backup || c.backup
    run := (← get).run
    cache }

/-- What became of a document, in a word. -/
def stateOf (r : Build.Result) : String :=
  if r.cached && r.written then "restored"
  else if r.cached || !r.written then "unchanged"
  else "built"

/-- A word in a column of nine characters. -/
def column (word : String) : Text :=
  Text.lit word ++ List.replicate (9 - word.length) Text.blank

/-- The line about a document. -/
def resultText (r : Build.Result) : Text :=
  line (column (stateOf r) ++ Text.lit " " ++ r.rel ++ Text.lit " -> " ++ r.output)

/-- What is at a path: whether it is a directory. -/
def isDirectory (path : Text) : Session Bool := do
  match (← get).disk.stat path with
  | .ok e => return e.isDirectory
  | .error e => throw (.disk e)

/-- Builds a document or a directory. -/
def performBuild (c : BuildChoices) (target : Text) : Session Unit := do
  let whole ← isDirectory target
  let b ← builderFor c (if whole then target else Files.directory target)
  let i := (← get).present.instant
  let rs ← building b.run
    (if whole then b.buildDirectory i false target
    else return [← b.buildFile i false target])
  say .out (rs.flatMap resultText)

/-- Brings a directory up to date and starts to watch it. -/
def performWatch (c : BuildChoices) (root : Text) : Session Outcome := do
  if !(← isDirectory root) then throw (.usage (.notDirectory root))
  let b ← builderFor c root
  match ← building b.run (Build.attempt (b.buildDirectory (← get).present.instant false root)) with
  | .ok _ => pure ()
  | .error e => sayError e.message
  say .out (line (Text.lit "watching " ++ root ++ Text.lit " (Ctrl+C to stop)"))
  return .watching b (← building b.run (b.watch root))

/-- Says what a watch reports. -/
def sayReport (r : Build.Report) : Session Unit := do
  match r with
  | .ok r =>
    say .out (line ((← get).present.timeOfDay ++ Text.lit " rebuilt " ++ r.rel))
  | .error e => sayError e.message

/-- A watch fires: documents are built, reports are said, and the watch is told what it did. -/
def fireWatch (b : Build.Builder) (w : Build.Watch) : Session Build.Watch := do
  let (w, rs) ← building b.run (b.fire (← get).present.instant w)
  rs.forM sayReport
  return w.echo (← get).disk rs

/-! ## Scripts -/

/-- The script of a document under the settings of a file. -/
def scriptUnder (config source : Text) : Session Text := do
  let c ← loadSettings config
  match Build.scriptOf c.script (← readText source) with
  | .ok script => return script
  | .error e => throw (.malformed source e)

/-- Prints a script and writes the pages to a file. -/
def writeSheet (look : Sheet.Look) (title script target : Text) : Session Unit := do
  match Sheet.print look title script with
  | .error e => throw (.sheet e)
  | .ok pages =>
    onDisk .unwritten (Files.writeAtomic Content.empty (← get).present.instant.moment false target
      (.pages pages))

/-- Prints the script of a document. -/
def performSheet (config : Text) (numbers : Bool) (source target : Text) : Session Unit := do
  let script ← scriptUnder config source
  writeSheet { numbers, rule := numbers } (Files.base source) script target
  say .out (line (Text.lit "Wrote " ++ target))

/-! ## Settings and copies -/

/-- The lines about settings that come from the environment. -/
def overrideText (env : Environment) : Text :=
  Environment.names.flatMap fun (key, _) =>
    match env.override? key with
    | some name =>
      line (Text.lit "# " ++ Text.lit key ++ Text.lit " overridden by " ++ Text.lit name)
    | none => []

/-- Shows the settings in force or saves them. -/
def performSettings (config save : Text) : Session Unit := do
  let c ← settings config
  if save.isEmpty then say .out (c.write ++ overrideText (← get).environment)
  else
    onDisk .unsaved (c.save save)
    say .out (line (Text.lit "Saved " ++ save))

/-- Puts the newest copy of a script back. -/
def performRestore (path : Text) : Session Unit := do
  let copy ← onDisk .unrestored
    (Files.restoreLatest Content.empty (← get).present.instant.moment path)
  say .out (line (Text.lit "Restored " ++ path ++ Text.lit " from " ++ copy))

/-- Does what a user asks for. -/
def perform : Request → Session Outcome
  | .help => do
    say .out (usageText (shownVersion (← get).version))
    return ended
  | .version => do
    say .out (versionText (shownVersion (← get).version))
    return ended
  | .print config source => do
    say .out (← scriptUnder config source)
    return ended
  | .build c target => do
    performBuild c target
    return ended
  | .watch c root => performWatch c root
  | .sheet config numbers source target => do
    performSheet config numbers source target
    return ended
  | .settings config save => do
    performSettings config save
    return ended
  | .cache task config days dir => do
    performCache task config days dir
    return ended
  | .restore path => do
    performRestore path
    return ended

end NovelScript.Command
