import NovelScript.Command.Flag

/-!
# Requests

What a user asks for: the words and flags of the command line as a value. Reading a request touches
nothing, so a command line that makes no sense is refused before anything happens.
-/

namespace NovelScript.Command

/-- What can be chosen for a build or a watch. -/
structure BuildChoices where
  /-- The file of settings. -/
  config : Text := []
  /-- The directory for scripts, instead of the one in the settings. -/
  outDir : Text := []
  /-- How many documents are built at a time, if that is positive. -/
  workers : Int := 0
  /-- Is no cache used? -/
  noCache : Bool := false
  /-- Is a copy kept of a script that is replaced? -/
  backup : Bool := false
deriving DecidableEq

/-- What a user asks for. -/
inductive Request where
  /-- How the program is used. -/
  | help
  /-- Which version it is. -/
  | version
  /-- The script of a document on the screen. -/
  | print (config source : Text)
  /-- Scripts for a document or a directory. -/
  | build (c : BuildChoices) (target : Text)
  /-- Scripts for a directory, again and again. -/
  | watch (c : BuildChoices) (root : Text)
  /-- A printed script. -/
  | sheet (config : Text) (numbers : Bool) (source target : Text)
  /-- The settings in force, on the screen or in a file. -/
  | settings (config save : Text)
  /-- Something about the cache: what, for which directory, and an age in days. -/
  | cache (task config : Text) (days : Int) (dir : Option Text)
  /-- An older script back in place. -/
  | restore (path : Text)
deriving DecidableEq

/-- Why a command line makes no sense. -/
inductive UsageError where
  /-- Something is wrong with a flag. -/
  | flag (e : FlagError)
  /-- There is no such command. -/
  | unknownCommand (name : Text)
  /-- A command needs other words. -/
  | words (rule : String)
  /-- A directory is wanted. -/
  | notDirectory (path : Text)
  /-- It is not said what to do with the cache. -/
  | noCacheTask
  /-- More than one directory is named for a task with the cache. -/
  | cacheWords (task : Text)
  /-- There is no such task with the cache. -/
  | unknownCacheTask (task : Text)
  /-- An age is below zero. -/
  | negativeDays
deriving DecidableEq

/-- What is said about a command line that makes no sense. -/
def UsageError.message : UsageError → Text
  | .flag e => e.message
  | .unknownCommand name => Text.lit "unknown command " ++ Text.quoted name
  | .words rule => Text.lit rule
  | .notDirectory path => Text.lit "watch needs a directory, got " ++ path
  | .noCacheTask => Text.lit "cache requires stats or prune"
  | .cacheWords task => Text.lit "cache " ++ task ++ Text.lit " takes at most one <dir>"
  | .unknownCacheTask task => Text.lit "unknown cache command " ++ Text.quoted task
  | .negativeDays => Text.lit "-days must not be negative"

/-! ## Flags of the commands -/

/-- The flag for a file of settings. -/
def configFlag {σ : Type} (set : Text → σ → σ) : Flag σ :=
  ⟨Text.lit "config", .text set⟩

/-- The flags of a build and of a watch. -/
def buildFlags : List (Flag BuildChoices) :=
  [configFlag fun t c => { c with config := t },
    ⟨Text.lit "o", .text fun t c => { c with outDir := t }⟩,
    ⟨Text.lit "workers", .int fun n c => { c with workers := n }⟩,
    ⟨Text.lit "no-cache", .switch fun b c => { c with noCache := b }⟩,
    ⟨Text.lit "backup", .switch fun b c => { c with backup := b }⟩]

/-- The flags of a print on the screen; the choice is a file of settings. -/
def printFlags : List (Flag Text) :=
  [configFlag fun t _ => t]

/-- The flags of a printed script: a file of settings, and whether lines are numbered. -/
def sheetFlags : List (Flag (Text × Bool)) :=
  [configFlag fun t c => (t, c.2), ⟨Text.lit "numbers", .switch fun b c => (c.1, b)⟩]

/-- The flags for the settings: a file of settings, and a file to write them to. -/
def settingsFlags : List (Flag (Text × Text)) :=
  [configFlag fun t c => (t, c.2), ⟨Text.lit "save", .text fun t c => (c.1, t)⟩]

/-- The flags for the cache: a file of settings, and an age. -/
def cacheFlags : List (Flag (Text × Int)) :=
  [configFlag fun t c => (t, c.2), ⟨Text.lit "days", .int fun n c => (c.1, n)⟩]

/-- The age of entries that are forgotten, unless another one is given. -/
def usualDays : Int := 30

/-! ## Reading -/

/-- Reads the arguments of a command and makes a request of the words and the choices. -/
def withArguments {σ : Type} (flags : List (Flag σ)) (s : σ) (args : List Text)
    (make : List Text → σ → Except UsageError Request) : Except UsageError Request :=
  match readArguments flags s args with
  | .error e => .error (.flag e)
  | .ok (words, s) => make words s

/-- The request for something with the cache. -/
def readCache : List Text → Except UsageError Request
  | [] => .error .noCacheTask
  | task :: args => withArguments cacheFlags ([], usualDays) args fun
    | [], (config, days) => .ok (.cache task config days none)
    | [dir], (config, days) => .ok (.cache task config days (some dir))
    | _, _ => .error (.cacheWords task)

/-- The request of a command with its arguments. -/
def readCommand (name : Text) (args : List Text) : Except UsageError Request :=
  let is (names : List String) := names.any (Text.lit · == name)
  if is ["version", "--version", "-v"] then .ok .version
  else if is ["help", "-h", "--help"] then .ok .help
  else if is ["print"] then withArguments printFlags [] args fun
    | [source], config => .ok (.print config source)
    | _, _ => .error (.words "print requires <file.md>")
  else if is ["build"] then withArguments buildFlags {} args fun
    | [target], c => .ok (.build c target)
    | _, _ => .error (.words "build requires <file|dir>")
  else if is ["watch"] then withArguments buildFlags {} args fun
    | [root], c => .ok (.watch c root)
    | _, _ => .error (.words "watch requires <dir>")
  else if is ["pdf"] then withArguments sheetFlags ([], true) args fun
    | [source, target], (config, numbers) => .ok (.sheet config numbers source target)
    | _, _ => .error (.words "pdf requires <file.md> <out.pdf>")
  else if is ["config"] then withArguments settingsFlags ([], []) args fun
    | [], (config, save) => .ok (.settings config save)
    | _, _ => .error (.words "config takes no arguments")
  else if is ["cache"] then readCache args
  else if is ["restore"] then
    match args with
    | [path] => .ok (.restore path)
    | _ => .error (.words "restore requires <file.rpy>")
  else .error (.unknownCommand name)

/-- The request of a command line; an empty one asks how the program is used. -/
def Request.ofArguments : List Text → Except UsageError Request
  | [] => .ok .help
  | name :: args => readCommand name args

end NovelScript.Command
