import NovelScript.Build.Builder

/-!
# Watching documents

A watch is told about every change in the directories below a root. A document that changed is
pending until the changes have settled for a while; then every pending document that is still there
is built, once. A failed build is reported like any other and ends nothing.

The watch itself decides nothing about time. It is a machine of two steps: it notices an event, and
it fires when nothing has happened for a while.
-/

namespace NovelScript.Build

open Files (Disk DiskError Entry)

/-- How long nothing must happen before pending documents are built, in milliseconds. -/
def settlingTime : Nat := 150

/-- What a system tells about a path: everything that happened to it at once. -/
structure Event where
  /-- The path: a watched directory and a name in it. -/
  path : Text
  /-- Did something appear there? -/
  created : Bool := false
  /-- Was it written to? -/
  written : Bool := false
  /-- Was it taken away? -/
  removed : Bool := false
  /-- Was it moved to another name? -/
  renamed : Bool := false
  /-- Were its permissions changed? -/
  touched : Bool := false
deriving DecidableEq

/-- Can the document at the path of an event have changed? -/
def Event.isChange (e : Event) : Bool :=
  e.created || e.written || e.renamed

/-- The directory that has appeared at the path of an event, if one has. -/
def Event.newDirectory? {α : Type} (d : Disk α) (e : Event) : Option (Entry α) :=
  if e.created then (d.find e.path).toOption.filter Entry.isDirectory else none

/-- A watch. -/
structure Watch where
  /-- The directory whose documents are built. -/
  root : Text
  /-- The directories that are watched. -/
  directories : List Text := []
  /-- The documents that changed, in the order of their first change. -/
  pending : List Text := []
  /-- Will the watch fire when nothing happens for a while? -/
  armed : Bool := false
deriving DecidableEq

namespace Watch

variable {α : Type}

/-- The watch with more directories. -/
def enrol (w : Watch) (dirs : List Text) : Watch :=
  { w with
    directories := w.directories ++
      ((dirs.map Files.clean).filter fun d => !w.directories.contains d) }

/-- The watch with a document that changed. -/
def await (w : Watch) (source : Text) : Watch :=
  { w with
    pending := if w.pending.contains source then w.pending else w.pending ++ [source]
    armed := true }

/-- The watch after an event. A new directory is watched with all below it, unless it is hidden, but
the documents in it count as unchanged. -/
def notice (d : Disk α) (w : Watch) (e : Event) : Watch :=
  match e.newDirectory? d with
  | some dir => if isHidden (Files.base e.path) then w else w.enrol (directoriesAt e.path dir)
  | none => if e.isChange && isSource e.path then w.await e.path else w

/-- The path by which a watch is told about something at `path`, if it watches its directory. -/
def told? (d : Disk α) (w : Watch) (path : Text) : Option Text :=
  let place (p : Text) := (d.locate p).toOption.map (·.names)
  (w.directories.find? fun dir =>
    (place dir).isSome && place dir == place (Files.directory path)).map fun dir =>
      dir ++ Files.slash :: Files.base path

end Watch

/-- Building that is tried: a failure is a report, and what was done before it stays. -/
def attempt {β : Type} (x : Building β) : Building (Except Failure β) := fun s =>
  match x s with
  | .ok b s => .ok (.ok b) s
  | .error e s => .ok (.error e) s

/-- What a watch reports about a document. -/
abbrev Report := Except Failure Result

namespace Builder

/-- Builds those of some documents that are there, and reports on each. -/
def rebuild (b : Builder) (i : Instant) (root : Text) : List Text → Building (List Report)
  | [] => return []
  | source :: more => do
    if (← get).disk.isThere source then
      let r ← attempt (b.buildOne i false root source)
      return r :: (← b.rebuild i root more)
    else b.rebuild i root more

/-- Starts to watch a directory. -/
def watch (b : Builder) (root : Text) : Building Watch := do
  b.check
  match directories (← get).disk root with
  | .error e => throw (.unwatched e)
  | .ok dirs =>
    tell (.watching root)
    return Watch.enrol { root } dirs

/-- The watch fires: every pending document that is still there is built. -/
def fire (b : Builder) (i : Instant) (w : Watch) : Building (Watch × List Report) := do
  let rs ← b.rebuild i w.root w.pending
  return ({ w with pending := [], armed := false }, rs)

end Builder

/-- The watch after it was told what it did itself when it fired: scripts appeared, and directories
for them. What is in a directory that was not yet watched when a script appeared there goes
unnoticed. -/
def Watch.echo {α : Type} (d : Disk α) (w : Watch) (rs : List Report) : Watch :=
  let appeared := rs.filterMap fun
    | .ok r => if r.written then w.told? d r.output else none
    | .error _ => none
  let w := appeared.foldl (fun w path => w.notice d { path, created := true }) w
  match Build.directories d w.root with
  | .ok dirs => w.enrol dirs
  | .error _ => w

end NovelScript.Build
