import NovelScript.Build.Fingerprint
import NovelScript.Build.Tree
import NovelScript.Cache.Handle
import NovelScript.Files.Atomic
import NovelScript.Markdown.Document
import NovelScript.Script.Label
import NovelScript.Script.Pass

/-!
# Builds

A document is built by reading it, finding its script in the cache or making it, and writing the
script unless it is there already. The cache is only a help: when it fails, the build goes on
without it. A directory is built document by document, and the first failure ends the build.
-/

namespace NovelScript.Build

open Files (Disk DiskError)

/-- The script of a document under options that are not refused. -/
def scriptOf (o : Options) (source : Text) : Except Script.PassError Text :=
  Script.ofTokens (Script.Setting.of o Script.labelName) (Markdown.tokensOf source)

/-- What is the same for all documents of a build. -/
structure Builder where
  /-- The options of scripts. -/
  options : Options := Options.default
  /-- Where scripts go. -/
  target : Target := {}
  /-- How many documents may be built at a time; as many as there are processors when it is not
  positive. -/
  workers : Int := 0
  /-- Is a copy kept of a script that is replaced? -/
  backup : Bool := false
  /-- The name of this run. -/
  run : Text := []
  /-- The cache, if there is one. -/
  cache : Option Cache.Handle := none

/-- The time of a build, and what writes take from outside. -/
structure Instant where
  /-- The time in nanoseconds. -/
  now : Int
  /-- What writes take from outside. -/
  moment : Files.Moment

/-- A document that was built. -/
structure Result where
  /-- The document as it was found. -/
  source : Text
  /-- The document as seen from the root. -/
  rel : Text
  /-- The script. -/
  output : Text
  /-- Did the script come from the cache? -/
  cached : Bool
  /-- Did the file of the script change? -/
  written : Bool
  /-- The length of the script. -/
  size : Nat
deriving DecidableEq

/-- Why a build fails. -/
inductive Failure where
  /-- The options are refused. -/
  | options (p : Options.Problem)
  /-- The documents below a root cannot be found. -/
  | undiscovered (root : Text) (e : DiskError)
  /-- The directories below a root cannot be watched. -/
  | unwatched (e : DiskError)
  /-- The build was called off. -/
  | cancelled
  /-- A document cannot be seen from the root. -/
  | unrelated (root source : Text)
  /-- A document cannot be read. -/
  | unread (source : Text) (e : DiskError)
  /-- A document has no script. -/
  | malformed (rel : Text) (e : Script.PassError)
  /-- A script cannot be written. -/
  | unwritten (output : Text) (e : Files.WriteFailure)
deriving DecidableEq

/-- What is said when a build fails. -/
def Failure.message : Failure → Text
  | .options p => p.message
  | .undiscovered root e => Text.lit "discover " ++ root ++ Text.lit ": " ++ e.message
  | .unwatched e => e.message
  | .cancelled => Cache.Fault.cancelled.message
  | .unrelated root source => Files.relativeMessage root source
  | .unread source e => Text.lit "read " ++ source ++ Text.lit ": " ++ e.message
  | .malformed rel e => rel ++ Text.lit ": " ++ e.message
  | .unwritten output e => Text.lit "write " ++ output ++ Text.lit ": " ++ e.message

/-- What the disk said, if it said something. -/
def Failure.disk? : Failure → Option DiskError
  | .undiscovered _ e | .unwatched e | .unread _ e => some e
  | .unwritten _ e => e.disk?
  | _ => none

/-- Something that happens in a build and that its log tells. -/
inductive Note where
  /-- The cache was no help with a document. -/
  | unfound (source : Text) (e : Cache.Failure)
  /-- The cache could not keep a script. -/
  | unkept (source : Text) (e : Cache.Failure)
  /-- A document was built. -/
  | built (r : Result)
  /-- A directory could not be built. -/
  | failed (root : Text) (e : Failure)
  /-- A directory was built. -/
  | finished (root : Text) (rs : List Result)
  /-- A directory is watched from now on. -/
  | watching (root : Text)

/-- What a build works on: a disk, and what happened so far. -/
structure Site where
  /-- The disk. -/
  disk : Disk Content
  /-- What happened, in order. -/
  notes : List Note := []

/-- Building, which may fail. -/
abbrev Building := EStateM Failure Site

/-- Tells what happens. -/
def tell (n : Note) : Building Unit :=
  modify fun s => { s with notes := s.notes ++ [n] }

/-- Work on the disk of a build. -/
def onDisk {ε β : Type} (wrap : ε → Failure) (w : Disk.Work Content ε β) : Building β := fun s =>
  match w s.disk with
  | .ok b d => .ok b { s with disk := d }
  | .error e d => .error (wrap e) { s with disk := d }

/-- The text of a document. -/
def readSource (source : Text) : Building Text := do
  match (← get).disk.read source with
  | .ok c => return c.asText
  | .error e => throw (.unread source e)

namespace Builder

/-- The script that the cache has for a document. A cache that fails has none. -/
def lookUp (b : Builder) (source rel text : Text) : Building (Option Text) := do
  match b.cache with
  | none => return none
  | some h =>
    match h.lookup false rel (sourceFingerprint text) (optionsFingerprint b.options)
        (← get).disk with
    | .ok found => return found
    | .error e =>
      tell (.unfound source e)
      return none

/-- Gives a new script to the cache. -/
def keep (b : Builder) (i : Instant) (source rel text script : Text) : Building Unit := do
  match b.cache with
  | none => return ()
  | some h =>
    let offer : Cache.Offer :=
      { path := rel, source := sourceFingerprint text, options := optionsFingerprint b.options
        output := script, run := b.run }
    match h.keep false i.now offer (← get).disk with
    | .ok d => modify fun s => { s with disk := d }
    | .error e => tell (.unkept source e)

/-- Writes a script unless its file holds it already, and says whether it was written. -/
def settle (b : Builder) (i : Instant) (output script : Text) : Building Bool := do
  let there := match (← get).disk.read output with
    | .ok c => c.asText == script
    | .error _ => false
  if there then return false
  else
    onDisk (.unwritten output)
      (Files.writeAtomic Content.empty i.moment b.backup output (.text script))
    return true

/-- Refuses options that could mean two things. -/
def check (b : Builder) : Building Unit :=
  match b.options.validate with
  | .ok _ => return ()
  | .error p => throw (.options p)

end Builder

/-! ## Builds -/

/-- How a build gets at its site and at its cache, when `τ` is what it works on. -/
structure Means (τ : Type) where
  /-- Work on the site. -/
  onSite {α : Type} : Building α → EStateM Failure τ α
  /-- The script that the cache has for a document. -/
  lookUp (source rel text : Text) : EStateM Failure τ (Option Text)
  /-- Gives a new script to the cache. -/
  keep (source rel text script : Text) : EStateM Failure τ Unit

namespace Means

variable {τ : Type}

/-- The script of a document, and whether it came from the cache. -/
def produce (m : Means τ) (b : Builder) (source rel text : Text) :
    EStateM Failure τ (Text × Bool) := do
  match ← m.lookUp source rel text with
  | some script => return (script, true)
  | none =>
    match scriptOf b.options text with
    | .error e => throw (.malformed rel e)
    | .ok script =>
      m.keep source rel text script
      return (script, false)

/-- Builds one document below a root. -/
def buildOne (m : Means τ) (b : Builder) (i : Instant) (cancelled : Bool) (root source : Text) :
    EStateM Failure τ Result := do
  if cancelled then throw .cancelled
  let rel := (Files.relative? root source).getD (Files.base source)
  match b.target.path? root source with
  | none => throw (.unrelated root source)
  | some output =>
    let text ← m.onSite (readSource source)
    let (script, cached) ← m.produce b source rel text
    let written ← m.onSite (b.settle i output script)
    let r : Result := { source, rel, output, cached, written, size := script.length }
    m.onSite (tell (.built r))
    return r

/-- Builds a single document. Its script goes beside it or right into the directory for scripts. -/
def buildFile (m : Means τ) (b : Builder) (i : Instant) (cancelled : Bool) (source : Text) :
    EStateM Failure τ Result := do
  m.onSite b.check
  m.buildOne b i cancelled (Files.directory source) source

/-- Builds documents one after the other. -/
def buildAll (m : Means τ) (b : Builder) (i : Instant) (cancelled : Bool) (root : Text) :
    List Text → EStateM Failure τ (List Result)
  | [] => return []
  | source :: more => do
    let r ← m.buildOne b i cancelled root source
    return r :: (← m.buildAll b i cancelled root more)

/-- Builds every document below a root. -/
def buildDirectory (m : Means τ) (b : Builder) (i : Instant) (cancelled : Bool) (root : Text) :
    EStateM Failure τ (List Result) := do
  m.onSite b.check
  match discover (← m.onSite get).disk root with
  | .error e => throw (.undiscovered root e)
  | .ok sources =>
    try
      let rs ← m.buildAll b i cancelled root sources
      m.onSite (tell (.finished root rs))
      return rs
    catch e =>
      m.onSite (tell (.failed root e))
      throw e

end Means

namespace Builder

/-- The means of a builder whose cache is in a file, or that has none. -/
def means (b : Builder) (i : Instant) : Means Site where
  onSite w := w
  lookUp := b.lookUp
  keep := b.keep i

/-- The script of a document, and whether it came from the cache. -/
def produce (b : Builder) (i : Instant) (source rel text : Text) : Building (Text × Bool) :=
  (b.means i).produce b source rel text

/-- Builds one document below a root. -/
def buildOne (b : Builder) (i : Instant) (cancelled : Bool) (root source : Text) :
    Building Result :=
  (b.means i).buildOne b i cancelled root source

/-- Builds a single document. -/
def buildFile (b : Builder) (i : Instant) (cancelled : Bool) (source : Text) : Building Result :=
  (b.means i).buildFile b i cancelled source

/-- Builds documents one after the other. -/
def buildAll (b : Builder) (i : Instant) (cancelled : Bool) (root : Text) (sources : List Text) :
    Building (List Result) :=
  (b.means i).buildAll b i cancelled root sources

/-- Builds every document below a root. -/
def buildDirectory (b : Builder) (i : Instant) (cancelled : Bool) (root : Text) :
    Building (List Result) :=
  (b.means i).buildDirectory b i cancelled root

end Builder

end NovelScript.Build
