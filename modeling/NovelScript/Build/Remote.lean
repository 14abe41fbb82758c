import NovelScript.Build.Builder
import NovelScript.Cache.Server

/-!
# Builds with a cache on a server

A server is as good a help to a build as a file. It is asked in the same places, and what it refuses
is told and no failure of the build. The server has a state of its own beside the site of the build.
-/

namespace NovelScript.Build

/-- What a build with a cache on a server works on. -/
structure Remote (σ : Type) where
  /-- The site of the build. -/
  site : Site
  /-- The server. -/
  server : σ

namespace Remote

variable {σ ε α : Type}

/-- Work on the site, which leaves the server alone. -/
def onSite (w : Building α) : EStateM Failure (Remote σ) α := fun t =>
  match w t.site with
  | .ok a s => .ok a { t with site := s }
  | .error e s => .error e { t with site := s }

/-- Work with the server, which leaves the site alone. That it fails is no failure of the build. -/
def onServer (w : Cache.Work σ ε α) : EStateM Failure (Remote σ) (Except ε α) := fun t =>
  match w t.server with
  | .ok a st => .ok (.ok a) { t with server := st }
  | .error e st => .ok (.error e) { t with server := st }

end Remote

/-- The means of a builder whose cache is on a server. -/
def Builder.remoteMeans {σ : Type} (b : Builder) (s : Cache.Server σ) (i : Instant) :
    Means (Remote σ) where
  onSite := Remote.onSite
  lookUp source rel text := do
    match ← Remote.onServer
        (s.lookup rel (sourceFingerprint text) (optionsFingerprint b.options)) with
    | .ok found => return found
    | .error e =>
      Remote.onSite (tell (.unfound source e))
      return none
  keep source rel text script := do
    let offer : Cache.Offer :=
      { path := rel, source := sourceFingerprint text, options := optionsFingerprint b.options
        output := script, run := b.run }
    match ← Remote.onServer (s.keep i.now offer) with
    | .ok _ => return ()
    | .error e => Remote.onSite (tell (.unkept source e))

end NovelScript.Build
