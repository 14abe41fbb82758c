import NovelScript.Build.Builder
import NovelScript.Log.Logger
import NovelScript.Number.Size

/-!
# The log of a build

What happens in a build as records of the log. A record carries the activity and the run, the root
where there is one, and the document where there is one.

The clock of a build stands still while it runs, so every length of time in these records is zero.
-/

namespace NovelScript.Build

open Log (Record Logger Attribute Value)

/-- The name of the part of the program that builds. -/
def component : Text := Text.lit "build"

/-- What was going on: the activity and what its logger carries. -/
def Note.activity : Note → Text × List Attribute
  | .unfound _ _ | .unkept _ _ | .built _ => (Text.lit "file", [])
  | .failed root _ | .finished root _ => (Text.lit "dir", [(Text.lit "root", .text root)])
  | .watching root => (Text.lit "watch", [(Text.lit "root", .text root)])

/-- The logger for what happens in a run. -/
def Note.logger (run : Text) (l : Logger) (n : Note) : Logger :=
  let l := (l.component component).operation n.activity.1
  let l := if run.isEmpty then l else l.add [(Text.lit "run", .text run)]
  if n.activity.2.isEmpty then l else l.add n.activity.2

/-- No time at all. -/
def took : Attribute := (Text.lit "took", .duration 0)

/-- What is said about a fault. -/
def faultAttribute (message : Text) : Attribute := (Text.lit "err", .fault message)

/-- How many results there are for which something holds. -/
def countAttribute (key : String) (p : Result → Bool) (rs : List Result) : Attribute :=
  (Text.lit key, .int ((rs.filter p).length : Nat))

/-- The record of what happened. -/
def Note.record (n : Note) : Record :=
  let within (source : Text) (r : Record) := r.within [(Text.lit "doc", .text source)]
  let place := some component
  match n with
  | .unfound source e => within source
    { level := .warn, message := Text.lit "cache lookup failed"
      attributes := [faultAttribute e.message], place }
  | .unkept source e => within source
    { level := .warn, message := Text.lit "cache store failed"
      attributes := [faultAttribute e.message], place }
  | .built r => within r.source
    { level := .info, message := Text.lit "built"
      attributes :=
        [(Text.lit "out", .text r.output), (Text.lit "cached", .bool r.cached),
          (Text.lit "written", .bool r.written), took]
      place }
  | .failed _ e =>
    { level := .error, message := Text.lit "build failed"
      attributes := [faultAttribute e.message], place }
  | .finished _ rs =>
    { level := .info, message := Text.lit "build finished"
      attributes :=
        [countAttribute "documents" (fun _ => true) rs, countAttribute "cached" (·.cached) rs,
          countAttribute "written" (·.written) rs,
          (Text.lit "size", .text (sizeText (rs.foldl (fun n r => n + r.size) 0))), took]
      place }
  | .watching _ => { level := .info, message := Text.lit "watching", place }

end NovelScript.Build
