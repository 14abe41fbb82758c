import NovelScript.Cache.Server

/-!
# Rehearsals

A server that answers from a plan and keeps a list of what it was asked. It knows the record of
versions, fails at one call of the plan, and keeps what a transaction did only when that is
committed. What the cache does with a server, and what it leaves behind when a call fails, shows in
such a rehearsal.
-/

namespace NovelScript.Cache

/-- The answers of a rehearsal. -/
structure Plan where
  /-- Is there a row in the record that holds no version? -/
  badRow : Bool := false
  /-- Are the rows of the record cut short? -/
  rowsFail : Bool := false
  /-- How many rows any statement changes. -/
  affected : Int := 0
  /-- Is that number not to be had? -/
  affectedFails : Bool := false
  /-- The script of every document. -/
  output : Option Text := none
  /-- How much is in the table. -/
  stats : List Cell := [.int 0, .int 0, .null, .null]
  /-- The call that fails, counted from one; zero for none. -/
  failAt : Nat := 0

/-- How far a rehearsal is. -/
structure Rehearsal where
  /-- The versions in the record. -/
  recorded : List Int := []
  /-- The versions that the open transaction has recorded. -/
  pending : List Int := []
  /-- The calls so far. -/
  calls : List Call := []
deriving DecidableEq

namespace Plan

/-- The rows of the record. -/
def versionRows (p : Plan) (r : Rehearsal) : List (List Cell) :=
  r.recorded.map (fun v => [.int v]) ++ if p.badRow then [[.text (Text.lit "one")]] else []

/-- The answer to a statement that asks for rows. -/
def rowsOf (p : Plan) (r : Rehearsal) (statement : Text) : Answer :=
  if Text.includes (Text.lit "schema_migrations") statement then
    { rows := p.versionRows r
      broken := if p.rowsFail then some (.said (Text.lit "connection lost")) else none }
  else if Text.includes (Text.lit "COUNT") statement then { rows := [p.stats] }
  else { rows := (p.output.map fun o => [Cell.text o]).toList }

/-- What a call does when it is not refused. -/
def perform (p : Plan) (c : Call) (r : Rehearsal) : Answer × Rehearsal :=
  match c with
  | .query statement _ => (p.rowsOf r statement, r)
  | .exec statement values =>
    let affected : Except Fault Int :=
      if p.affectedFails then .error (.said (Text.lit "affected rows unknown")) else .ok p.affected
    let more := if statement == Server.recordStatement then
        (values.head?.bind fun v => (Text.int64? v).toOption).toList
      else []
    ({ affected }, { r with pending := r.pending ++ more })
  | .begin => ({}, { r with pending := [] })
  | .commit => ({}, { r with recorded := r.recorded ++ r.pending, pending := [] })
  | .rollback => ({}, { r with pending := [] })

/-- The server of a plan. -/
def server (p : Plan) : Server Rehearsal where
  call c r :=
    let r := { r with calls := r.calls ++ [c] }
    if r.calls.length = p.failAt then (.error (.said (Text.lit "injected failure")), r)
    else
      let (a, r) := p.perform c r
      (.ok a, r)

end Plan

end NovelScript.Cache
