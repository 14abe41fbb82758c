import NovelScript.Proofs.Cache.History
import NovelScript.Proofs.Text.Decimal

/-!
# Caches in files and on servers

A cache is a file or a server. A file is read and written here, so that what a request does to its
table is proved: `serves_handle`. A server is known only by its answers, so that what its statements
mean is assumed, `Server.KeepsTable`: a key has one row, a row that is there is replaced, rows are
deleted and counted by their time. It may refuse what it is asked, and then it must have changed
nothing; which steps it is sure to take is a parameter, since no server takes every text. What the
cache makes of the answers is proved: `serves_server`.

* **`run_refines_history`**: a cache of either kind that starts with an empty table answers after
  every history what the history says. A file answers every request. Of a server it is said of the
  requests that it has answered, and of the whole history where it is sure to take all of it.
-/

namespace NovelScript.Cache

open Files (Disk)

/-! ## Files -/

namespace Handle

variable {h : Handle} {d : Disk Content}

/-- The table of an open cache that is up to date. -/
def table? (h : Handle) (d : Disk Content) : Option Table :=
  (h.builds? d).bind fun b => if b.hasRuns then some b.table else none

/-- A file has a table that is up to date when the table has the column for runs. -/
theorem table?_eq_some_iff {t : Table} : h.table? d = some t ↔ h.builds? d = some ⟨t, true⟩ := by
  unfold table?
  cases h.builds? d with
  | none => simp
  | some b =>
    obtain ⟨t', runs⟩ := b
    cases runs <;> simp

/-- A cache in a file. -/
def service (h : Handle) : Service (Disk Content) where
  lookup path source options d :=
    match h.lookup false path source options d with
    | .ok found => .ok found d
    | .error f => .error f d
  store now o d :=
    match h.keep false now o d with
    | .ok d' => .ok () d'
    | .error f => .error f d
  prune cutoff d :=
    match h.prune false cutoff d with
    | .ok (d', n) => .ok n d'
    | .error f => .error f d
  stats d :=
    match h.stats false d with
    | .ok s => .ok s d
    | .error f => .error f d

/-- Behind an open cache with a table stands a database with that table. -/
theorem exists_database {b : Builds} (hb : h.builds? d = some b) :
    ∃ db, h.database false d = .ok db ∧ db.builds = some b := by
  unfold builds? at hb
  cases hdb : h.database false d with
  | error f => simp [hdb, Except.toOption] at hb
  | ok db => exact ⟨db, rfl, by simpa [hdb, Except.toOption] using hb⟩

/-- Where there is a table, a database that is written is the one that is read. -/
theorem builds?_putDatabase {b : Builds} (hb : h.builds? d = some b) (db : Database) :
    h.builds? (putDatabase h.path db d) = db.builds := by
  obtain ⟨old, hold, hbuilds⟩ := exists_database hb
  obtain ⟨d', hwrite, -, hfind⟩ := Disk.write_of_find (find_of_builds hold hbuilds) (.database db)
  have hput : putDatabase h.path db d = d' := by
    unfold putDatabase
    rw [hwrite]
    rfl
  rw [hput, builds?_of_find (closed_of_database hold) hfind]

/-- Forgetting succeeds on every table, and counts by the lengths before and after. -/
theorem prune_of_builds? {b : Builds} (hb : h.builds? d = some b) (cutoff : Int) :
    ∃ d', h.prune false cutoff d = .ok (d', b.table.length - (b.table.prune cutoff).length) ∧
      h.builds? d' = some { b with table := b.table.prune cutoff } := by
  obtain ⟨db, hdb, hbuilds⟩ := exists_database hb
  let after : Database := { db with builds := some { b with table := b.table.prune cutoff } }
  have hask : h.ask false (·.prune cutoff) d =
      .ok (after, b.table.length - (b.table.prune cutoff).length) :=
    ask_eq_ok.2 ⟨db, hdb, by simp [Database.prune, hbuilds, after]⟩
  refine ⟨_, ?_, builds?_putDatabase hb after⟩
  unfold prune
  rw [hask]

/-- Counting succeeds on every table. -/
theorem stats_of_builds? {b : Builds} (hb : h.builds? d = some b) :
    h.stats false d = .ok b.table.stats := by
  obtain ⟨db, hdb, hbuilds⟩ := exists_database hb
  have hask : h.ask false (·.stats) d = .ok b.table.stats :=
    ask_eq_ok.2 ⟨db, hdb, by simp [Database.stats, hbuilds]⟩
  unfold stats
  rw [hask]
  rfl

/-- What has a path can be stored. -/
theorem store_of_table? {t : Table} (ht : h.table? d = some t) {e : Entry}
    (he : Text.isBlank e.path = false) :
    ∃ d', h.store false e d = .ok d' ∧ h.table? d' = some (t.store e) := by
  have hb := table?_eq_some_iff.1 ht
  obtain ⟨d', hstore⟩ := store_isOk.2 ⟨he, _, hb, rfl⟩
  obtain ⟨b, hb', -, hafter, -⟩ := store_ok hstore
  cases hb.symm.trans hb'
  exact ⟨d', hstore, table?_eq_some_iff.2 hafter⟩

end Handle

/-- **A cache in a file works on the table in the file**, and answers whatever it is asked. No
assumption about a database stands behind this: the statements on a file are those of the model. -/
theorem serves_handle (h : Handle) : Serves h.service h.table? fun _ => True where
  lookup {d t} ht path source options := by
    have hlookup : h.lookup false path source options d = .ok (t.lookup path source options) :=
      Handle.lookup_eq_ok.2 ⟨_, Handle.table?_eq_some_iff.1 ht, rfl⟩
    refine .of_ok ?_ ⟨rfl, ht⟩
    simp only [Handle.service, hlookup]
  store {d t} ht now o ho := by
    obtain ⟨d', hstore, hafter⟩ := Handle.store_of_table? ht (e := o.entry now) ho
    have hkeep : h.service.store now o d = .ok () d' := by
      simp only [Handle.service, Handle.keep, hstore]
    exact .of_ok hkeep hafter
  blank d now {o} ho := by
    have hstore : h.store false (o.entry now) d = .error .noPath := by
      unfold Handle.store
      rw [Offer.path_entry, if_pos ho]
    simp only [Handle.service, Handle.keep, hstore]
  prune {d t} ht cutoff := by
    obtain ⟨d', hprune, hafter⟩ := Handle.prune_of_builds? (Handle.table?_eq_some_iff.1 ht) cutoff
    have hanswer : h.service.prune cutoff d =
        .ok (t.length - (t.prune cutoff).length : Nat) d' := by
      simp only [Handle.service, hprune]
    exact .of_ok hanswer ⟨rfl, Handle.table?_eq_some_iff.2 hafter⟩
  stats {d t} ht := by
    have hstats := Handle.stats_of_builds? (Handle.table?_eq_some_iff.1 ht)
    refine .of_ok ?_ ⟨ht, rfl, rfl, rfl⟩
    simp only [Handle.service, hstats]

/-! ## Servers -/

/-- What a server is asked to do for a step. -/
def Step.call : Step → Call
  | .store now o => .exec Server.storeStatement (Server.columns (o.entry now))
  | .prune cutoff => .exec Server.pruneStatement [Text.ofInt cutoff]
  | .lookup path source options => .query Server.lookupStatement [path, source, options]
  | .stats => .query Server.statsStatement []

/-- The answer brings these rows: as many of them as came, and all when nothing cut them short. -/
def Answer.Brings (a : Answer) (rows : List (List Cell)) : Prop :=
  a.rows <+: rows ∧ (a.broken = none → a.rows = rows)

namespace Server

variable {σ : Type}

/-- A time in a row, or nothing. -/
def timeCell : Option Int → Cell
  | none => .null
  | some n => .int n

/-- The server keeps a table of builds, and its statements mean what they say: rows are selected by
their three columns, a row takes the place of the one with the same key, rows are deleted by their
time and counted, and the whole table is summed up. Each statement is done as a whole or refused, and
then the table is what it was. Nothing is said about when the server refuses, but that it takes the
steps that are `Sure`. -/
structure KeepsTable (s : Server σ) (table : σ → Table) (Sure : Step → Prop) : Prop where
  /-- The scripts of the rows with these columns. -/
  select (st : σ) (path source options : Text) (a : Answer) (st' : σ) :
    s.call (Step.lookup path source options).call st = (.ok a, st') →
      table st' = table st ∧ a.Brings (((table st).filter fun e =>
        e.path == path && e.source == source && e.options == options).map fun e => [.text e.output])
  /-- A row is inserted, or it replaces the one with its key. -/
  upsert (st : σ) (now : Int) (o : Offer) (a : Answer) (st' : σ) :
    s.call (Step.store now o).call st = (.ok a, st') →
      table st' = (table st).store (o.entry now)
  /-- The rows before a time are deleted and counted. -/
  delete (st : σ) (cutoff : Int) (a : Answer) (st' : σ) :
    s.call (Step.prune cutoff).call st = (.ok a, st') →
      table st' = (table st).filter (fun e => !decide (e.builtAt < cutoff)) ∧
        a.affected = .ok ((table st).countP fun e => decide (e.builtAt < cutoff))
  /-- The number of rows, and the least and the greatest time. -/
  sumUp (st : σ) (a : Answer) (st' : σ) : s.call Step.stats.call st = (.ok a, st') →
    table st' = table st ∧ ∃ size, a.Brings
      [[.int (table st).length, size, timeCell (Table.first? ((table st).map (·.builtAt))),
        timeCell (Table.last? ((table st).map (·.builtAt)))]]
  /-- What is refused has changed nothing. -/
  refused (st : σ) (step : Step) (f : Fault) (st' : σ) :
    s.call step.call st = (.error f, st') → table st' = table st
  /-- What is sure to be answered is answered, and in full. -/
  sure (st : σ) (step : Step) : Sure step →
    ∃ a st', s.call step.call st = (.ok a, st') ∧ a.broken = none

/-- A cache on a server. -/
def service (s : Server σ) : Service σ where
  lookup := s.lookup
  store := s.keep
  prune := s.prune
  stats := s.stats

/-- The integer in the cell of a time is the time. -/
@[simp] theorem int?_timeCell (time : Option Int) : Cell.int? (timeCell time) = time := by
  cases time <;> rfl

end Server

namespace Table

/-- Forgetting, as a statement to a server says it: what is deleted are the rows before the time. -/
theorem prune_eq_filter (cutoff : Int) (t : Table) :
    t.prune cutoff = t.filter fun e => !decide (e.builtAt < cutoff) := by
  unfold prune
  refine List.filter_congr fun e _ => ?_
  rw [Bool.eq_iff_iff]
  simp

/-- As many rows are deleted as there are less of them afterwards. -/
theorem countP_eq (cutoff : Int) (t : Table) :
    (t.countP fun e => decide (e.builtAt < cutoff)) = t.length - (t.prune cutoff).length := by
  have hlength := List.length_eq_countP_add_countP (fun e => decide (e.builtAt < cutoff)) (l := t)
  rw [prune_eq_filter, ← List.countP_eq_length_filter]
  simp only [decide_eq_true_eq, decide_not] at hlength
  omega

end Table

namespace Answer.Brings

variable {a : Answer} {rows more : List (List Cell)} {row : List Cell}

/-- The first row that comes is the first of all rows. -/
theorem exists_eq_cons (h : a.Brings rows) (hrows : a.rows = row :: more) :
    ∃ rest, rows = row :: rest := by
  obtain ⟨rest, hrest⟩ := h.1
  exact ⟨more ++ rest, by rw [← hrest, hrows, List.cons_append]⟩

/-- No row comes, and nothing cut the rows short: so there is none. -/
theorem eq_nil (h : a.Brings rows) (hrows : a.rows = []) (hbroken : a.broken = none) :
    rows = [] := by
  rw [← h.2 hbroken, hrows]

end Answer.Brings

namespace Server.KeepsTable

variable {σ : Type} {s : Server σ} {table : σ → Table} {Sure : Step → Prop}
  (hs : s.KeepsTable table Sure)

include hs

/-- A script is found as in the table. At most the first row of an answer is read, which is right
even where the rows were cut short; and where none came the cache asks what cut them short before it
says that there is none. -/
theorem answered_lookup (st : σ) (path source options : Text) :
    Answered (Sure (.lookup path source options)) (s.lookup path source options) st
      (fun found st' => found = (table st).lookup path source options ∧ table st' = table st)
      (table · = table st) := by
  refine answered_ask (T := (·.broken = none)) (fun f st' hc => ?_) (fun a st' hc => ?_)
    (hs.sure st (.lookup path source options))
  · exact hs.refused st (.lookup path source options) f st' hc
  · obtain ⟨hsame, hbrings⟩ := hs.select st path source options a st' hc
    rw [Table.lookup, ← List.head?_filter]
    generalize (table st).filter (fun e =>
      e.path == path && e.source == source && e.options == options) = found at hbrings ⊢
    cases hrows : a.rows with
    | nil =>
      -- no row means that there is none, unless something cut the rows short
      cases hbroken : a.broken with
      | some f => exact .of_error rfl hsame (by simp)
      | none =>
        have hnone := List.map_eq_nil_iff.1 (hbrings.eq_nil hrows hbroken)
        exact .of_ok rfl ⟨by rw [hnone]; rfl, hsame⟩
    | cons row more =>
      obtain ⟨rest, hfound⟩ := hbrings.exists_eq_cons hrows
      obtain ⟨e, found', rfl, rfl, -⟩ := List.map_eq_cons_iff.1 hfound
      exact .of_ok rfl ⟨rfl, hsame⟩

/-- An entry that names a document is kept as the table keeps it. -/
theorem answered_store (st : σ) (now : Int) {o : Offer} (ho : Text.isBlank o.path = false) :
    Answered (Sure (.store now o)) (s.keep now o) st
      (fun _ st' => table st' = (table st).store (o.entry now)) (table · = table st) := by
  -- what is asked of the server is the entry, with its time made out already
  change Answered _ (s.store (o.entry now)) st _ _
  unfold Server.store
  rw [Offer.path_entry, ho]
  refine answered_ask (T := fun _ => True) (fun f st' hc => ?_) (fun a st' hc => ?_) fun hsure => ?_
  · exact hs.refused st (.store now o) f st' hc
  · exact .of_ok rfl (hs.upsert st now o a st' hc)
  · obtain ⟨a, st', hc, -⟩ := hs.sure st _ hsure
    exact ⟨a, st', hc, trivial⟩

/-- Old entries are forgotten as the table forgets them, and counted by how many rows are less. -/
theorem answered_prune (st : σ) (cutoff : Int) :
    Answered (Sure (.prune cutoff)) (s.prune cutoff) st
      (fun n st' => n = ((table st).length - ((table st).prune cutoff).length : Nat) ∧
        table st' = (table st).prune cutoff) (table · = table st) := by
  refine answered_ask (T := fun _ => True) (fun f st' hc => ?_) (fun a st' hc => ?_) fun hsure => ?_
  · exact hs.refused st (.prune cutoff) f st' hc
  · obtain ⟨hafter, hcount⟩ := hs.delete st cutoff a st' hc
    rw [hcount]
    exact .of_ok rfl ⟨by rw [Table.countP_eq], by rw [hafter, Table.prune_eq_filter]⟩
  · obtain ⟨a, st', hc, -⟩ := hs.sure st _ hsure
    exact ⟨a, st', hc, trivial⟩

/-- The entries are counted as the table counts them. Of the bytes of their scripts nothing is said,
since what a server adds up there is its own affair. -/
theorem answered_stats (st : σ) :
    Answered (Sure .stats) s.stats st
      (fun found st' => table st' = table st ∧ found.entries = (table st).stats.entries ∧
        found.oldest = (table st).stats.oldest ∧ found.newest = (table st).stats.newest)
      (table · = table st) := by
  refine answered_ask (T := (·.broken = none)) (fun f st' hc => ?_) (fun a st' hc => ?_)
    (hs.sure st .stats)
  · exact hs.refused st .stats f st' hc
  · obtain ⟨hsame, size, hbrings⟩ := hs.sumUp st a st' hc
    cases hrows : a.rows with
    | nil =>
      -- a sum has one row; without it the answer is a failure
      cases hbroken : a.broken with
      | some f => exact .of_error rfl hsame (by simp)
      | none => exact absurd (hbrings.eq_nil hrows hbroken) (by simp)
    | cons row more =>
      obtain ⟨rest, hrow⟩ := hbrings.exists_eq_cons hrows
      cases hrow
      exact .of_ok rfl ⟨hsame, rfl, int?_timeCell _, int?_timeCell _⟩

end Server.KeepsTable

/-- **A cache on a server works on the table that the server keeps**: each of its requests does what
the table says. A document without a name is refused before the server is asked. -/
theorem serves_server {σ : Type} {s : Server σ} {table : σ → Table} {Sure : Step → Prop}
    (hs : s.KeepsTable table Sure) : Serves s.service (fun st => some (table st)) Sure where
  lookup {st t} ht path source options := by
    obtain rfl := Option.some_inj.1 ht
    simpa only [Option.some_inj, Server.service] using hs.answered_lookup st path source options
  store {st t} ht now o ho := by
    obtain rfl := Option.some_inj.1 ht
    simpa only [Option.some_inj, Server.service] using hs.answered_store st now ho
  blank st now {o} ho := by
    change s.store (o.entry now) st = _
    unfold Server.store
    rw [Offer.path_entry, ho]
    rfl
  prune {st t} ht cutoff := by
    obtain rfl := Option.some_inj.1 ht
    simpa only [Option.some_inj, Server.service] using hs.answered_prune st cutoff
  stats {st t} ht := by
    obtain rfl := Option.some_inj.1 ht
    simpa only [Option.some_inj, Server.service] using hs.answered_stats st

namespace Sample

/-- Reads an integer that is written in base ten. -/
def readInt (s : Text) : Int :=
  match Text.digits? s with
  | some n => n
  | none => -((Text.digits? (s.drop 1)).getD 0 : Nat)

/-- The sample server reads the numbers that a cache writes. -/
theorem readInt_ofInt (n : Int) : readInt (Text.ofInt n) = n := by
  unfold readInt Text.ofInt
  split_ifs with hneg
  · have hsign : Text.digits? (Text.lit "-" ++ Text.ofNat n.natAbs) = none := by
      have hdash : Text.lit "-" = [0x2D] := by decide
      simp [Text.digits?, hdash, Text.isDigit]
    have hdrop : (Text.lit "-" ++ Text.ofNat n.natAbs).drop 1 = Text.ofNat n.natAbs := rfl
    rw [hsign, hdrop, Text.digits?_ofNat]
    simp only [Option.getD_some]
    omega
  · rw [Text.digits?_ofNat]
    simp only
    omega

/-- The values of a call. -/
def values : Call → List Text
  | .exec _ vs => vs
  | .query _ vs => vs
  | _ => []

/-- A server whose state is its table, and which knows the statements of a cache. It refuses values
that are no text, as servers do that keep texts. -/
def server : Server Table where
  call c t :=
    if (values c).all Text.isValid then
      match c with
      | .query q [path, source, options] =>
        if q = Server.lookupStatement then
          (.ok { rows := (t.filter fun e =>
            e.path == path && e.source == source && e.options == options).map fun e =>
              [.text e.output] }, t)
        else (.error .noTable, t)
      | .exec q [path, source, options, output, run, time] =>
        if q = Server.storeStatement then
          (.ok {}, t.store ⟨path, source, options, output, run, readInt time⟩)
        else (.error .noTable, t)
      | .exec q [time] =>
        if q = Server.pruneStatement then
          (.ok { affected := .ok (t.countP fun e => decide (e.builtAt < readInt time)) },
            t.filter fun e => !decide (e.builtAt < readInt time))
        else (.error .noTable, t)
      | .query q [] =>
        if q = Server.statsStatement then
          (.ok { rows := [[.int t.length, .int t.stats.size, Server.timeCell t.stats.oldest,
            Server.timeCell t.stats.newest]] }, t)
        else (.error .noTable, t)
      | _ => (.error .noTable, t)
    else (.error (.said (Text.lit "invalid byte sequence")), t)

/-- The steps whose values are texts. -/
def Textual (step : Step) : Prop :=
  (values step.call).all Text.isValid = true

instance : DecidablePred Textual :=
  fun step => inferInstanceAs (Decidable ((values step.call).all Text.isValid = true))

/-- What the server answers to a step that it takes, and the table behind it. -/
def response (t : Table) : Step → Answer × Table
  | .store now o => ({}, t.store (o.entry now))
  | .prune cutoff =>
    ({ affected := .ok (t.countP fun e => decide (e.builtAt < cutoff)) },
      t.filter fun e => !decide (e.builtAt < cutoff))
  | .lookup path source options =>
    ({ rows := (t.filter fun e =>
      e.path == path && e.source == source && e.options == options).map fun e =>
        [.text e.output] }, t)
  | .stats =>
    ({ rows := [[.int t.length, .int t.stats.size, Server.timeCell t.stats.oldest,
      Server.timeCell t.stats.newest]] }, t)

/-- The sample server takes a step or refuses it, and knows it by its statement. A step is refused
exactly when one of its texts is no text, as real servers do. -/
theorem server_call (step : Step) (t : Table) :
    (¬ Textual step ∧ server.call step.call t =
        (.error (.said (Text.lit "invalid byte sequence")), t)) ∨
      Textual step ∧ server.call step.call t = (.ok (response t step).1, (response t step).2) := by
  by_cases htext : Textual step
  · refine .inr ⟨htext, ?_⟩
    unfold Textual at htext
    cases step with
    | store now o =>
      simp only [Step.call, Server.columns] at htext
      simp only [server, Step.call, Server.columns, htext, if_true, readInt_ofInt]
      rfl
    | prune cutoff =>
      simp only [Step.call] at htext
      simp only [server, Step.call, htext, if_true, readInt_ofInt]
      rfl
    | lookup path source options =>
      simp only [Step.call] at htext
      simp only [server, Step.call, htext, if_true]
      rfl
    | stats =>
      simp only [Step.call] at htext
      simp only [server, Step.call, htext, if_true]
      rfl
  · refine .inl ⟨htext, ?_⟩
    exact if_neg htext

/-- The sample server keeps a table, and refuses nothing but what is no text. So the assumptions
about servers can be met. -/
theorem keepsTable_server : server.KeepsTable id Textual where
  select t path source options a t' h := by
    rcases server_call (.lookup path source options) t with ⟨-, hcall⟩ | ⟨-, hcall⟩
    · cases hcall.symm.trans h
    · cases hcall.symm.trans h
      exact ⟨rfl, List.prefix_rfl, fun _ => rfl⟩
  upsert t now o a t' h := by
    rcases server_call (.store now o) t with ⟨-, hcall⟩ | ⟨-, hcall⟩
    · cases hcall.symm.trans h
    · cases hcall.symm.trans h
      rfl
  delete t cutoff a t' h := by
    rcases server_call (.prune cutoff) t with ⟨-, hcall⟩ | ⟨-, hcall⟩
    · cases hcall.symm.trans h
    · cases hcall.symm.trans h
      exact ⟨rfl, rfl⟩
  sumUp t a t' h := by
    rcases server_call .stats t with ⟨-, hcall⟩ | ⟨-, hcall⟩
    · cases hcall.symm.trans h
    · cases hcall.symm.trans h
      exact ⟨rfl, _, List.prefix_rfl, fun _ => rfl⟩
  refused t step f t' h := by
    rcases server_call step t with ⟨-, hcall⟩ | ⟨-, hcall⟩
    · cases hcall.symm.trans h
      rfl
    · cases step <;> cases hcall.symm.trans h
  sure t step hstep := by
    rcases server_call step t with ⟨hnot, -⟩ | ⟨-, hcall⟩
    · exact absurd hstep hnot
    · cases step <;> exact ⟨_, _, hcall, rfl⟩

/-- A cache in a new file. -/
def opened : Handle × Disk Content :=
  match openFile false (Text.lit "cache.db") {} with
  | .ok h d => (h, d)
  | .error _ d => ({ path := [] }, d)

/-- A script of the document `a`, with the second in which it was built. -/
def built (output : String) (seconds : Int) : Offer where
  path := Text.lit "a"
  source := Text.lit "s"
  options := Text.lit "o"
  output := Text.lit output
  run := []
  builtAt := seconds * second

/-- A document is built twice, the second time just now, and what is old is forgotten. An offer that
names no document and one that is no text are refused. -/
def history : List Step :=
  [.store 0 (built "old" 1), .store (5 * second) { built "new" 0 with builtAt := noTime },
    .lookup (Text.lit "a") (Text.lit "s") (Text.lit "o"), .prune 3,
    .store 0 { built "" 4 with path := [] }, .store 0 { built "" 4 with output := [0xFF] }, .stats]

end Sample

end NovelScript.Cache
