import NovelScript.Cache.Handle
import NovelScript.Proofs.Cache.Upgrade
import NovelScript.Proofs.Files.Disk

/-!
# What an open cache finds and keeps

The table of builds has entries for documents, and an entry is found by its document and two
fingerprints. The first part says which entries of the table a task looks at and which it changes:
those of its own document (`Table.about`).

The second part is about the file of the cache. `Handle.builds?` is what a task works on.

* **`lookup_eq_ok`** and **`store_ok`** say what a task on the table does to the disk, and
  **`rows_store`** and **`rows_congr`** what happens to the entries of one document.
* **`Entries`** says that all entries of all caches on a disk have a property. Opening a cache,
  looking up and forgetting keep it, and so does keeping an entry that has it.
-/

namespace NovelScript.Cache

open Files (Disk)

/-! ## Tables -/

/-- An entry without its run and its time: the document, both fingerprints and the script. -/
def Entry.essence (e : Entry) : Text × Text × Text × Text :=
  (e.path, e.source, e.options, e.output)

namespace Table

/-- The entries of one document. -/
def about (path : Text) (t : Table) : Table :=
  t.filter (·.path == path)

/-- An entry is looked for among those of its document alone. -/
theorem lookup_about (t : Table) (path source options : Text) :
    (t.about path).lookup path source options = t.lookup path source options := by
  rw [lookup, lookup, about, List.find?_filter]
  congr 2
  funext e
  rw [Bool.eq_iff_iff]
  simp only [decide_eq_true_eq, Bool.and_eq_true, and_iff_right_iff_imp]
  exact fun h => h.1.1

/-- What is kept for a document is kept among its entries. -/
theorem about_store_self (e : Entry) (t : Table) :
    (store e t).about e.path = store e (t.about e.path) := by
  induction t with
  | nil => simp [store, about]
  | cons old more ih =>
    rw [store]
    split
    · rename_i h
      simp [about, store, h]
    · rename_i h
      have hb : (old.path == e.path) = false := by simpa using h
      rw [about, about, List.filter_cons, List.filter_cons, hb]
      exact ih

/-- What is kept is found. -/
theorem lookup_store (e : Entry) (t : Table) :
    (store e t).lookup e.path e.source e.options = some e.output := by
  induction t with
  | nil => simp [store, lookup]
  | cons old more ih =>
    rw [store]
    split
    · simp [lookup]
    · rename_i h
      have hb : (old.path == e.path) = false := by simpa using h
      rw [lookup, List.find?_cons_of_neg (by simp [hb])]
      exact ih

/-- The entries of all other documents stay as they are. With `about_store_self` this is all that
keeping an entry does to lookups. -/
theorem about_store_ne {e : Entry} {path : Text} (h : path ≠ e.path) (t : Table) :
    (store e t).about path = t.about path := by
  have he : (e.path == path) = false := by simpa using Ne.symm h
  induction t with
  | nil => simp [store, about, he]
  | cons old more ih =>
    rw [store]
    split
    · rename_i hold
      simp [about, hold, he]
    · rw [about, about, List.filter_cons, List.filter_cons]
      rw [about, about] at ih
      rw [ih]

/-- Keeping an entry brings no other one. -/
theorem mem_store {e x : Entry} {t : Table} (h : x ∈ store e t) : x = e ∨ x ∈ t := by
  induction t with
  | nil => exact .inl (by simpa [store] using h)
  | cons old more ih =>
    rw [store] at h
    split at h
    · rcases List.mem_cons.1 h with h | h
      · exact .inl h
      · exact .inr (List.mem_cons_of_mem _ h)
    · rcases List.mem_cons.1 h with rfl | h
      · exact .inr List.mem_cons_self
      · exact (ih h).imp_right (List.mem_cons_of_mem _)

/-- An entry is put where another one about the same document would be put. -/
theorem map_store {β : Type} {f : Entry → β} {e e' : Entry} (hpath : e.path = e'.path)
    (h : f e = f e') (t : Table) : (store e t).map f = (store e' t).map f := by
  induction t with
  | nil => simp [store, h]
  | cons old more ih =>
    rw [store, store, hpath]
    split
    · simp [h]
    · simp [ih]

/-- What is found is the script of an entry with these fingerprints. -/
theorem exists_of_lookup {t : Table} {path source options script : Text}
    (h : t.lookup path source options = some script) :
    ∃ e ∈ t, e.path = path ∧ e.source = source ∧ e.options = options ∧ e.output = script := by
  rw [lookup, Option.map_eq_some_iff] at h
  obtain ⟨e, he, rfl⟩ := h
  have hp := List.find?_some he
  simp only [Bool.and_eq_true, beq_iff_eq] at hp
  exact ⟨e, List.mem_of_find?_eq_some he, hp.1.1, hp.1.2, hp.2, rfl⟩

end Table

/-! ## Databases -/

namespace Database

/-- The entries of the table of builds, if there is one. -/
def entries (db : Database) : Table :=
  (db.builds.map (·.table)).getD []

/-- Making the table keeps all entries. A database without a table has none, and it has none
afterwards. -/
theorem entries_makeTable {db db' : Database} (h : db.makeTable = .ok db') :
    db'.entries = db.entries := by
  cases h
  cases hb : db.builds <;> simp [entries, hb]

/-- Adding the column for runs keeps the entries; their run is empty. -/
theorem entries_addRuns {db db' : Database} (h : db.addRuns = .ok db') :
    db'.entries = db.entries := by
  rw [addRuns] at h
  split at h
  · cases h
  · rename_i b hb
    split at h
    · cases h
    · cases h
      simp [entries, hb]

/-- Making the index keeps the entries, since the index is only there to find them faster. -/
theorem entries_makeIndex {db db' : Database} (h : db.makeIndex = .ok db') :
    db'.entries = db.entries := by
  rw [makeIndex] at h
  split at h
  · cases h
  · cases h
    rfl

/-- No statement of a step takes an entry away. -/
theorem entries_statement {step : List Statement} (hstep : step ∈ steps) {q : Statement}
    (hq : q ∈ step) {db db' : Database} (h : q db = .ok db') : db'.entries = db.entries := by
  simp only [steps, List.mem_cons, List.not_mem_nil, or_false] at hstep
  rcases hstep with rfl | rfl
  · obtain rfl := List.mem_singleton.mp hq
    exact entries_makeTable h
  · simp only [List.mem_cons, List.not_mem_nil, or_false] at hq
    rcases hq with rfl | rfl
    · exact entries_addRuns h
    · exact entries_makeIndex h

/-- A step that is kept takes no entry away; one that is undone leaves the tables as they were. -/
theorem entries_transact {trouble : Trouble} {number : Int} {step : List Statement}
    (hstep : step ∈ steps) {db db' : Database} (h : transact trouble number step db = .ok db') :
    db'.entries = db.entries := by
  have hfold : ∀ qs : List Statement, (∀ q ∈ qs, q ∈ step) → ∀ db mid,
      qs.foldlM (fun d q => q d) db = .ok mid → mid.entries = db.entries := by
    intro qs hqs
    induction qs with
    | nil =>
      intro db mid hmid
      cases hmid
      rfl
    | cons q more ih =>
      intro db mid hmid
      rw [List.foldlM_cons, except_bind_eq_ok] at hmid
      obtain ⟨first, hq, hmore⟩ := hmid
      rw [ih (fun q hq => hqs q (List.mem_cons_of_mem _ hq)) first mid hmore]
      exact entries_statement hstep (hqs q List.mem_cons_self) hq
  obtain ⟨-, mid, hmid, rfl⟩ := transact_eq_ok_iff.mp h
  exact hfold step (fun _ hq => hq) db mid hmid

/-- A run of steps to a newer form keeps all entries, wherever it stops. The steps are taken in
turn, and each of them may be the one that is refused. -/
theorem entries_climb {trouble : Trouble} {n : Int} {rest : List (List Statement)}
    (hrest : ∀ step ∈ rest, step ∈ steps) {db : Database} :
    (climb trouble n rest db).1.entries = db.entries := by
  induction rest generalizing n db with
  | nil => rfl
  | cons step more ih =>
    rw [climb]
    split
    · rfl
    · rename_i db' h
      rw [ih fun s hs => hrest s (List.mem_cons_of_mem _ hs)]
      exact entries_transact (hrest step List.mem_cons_self) h

/-- Whatever meets trouble, bringing a cache up to date keeps its entries. -/
theorem entries_upgrade (trouble : Trouble) (n : Int) (db : Database) :
    (upgrade trouble n db).1.entries = db.entries :=
  entries_climb fun _ h => List.mem_of_mem_drop h

/-- Bringing a cache up to date keeps its entries. -/
theorem entries_prepare (db : Database) : db.prepare.1.entries = db.entries := by
  rw [prepare]
  split
  · exact entries_upgrade .none 0 _
  · rfl
  · exact entries_upgrade .none _ db

/-- What is in a file after an entry was kept is that entry or was there before. -/
theorem mem_entries_store {db db' : Database} {e x : Entry} (h : db.store e = .ok db')
    (hx : x ∈ db'.entries) : x = e ∨ x ∈ db.entries := by
  rw [store] at h
  split at h
  · cases h
  · rename_i b hb
    split at h
    · cases h
      have hx : x ∈ b.table.store e := hx
      simpa [entries, hb] using Table.mem_store hx
    · cases h

/-- What is there after forgetting was there before. -/
theorem mem_entries_prune {db db' : Database} {cutoff : Int} {n : Nat} {x : Entry}
    (h : db.prune cutoff = .ok (db', n)) (hx : x ∈ db'.entries) : x ∈ db.entries := by
  rw [prune] at h
  split at h
  · cases h
  · rename_i b hb
    cases h
    have hx : x ∈ b.table.prune cutoff := hx
    simpa [entries, hb] using (List.mem_filter.1 hx).1

end Database

/-! ## Open caches -/

/-- A database that is read from a file is there, or it has no entries. A file that is missing
counts as an empty database. -/
theorem databaseAt_eq_ok {d : Disk Content} {path : Text} {db : Database}
    (h : databaseAt d path = .ok db) :
    d.find path = .ok (.file (.database db)) ∨ db = {} := by
  rw [databaseAt] at h
  split at h
  · rename_i c hc
    cases c with
    | text t =>
      cases t with
      | nil =>
        cases h
        exact .inr rfl
      | cons b r => cases h
    | database db' =>
      cases h
      exact .inl hc
    | pages ps => cases h
  · cases h
  · cases h
    exact .inr rfl
  · cases h

namespace Handle

/-- The table that tasks work on, if there is one that can be read. -/
def builds? (h : Handle) (d : Disk Content) : Option Builds :=
  (h.database false d).toOption.bind (·.builds)

/-- A task succeeds when the database can be reached and answers. -/
theorem ask_eq_ok {β : Type} {h : Handle} {f : Database → Except Fault β} {d : Disk Content} {b : β} :
    h.ask false f d = .ok b ↔ ∃ db, h.database false d = .ok db ∧ f db = .ok b := by
  rw [ask]
  cases h.database false d with
  | error e => simp [bind, Except.bind]
  | ok db => simp [bind, Except.bind]

/-- What a lookup gives, in terms of the table in the file. -/
theorem lookup_eq_ok {h : Handle} {d : Disk Content} {path source options : Text}
    {found : Option Text} :
    h.lookup false path source options d = .ok found ↔
      ∃ b, h.builds? d = some b ∧ b.table.lookup path source options = found := by
  rw [lookup, except_mapError_eq_ok, ask_eq_ok, builds?]
  cases h.database false d with
  | error e => simp [Except.toOption]
  | ok db =>
    cases hb : db.builds with
    | none => simp [Except.toOption, Database.lookup, hb]
    | some b => simp [Except.toOption, Database.lookup, hb]

/-- A database with a table is one that is on the disk. -/
theorem find_of_builds {h : Handle} {d : Disk Content} {db : Database} {b : Builds}
    (hdb : h.database false d = .ok db) (hb : db.builds = some b) :
    d.find h.path = .ok (.file (.database db)) := by
  rw [database] at hdb
  split at hdb
  · cases hdb
  · rw [if_neg (by simp)] at hdb
    rcases databaseAt_eq_ok hdb with hfind | rfl
    · exact hfind
    · cases hb

/-- A closed cache has no database. -/
theorem closed_of_database {h : Handle} {d : Disk Content} {db : Database}
    (hdb : h.database false d = .ok db) : h.closed = false := by
  cases hc : h.closed with
  | false => rfl
  | true =>
    rw [database, hc, if_pos rfl] at hdb
    cases hdb

/-- The table of a cache whose file holds a database. -/
theorem builds?_of_find {h : Handle} {d : Disk Content} {db : Database} (hopen : h.closed = false)
    (hfind : d.find h.path = .ok (.file (.database db))) : h.builds? d = db.builds := by
  rw [builds?, database, hopen, if_neg (by simp), if_neg (by simp), databaseAt, hfind]
  rfl

/-- Keeping an entry writes the file of the cache, which holds a database with a table afterwards,
and the entry in it. Where the file holds no database, or one without a table, nothing is kept. -/
theorem store_eq_ok {h : Handle} {d d' : Disk Content} {e : Entry}
    (hstore : h.store false e d = .ok d') :
    ∃ db b, h.closed = false ∧ d.find h.path = .ok (.file (.database db)) ∧ db.builds = some b ∧
      b.hasRuns = true ∧ d.write h.path
        (.database { db with builds := some { b with table := b.table.store e } }) = .ok d' := by
  rw [store] at hstore
  split at hstore
  · cases hstore
  split at hstore
  · rename_i db' hask
    cases hstore
    obtain ⟨db, hdb, hput⟩ := ask_eq_ok.1 hask
    rw [Database.store] at hput
    split at hput
    · cases hput
    · rename_i b hb
      split at hput
      · rename_i hruns
        cases hput
        have hfind := find_of_builds hdb hb
        obtain ⟨d', hwrite, -, -⟩ := Disk.write_of_find hfind
          (.database { db with builds := some { b with table := b.table.store e } })
        have hd' : putDatabase h.path { db with builds := some { b with table := b.table.store e } } d
            = d' := by
          rw [putDatabase, hwrite]
          rfl
        rw [hd']
        exact ⟨db, b, closed_of_database hdb, hfind, hb, hruns, hwrite⟩
      · cases hput
  · cases hstore

/-- What keeping an entry does: the entry is in the table, and no file but that of the cache
changes. -/
theorem store_ok {h : Handle} {d d' : Disk Content} {e : Entry} (hstore : h.store false e d = .ok d') :
    ∃ b, h.builds? d = some b ∧ b.hasRuns = true ∧
      h.builds? d' = some { b with table := b.table.store e } ∧
      d'.home = d.home ∧ ∀ p, p ≠ d.place h.path → d'.fileAt p = d.fileAt p := by
  obtain ⟨db, b, hopen, hfind, hb, hruns, hwrite⟩ := store_eq_ok hstore
  obtain ⟨d₁, hwrite₁, hhome, hfind'⟩ := Disk.write_of_find hfind
    (.database { db with builds := some { b with table := b.table.store e } })
  cases hwrite.symm.trans hwrite₁
  refine ⟨b, ?_, hruns, builds?_of_find hopen hfind', hhome, fun p hp => ?_⟩
  · rw [builds?_of_find hopen hfind, hb]
  · exact Disk.fileAt_write hwrite hp

/-- Whether an entry can be kept depends on its path and on the table only, not on its fingerprints
or on what is kept for other documents. -/
theorem store_isOk {h : Handle} {d : Disk Content} {e : Entry} :
    (∃ d', h.store false e d = .ok d') ↔
      Text.isBlank e.path = false ∧ ∃ b, h.builds? d = some b ∧ b.hasRuns = true := by
  constructor
  · rintro ⟨d', hstore⟩
    obtain ⟨b, hb, hruns, -⟩ := store_ok hstore
    refine ⟨?_, b, hb, hruns⟩
    rw [store] at hstore
    split at hstore
    · cases hstore
    · rename_i hblank
      simpa using hblank
  · rintro ⟨hblank, b, hb, hruns⟩
    rw [builds?] at hb
    cases hdb : h.database false d with
    | error f => simp [hdb, Except.toOption] at hb
    | ok db =>
      simp only [hdb, Except.toOption, Option.bind_some] at hb
      have hask : h.ask false (·.store e) d =
          .ok { db with builds := some { b with table := b.table.store e } } :=
        ask_eq_ok.2 ⟨db, hdb, by rw [Database.store, hb]; simp [hruns]⟩
      exact ⟨_, by rw [store, hblank, hask]; rfl⟩

/-- The entries of one document, and whether there is a column for runs. -/
def rows (h : Handle) (path : Text) (d : Disk Content) : Option (Bool × Table) :=
  (h.builds? d).map fun b => (b.hasRuns, b.table.about path)

/-- What a cache finds is found among the entries of the document. -/
theorem lookup_eq_some {h : Handle} {d : Disk Content} {path source options script : Text} :
    h.lookup false path source options d = .ok (some script) ↔
      ∃ runs t, h.rows path d = some (runs, t) ∧ t.lookup path source options = some script := by
  rw [lookup_eq_ok, rows]
  constructor
  · rintro ⟨b, hb, hfound⟩
    exact ⟨b.hasRuns, b.table.about path, by rw [hb]; rfl, by rw [Table.lookup_about, hfound]⟩
  · rintro ⟨runs, t, hrows, hfound⟩
    obtain ⟨b, hb, heq⟩ := Option.map_eq_some_iff.1 hrows
    cases heq
    exact ⟨b, hb, by rw [← Table.lookup_about, hfound]⟩

/-- Keeping an entry changes the entries of its document only. -/
theorem rows_store {h : Handle} {d d' : Disk Content} {e : Entry}
    (hstore : h.store false e d = .ok d') :
    ∃ t, h.rows e.path d = some (true, t) ∧ h.rows e.path d' = some (true, t.store e) ∧
      ∀ path, path ≠ e.path → h.rows path d' = h.rows path d := by
  obtain ⟨b, hb, hruns, hb', -⟩ := store_ok hstore
  refine ⟨b.table.about e.path, ?_, ?_, fun path hne => ?_⟩
  · rw [rows, hb, ← hruns]
    rfl
  · rw [rows, hb', Option.map_some, Table.about_store_self, ← hruns]
  · rw [rows, rows, hb, hb', Option.map_some, Option.map_some, Table.about_store_ne hne]

/-- Whether an entry can be kept is known from the entries of its document. -/
theorem exists_store_iff {h : Handle} {d : Disk Content} {e : Entry} :
    (∃ d', h.store false e d = .ok d') ↔
      Text.isBlank e.path = false ∧ ∃ t, h.rows e.path d = some (true, t) := by
  rw [store_isOk, rows]
  refine and_congr_right fun _ => ⟨?_, ?_⟩
  · rintro ⟨b, hb, hruns⟩
    exact ⟨_, by rw [hb, ← hruns]; rfl⟩
  · rintro ⟨t, ht⟩
    obtain ⟨b, hb, heq⟩ := Option.map_eq_some_iff.1 ht
    exact ⟨b, hb, congrArg Prod.fst heq⟩

/-- The table of a cache is what its file holds. -/
theorem builds?_eq_some {h : Handle} {d : Disk Content} {b : Builds} :
    h.builds? d = some b ↔
      h.closed = false ∧ ∃ db, d.read h.path = .ok (.database db) ∧ db.builds = some b := by
  constructor
  · intro hb
    rw [builds?] at hb
    cases hdb : h.database false d with
    | error f => simp [hdb, Except.toOption] at hb
    | ok db =>
      simp only [hdb, Except.toOption, Option.bind_some] at hb
      exact ⟨closed_of_database hdb, db, Disk.read_eq_ok.2 (find_of_builds hdb hb), hb⟩
  · rintro ⟨hopen, db, hread, hb⟩
    rw [builds?_of_find hopen (Disk.read_eq_ok.1 hread), hb]

/-- Where the file of a cache is the same, so are its entries. -/
theorem rows_congr {h : Handle} {d d' : Disk Content} (hdirect : Files.isDirect h.path = true)
    (hhome : d'.home = d.home) (hfile : d'.fileAt (d.place h.path) = d.fileAt (d.place h.path))
    (path : Text) : h.rows path d' = h.rows path d := by
  have hbuilds : h.builds? d' = h.builds? d := by
    refine Option.ext fun b => ?_
    rw [builds?_eq_some, builds?_eq_some]
    simp only [Disk.read_congr hdirect hhome hfile]
  rw [rows, rows, hbuilds]

end Handle

/-- The part of opening a cache that comes after its directory was made. -/
def openAt (path : Text) : Disk.Work Content OpenError Handle := fun d =>
  match databaseAt d path with
  | .error f => .error (.file (.file f)) d
  | .ok db =>
    match db.prepare.2 with
    | .error f => .error (.file f) (putDatabase path db.prepare.1 d)
    | .ok _ => .ok { path } (putDatabase path db.prepare.1 d)

/-- The opening of a cache part by part: its directory is made first, whether the call was called
off by then or not. -/
theorem openFile_eq (cancelled : Bool) (path : Text) :
    openFile cancelled path =
      Disk.change .directory (·.makeAll (Files.directory path)) >>= fun _ =>
        if cancelled then throw (.file (.file .cancelled)) else openAt path := by
  rw [openFile]
  refine bind_congr fun _ => ?_
  cases cancelled with
  | true => rfl
  | false =>
    funext d
    change (match databaseAt d path with
      | .error f => (throw (OpenError.file (.file f)) : Disk.Work Content OpenError Handle)
      | .ok db => (modify (putDatabase path db.prepare.1) >>= fun _ => match db.prepare.2 with
        | .error f => throw (OpenError.file f)
        | .ok _ => pure { path := path })) d = openAt path d
    rw [openAt]
    cases databaseAt d path with
    | error f => rfl
    | ok db =>
      dsimp only
      cases db.prepare.2 <;> rfl

/-! ## All caches of a disk -/

/-- All entries of all caches on the disk have the property. -/
def Entries (P : Entry → Prop) (d : Disk Content) : Prop :=
  ∀ db, Content.database db ∈ d.contents → ∀ e ∈ db.entries, P e

namespace Entries

variable {P : Entry → Prop} {d d' : Disk Content}

/-- A weaker property of all entries. -/
theorem mono {Q : Entry → Prop} (h : Entries P d) (hPQ : ∀ e, P e → Q e) : Entries Q d :=
  fun db hdb e he => hPQ e (h db hdb e he)

/-- New files that are no caches do not matter. -/
theorem brings {new : List Content} (h : Entries P d) (hb : Disk.Brings new d d')
    (hnew : ∀ db, Content.database db ∈ new → ∀ e ∈ db.entries, P e) : Entries P d' := by
  intro db hdb
  rcases hb _ hdb with hold | hn
  · exact h db hold
  · exact hnew db hn

/-- All entries of the database behind a path have the property when all entries on the disk have
it. -/
theorem database {path : Text} {db : Database} (h : Entries P d)
    (hdb : databaseAt d path = .ok db) : ∀ e ∈ db.entries, P e := by
  rcases databaseAt_eq_ok hdb with hfind | rfl
  · refine h db (Files.Entry.mem_contents_of_get? (Disk.get?_of_find hfind) ?_)
    simp [Files.Entry.contents]
  · intro e he
    cases he

/-- All entries behind an open cache have the property when all entries on the disk have it. -/
theorem handle {hd : Handle} {db : Database} (h : Entries P d)
    (hdb : hd.database false d = .ok db) : ∀ e ∈ db.entries, P e := by
  rw [Handle.database] at hdb
  split at hdb
  · cases hdb
  · exact h.database hdb

/-- Writing a database keeps the property when the entries of that database have it. -/
theorem putDatabase {path : Text} {db : Database} (h : Entries P d) (hdb : ∀ e ∈ db.entries, P e) :
    Entries P (putDatabase path db d) := by
  rw [Cache.putDatabase]
  cases hw : d.write path (.database db) with
  | error e => exact h
  | ok d' =>
    refine h.brings (Disk.brings_write hw) fun db' hmem => ?_
    cases List.mem_singleton.1 hmem
    exact hdb

/-- What a cache finds is the script of an entry with the property. -/
theorem lookup {hd : Handle} {path source options script : Text} (h : Entries P d)
    (hlookup : hd.lookup false path source options d = .ok (some script)) :
    ∃ e, P e ∧ e.path = path ∧ e.source = source ∧ e.options = options ∧ e.output = script := by
  obtain ⟨b, hb, hfound⟩ := Handle.lookup_eq_ok.1 hlookup
  obtain ⟨e, he, heq⟩ := Table.exists_of_lookup hfound
  rw [Handle.builds?] at hb
  cases hdb : hd.database false d with
  | error f => simp [hdb, Except.toOption] at hb
  | ok db =>
    simp only [hdb, Except.toOption, Option.bind_some] at hb
    exact ⟨e, h.handle hdb e (by simpa [Database.entries, hb] using he), heq⟩

/-- Keeping an entry keeps the property when the entry has it. -/
theorem store {hd : Handle} {e : Entry} (h : Entries P d) (he : P e)
    (hstore : hd.store false e d = .ok d') : Entries P d' := by
  rw [Handle.store] at hstore
  split at hstore
  · cases hstore
  split at hstore
  · rename_i db' hask
    cases hstore
    obtain ⟨db, hdb, hput⟩ := Handle.ask_eq_ok.1 hask
    refine h.putDatabase fun x hx => ?_
    rcases Database.mem_entries_store hput hx with rfl | hx
    · exact he
    · exact h.handle hdb x hx
  · cases hstore

/-- Forgetting keeps it. -/
theorem prune {hd : Handle} {cutoff : Int} {n : Nat} (h : Entries P d)
    (hprune : hd.prune false cutoff d = .ok (d', n)) : Entries P d' := by
  rw [Handle.prune] at hprune
  split at hprune
  · rename_i db' m hask
    cases hprune
    obtain ⟨db, hdb, hput⟩ := Handle.ask_eq_ok.1 hask
    exact h.putDatabase fun x hx => h.handle hdb x (Database.mem_entries_prune hput hx)
  · cases hprune

/-- Opening a cache brings no new entries, even when it fails. It may make the directory and the
table, and it may change the form of the table, in any of its steps. -/
theorem keeps_openFile (cancelled : Bool) (path : Text) :
    Files.Keeps (fun d d' => Entries P d → Entries P d') (openFile cancelled path) := by
  have htrans {d₁ d₂ d₃ : Disk Content} (h₁ : Entries P d₁ → Entries P d₂)
      (h₂ : Entries P d₂ → Entries P d₃) : Entries P d₁ → Entries P d₃ := fun h => h₂ (h₁ h)
  rw [openFile_eq]
  refine Files.Keeps.bind (R := fun d d' => Entries P d → Entries P d') htrans
    (Disk.keeps_change (fun _ h => h) _ fun d d' hd h => h.brings (Disk.brings_makeAll hd) (by simp))
    fun _ => ?_
  split
  · exact Files.Keeps.throw (fun _ h => h) _
  intro d
  rw [openAt]
  cases hdb : databaseAt d path with
  | error f =>
    refine ⟨fun b d' h => (nomatch h), fun e d' h => ?_⟩
    cases h
    exact fun h => h
  | ok db =>
    have hput : Entries P d → Entries P (Cache.putDatabase path db.prepare.1 d) := fun h =>
      h.putDatabase fun e he => h.database hdb e (by rwa [Database.entries_prepare] at he)
    dsimp only
    cases db.prepare.2 with
    | error f =>
      refine ⟨fun b d' h => (nomatch h), fun e d' h => ?_⟩
      cases h
      exact hput
    | ok u =>
      refine ⟨fun b d' h => ?_, fun e d' h => (nomatch h)⟩
      cases h
      exact hput

end Entries

end NovelScript.Cache
