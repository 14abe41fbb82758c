import Mathlib
import NovelScript.Command.Perform
import NovelScript.Proofs.Cache.Handle

/-!
# What is forgotten

A number of days is made a number of nanoseconds of 64 bits before the cutoff is computed from it.

* `cutoff_of_le` and `lt_cutoff_of_lt` say where the cutoff lies: where it should for 106751 days and
  fewer, and too late for more.
* **`pruneCache_of_holds`** follows the cache in a file through opening, pruning and what is logged on
  the way: the entries from the cutoff on stay, or all of them when something fails.
* **`forgets_only_older_iff`** says for which numbers of days no entry is forgotten that is younger.
-/

namespace NovelScript

/-! ## Ages -/

namespace Text

/-- A number that fits 64 bits is left as it is when it is cut down to them. -/
theorem wrapInt64_of_fits {n : Int} (hmin : minInt64 ≤ n) (hmax : n ≤ maxInt64) :
    wrapInt64 n = n := by
  unfold minInt64 at hmin
  unfold maxInt64 at hmax
  unfold wrapInt64
  apply Int.bmod_eq_of_le_mul_two
  · omega
  · omega

/-- What is cut down to 64 bits is not below the least number of them. Only this bound is needed for
the cutoff of days that do not fit. -/
theorem minInt64_le_wrapInt64 (n : Int) : minInt64 ≤ wrapInt64 n := by
  have hle := Int.le_bmod (x := n) (m := 18446744073709551616) (by decide)
  unfold minInt64 wrapInt64
  omega

end Text

namespace Command

open Files (Disk)

/-- The nanoseconds of a day. -/
def day : Int := 24 * 3600 * Cache.second

/-- A second in nanoseconds, as a number that `omega` can use. -/
theorem second_eq : Cache.second = 1000000000 := rfl

/-- A day in nanoseconds, as a number that `omega` can use. -/
theorem day_eq : day = 86400000000000 := rfl

/-- The age that a number of days stands for is cut down to 64 bits, where it may wrap around to
something else. -/
theorem daysAge_eq (days : Int) : daysAge days = Text.wrapInt64 (days * day) := by
  unfold daysAge day
  rw [Int.mul_assoc, Int.mul_assoc, Int.mul_assoc]

/-- As long as the nanoseconds of the days fit in 64 bits the cutoff is that many days ago. This is
the part of the answer that the command was meant to give for all days. -/
theorem cutoff_of_le {days : Int} (hdays : 0 ≤ days) (h : days ≤ 106751) (now : Int) :
    Cache.cutoff now (daysAge days) = (now - days * day) / Cache.second := by
  have hage : daysAge days = days * day := by
    rw [daysAge_eq]
    apply Text.wrapInt64_of_fits
    · unfold Text.minInt64
      rw [day_eq]
      omega
    · unfold Text.maxInt64
      rw [day_eq]
      omega
  have hback : Text.wrapInt64 (-(days * day)) = -(days * day) := by
    apply Text.wrapInt64_of_fits
    · unfold Text.minInt64
      rw [day_eq]
      omega
    · unfold Text.maxInt64
      rw [day_eq]
      omega
  rw [Cache.cutoff, hage, hback, ← Int.sub_eq_add_neg]

/-- Of more days the nanoseconds do not fit, and the cutoff lies behind what was asked for. -/
theorem lt_cutoff_of_lt {days : Int} (h : 106751 < days) (now : Int) :
    now - days * day + 2 * Cache.second ≤ Cache.cutoff now (daysAge days) * Cache.second := by
  have hwrap := Text.minInt64_le_wrapInt64 (-daysAge days)
  rw [Text.minInt64] at hwrap
  rw [Cache.cutoff, second_eq, day_eq]
  omega

/-! ## The log beside a cache -/

section

variable {w : World} {path name : Text} {db : Cache.Database}

/-- A line of the log changes no file but that of the log, and no directory goes away. The command
writes such a line behind its work, and what it did must still be seen. -/
theorem appendLine_keeps (file added : Text) (d : Disk Content) :
    (appendLine file added d).home = d.home ∧
      (∀ p, d.look p = some none → (appendLine file added d).look p = some none) ∧
      ∀ p, p ≠ d.place file → (appendLine file added d).fileAt p = d.fileAt p := by
  unfold appendLine
  dsimp only
  -- the directory of the file may be made first
  generalize hd₁ : (if d.isThere file then d
    else (d.makeAll (Files.directory file)).toOption.getD d) = d₁
  have hmade : d₁.home = d.home ∧ (∀ p, d.look p = some none → d₁.look p = some none) ∧
      ∀ p, d₁.fileAt p = d.fileAt p := by
    subst hd₁
    split
    · exact ⟨rfl, fun _ hp => hp, fun _ => rfl⟩
    · cases hmake : d.makeAll (Files.directory file) with
      | error e => exact ⟨rfl, fun _ hp => hp, fun _ => rfl⟩
      | ok d₂ =>
        obtain ⟨hhome, hfiles⟩ := Disk.makeAll_ok hmake
        exact ⟨hhome, fun _ hp => Disk.look_makeAll hmake hp, hfiles⟩
  obtain ⟨hhome, hdirs, hfiles⟩ := hmade
  generalize ((d.read file).toOption.elim [] Content.asText ++ added) = line
  cases hwrite : d₁.write file (.text line) with
  | error e => exact ⟨hhome, hdirs, fun p _ => hfiles p⟩
  | ok d₂ =>
    have hput := (Disk.write_eq_ok hwrite).2
    have hhome₂ : d₂.home = d₁.home := by
      rw [hput]
      rfl
    have hplace : d₁.place file = d.place file := by rw [Disk.place, Disk.place, hhome]
    refine ⟨hhome₂.trans hhome, fun p hp => Disk.dirs_write hwrite (hdirs p hp), fun p hp => ?_⟩
    exact (Disk.fileAt_write hwrite (by rwa [hplace])).trans (hfiles p)

/-- A record changes what was said and perhaps the file of the log. -/
theorem World.record_eq (w : World) (carry : Log.Logger → Log.Logger) (r : Log.Record) :
    ∃ said disk, w.record w.log carry r = { w with said, disk } ∧
      (disk = w.disk ∨ ∃ t, disk = appendLine (Text.trim w.log.file) t w.disk) := by
  unfold World.record
  split
  · split
    · exact ⟨_, _, rfl, .inr ⟨_, rfl⟩⟩
    · exact ⟨_, _, rfl, .inl rfl⟩
  · exact ⟨_, _, rfl, .inl rfl⟩

/-- A cache is in a file of the world, and the log is not written into that file. -/
structure Holds (w : World) (path : Text) (db : Cache.Database) : Prop where
  apart : w.disk.place path ≠ w.disk.place (Text.trim w.log.file)
  find : w.disk.find path = .ok (.file (.database db))

/-- The cache is another one on a disk that has another one in the file. -/
theorem Holds.of_disk {db' : Cache.Database} {d : Disk Content} (h : Holds w path db)
    (hhome : d.home = w.disk.home) (hfind : d.find path = .ok (.file (.database db'))) :
    Holds { w with disk := d } path db' := by
  refine ⟨?_, hfind⟩
  have hplace (p : Text) : d.place p = w.disk.place p := by rw [Disk.place, Disk.place, hhome]
  change d.place path ≠ d.place _
  rw [hplace, hplace]
  exact h.apart

/-- A record leaves the cache as it is. -/
theorem Holds.record (h : Holds w path db) (carry : Log.Logger → Log.Logger) (r : Log.Record) :
    Holds (w.record w.log carry r) path db ∧ (w.record w.log carry r).log = w.log ∧
      (w.record w.log carry r).present = w.present := by
  obtain ⟨said, d, hrecord, hd⟩ := w.record_eq carry r
  rw [hrecord]
  refine ⟨?_, rfl, rfl⟩
  rcases hd with rfl | ⟨t, rfl⟩
  · exact ⟨h.apart, h.find⟩
  · obtain ⟨hhome, hdirs, hfiles⟩ := appendLine_keeps (Text.trim w.log.file) t w.disk
    have hlook := Disk.fileAt_of_read (Disk.read_eq_ok.2 h.find)
    rw [← hfiles _ h.apart] at hlook
    have hfind := Disk.find_of_dirs hhome hdirs h.find (Disk.fileAt_eq_some.1 hlook)
    have hholds := h.of_disk hhome hfind
    exact ⟨hholds.apart, hholds.find⟩

/-! ## Opening -/

/-- The cache in a file can be opened. -/
def Opens (d : Disk Content) (path : Text) (db : Cache.Database) : Prop :=
  (∃ d', d.makeAll (Files.directory path) = .ok d') ∧ db.prepare.2 = .ok ()

/-- Opening a cache that is there writes the tables in their newer form, or what was reached of
it. -/
theorem openFile_of_find {d : Disk Content} (hfind : d.find path = .ok (.file (.database db))) :
    ∃ d' db', d'.home = d.home ∧ d'.find path = .ok (.file (.database db')) ∧
      db'.entries = db.entries ∧
      ((Opens d path db ∧ db' = db.prepare.1 ∧ Cache.openFile false path d = .ok { path } d') ∨
        (¬ Opens d path db ∧ ∃ e, Cache.openFile false path d = .error e d')) := by
  rw [Cache.openFile_eq]
  cases hmake : d.makeAll (Files.directory path) with
  -- without its directory the cache is not opened, and nothing has changed
  | error e =>
    refine ⟨d, db, rfl, hfind, rfl, .inr ⟨?_, .directory e, ?_⟩⟩
    · rintro ⟨⟨d', hd'⟩, -⟩
      cases hmake.symm.trans hd'
    · apply Files.bind_eq_error.2
      left
      rw [Disk.change, hmake]
  | ok d₁ =>
    obtain ⟨hhome, hfiles⟩ := Disk.makeAll_ok hmake
    -- the file is where it was once its directory is made
    have hfile := Disk.fileAt_of_read (Disk.read_eq_ok.2 hfind)
    rw [← hfiles] at hfile
    have hfind₁ := Disk.find_of_dirs hhome (fun p hp => Disk.look_makeAll hmake hp) hfind
      (Disk.fileAt_eq_some.1 hfile)
    have hdatabase : Cache.databaseAt d₁ path = .ok db := by
      rw [Cache.databaseAt, hfind₁]
      rfl
    obtain ⟨d₂, hwrite, hhome₂, hfind₂⟩ := Disk.write_of_find hfind₁ (.database db.prepare.1)
    have hput : Cache.putDatabase path db.prepare.1 d₁ = d₂ := by
      rw [Cache.putDatabase, hwrite]
      rfl
    refine ⟨d₂, db.prepare.1, hhome₂.trans hhome, hfind₂, Cache.Database.entries_prepare db, ?_⟩
    cases hprepare : db.prepare.2 with
    | ok u =>
      refine .inl ⟨⟨⟨d₁, hmake⟩, hprepare⟩, rfl, ?_⟩
      refine Files.bind_eq_ok.2 ⟨(), d₁, Disk.change_eq_ok.2 hmake, ?_⟩
      rw [if_neg (by simp), Cache.openAt, hdatabase]
      dsimp only
      rw [hprepare, hput]
    -- a step to a newer form was refused; the database keeps the form that it has reached
    | error f =>
      refine .inr ⟨?_, .file f, ?_⟩
      · rintro ⟨-, hok⟩
        cases hprepare.symm.trans hok
      · apply Files.bind_eq_error.2
        refine .inr ⟨(), d₁, Disk.change_eq_ok.2 hmake, ?_⟩
        rw [if_neg (by simp), Cache.openAt, hdatabase]
        dsimp only
        rw [hprepare, hput]

/-- Opening a cache for a command, case by case. The entries stay, whether the file can be opened or
not, and nothing else is touched that the command looks at afterwards. -/
theorem openCache_of_holds (hname : Cache.Location.ofText name = .file path) (h : Holds w path db) :
    ∃ w' db', Holds w' path db' ∧ w'.log = w.log ∧ w'.present = w.present ∧
      db'.entries = db.entries ∧
      ((Opens w.disk path db ∧ db' = db.prepare.1 ∧ openCache name w = .ok { path } w') ∨
        (¬ Opens w.disk path db ∧ ∃ e, openCache name w = .error e w')) := by
  obtain ⟨d', db', hhome, hfind, hentries, hopen⟩ := openFile_of_find h.find
  have hnamed : Cache.openNamed false name w.disk = Cache.openFile false path w.disk := by
    unfold Cache.openNamed
    rw [hname]
  have hdisk : Holds { w with disk := d' } path db' := h.of_disk hhome hfind
  rcases hopen with ⟨hopens, hdb, hok⟩ | ⟨hopens, e, herror⟩
  · obtain ⟨hholds, hlog, hpresent⟩ :=
      hdisk.record (Cache.Location.ofText name).logger Cache.readyRecord
    refine ⟨_, db', hholds, hlog, hpresent, hentries, .inl ⟨hopens, hdb, ?_⟩⟩
    unfold openCache
    refine Files.bind_eq_ok.2 ⟨.ok { path }, _, ?_, rfl⟩
    unfold tryOpen
    rw [hnamed, hok]
  · obtain ⟨hholds, hlog, hpresent⟩ := hdisk.record (Cache.Location.ofText name).logger e.record
    refine ⟨_, db', hholds, hlog, hpresent, hentries, .inr ⟨hopens, .unopened e, ?_⟩⟩
    unfold openCache
    refine Files.bind_eq_error.2 (.inr ⟨.error e, _, ?_, rfl⟩)
    unfold tryOpen
    rw [hnamed, herror]

/-! ## Forgetting -/

/-- Entries of the cache in a file can be forgotten: it can be opened and has a table then. -/
def Prunes (d : Disk Content) (path : Text) (db : Cache.Database) : Prop :=
  Opens d path db ∧ db.prepare.1.builds ≠ none

/-- Pruning step by step: the cache is opened, the entries before the cutoff are taken away, and the
number of them is printed. -/
theorem pruneCache_eq {days : Int} (hdays : 0 ≤ days) (name : Text) (w : World) :
    pruneCache name days w =
      match openCache name w with
      | .error e w₁ => .error e w₁
      | .ok h w₁ =>
        match h.prune false (Cache.cutoff w₁.present.instant.now (daysAge days)) w₁.disk with
        | .error e => .error (.cache e) w₁
        | .ok (d, removed) =>
          say .out (prunedText removed days) (({ w₁ with disk := d } : World).record w₁.log
            Cache.pruneLogger (Cache.pruneRecord removed h.path)) := by
  have hnot : ¬ days < 0 := by omega
  unfold pruneCache
  rw [if_neg hnot]
  change EStateM.bind (openCache name) _ w = _
  unfold EStateM.bind
  cases openCache name w with
  | error e w₁ => rfl
  | ok h w₁ =>
    dsimp only
    cases hprune : h.prune false (Cache.cutoff w₁.present.instant.now (daysAge days)) w₁.disk with
    | error e =>
      refine Files.bind_eq_error.2 (.inr ⟨w₁, w₁, rfl, ?_⟩)
      refine Files.bind_eq_error.2 (.inr ⟨w₁, w₁, rfl, ?_⟩)
      rw [hprune]
      rfl
    | ok x =>
      obtain ⟨d, removed⟩ := x
      refine Files.bind_eq_ok.2 ⟨w₁, w₁, rfl, ?_⟩
      refine Files.bind_eq_ok.2 ⟨w₁, w₁, rfl, ?_⟩
      rw [hprune]
      rfl

/-- Pruning leaves the entries that were not built before the cutoff, or all of them when it
fails. -/
theorem pruneCache_of_holds {days : Int} (hdays : 0 ≤ days)
    (hname : Cache.Location.ofText name = .file path) (h : Holds w path db) :
    ∃ w' db', Holds w' path db' ∧
      ((Prunes w.disk path db ∧ pruneCache name days w = .ok () w' ∧ db'.entries =
          db.entries.prune (Cache.cutoff w.present.instant.now (daysAge days))) ∨
        (¬ Prunes w.disk path db ∧ (∃ e, pruneCache name days w = .error e w') ∧
          db'.entries = db.entries)) := by
  obtain ⟨w₁, db₁, hholds, hlog, hpresent, hentries, hopen⟩ := openCache_of_holds hname h
  rw [pruneCache_eq hdays]
  rcases hopen with ⟨hopens, rfl, hok⟩ | ⟨hopens, e, herror⟩
  -- opened, the file holds the database in its newest form
  · have hdatabase : (Cache.Handle.mk path false).database false w₁.disk = .ok db.prepare.1 := by
      rw [Cache.Handle.database, if_neg (by simp), if_neg (by simp), Cache.databaseAt, hholds.find]
      rfl
    rw [hok]
    dsimp only
    cases hbuilds : db.prepare.1.builds with
    | none =>
      have hfails : (Cache.Handle.mk path false).prune false
          (Cache.cutoff w₁.present.instant.now (daysAge days)) w₁.disk =
            .error (.during .prune .noTable) := by
        simp only [Cache.Handle.prune, Cache.Handle.ask, hdatabase, bind, Except.bind,
          Cache.Database.prune, hbuilds]
      refine ⟨w₁, _, hholds, .inr ⟨fun hprunes => hprunes.2 hbuilds, ?_, hentries⟩⟩
      rw [hfails]
      exact ⟨_, rfl⟩
    | some b =>
      have htable : db.entries = b.table := by
        rw [← hentries, Cache.Database.entries, hbuilds]
        rfl
      rw [← hpresent, htable]
      generalize Cache.cutoff w₁.present.instant.now (daysAge days) = cutoff
      -- the table is there: the entries before the cutoff go, and the line of the log follows
      let after : Cache.Database :=
        { db.prepare.1 with builds := some { b with table := b.table.prune cutoff } }
      obtain ⟨d₂, hwrite, hhome, hfind⟩ := Disk.write_of_find hholds.find (.database after)
      have hpruned : (Cache.Handle.mk path false).prune false cutoff w₁.disk =
          .ok (d₂, b.table.length - (b.table.prune cutoff).length) := by
        simp only [Cache.Handle.prune, Cache.Handle.ask, hdatabase, bind, Except.bind,
          Cache.Database.prune, hbuilds, Cache.putDatabase]
        rw [show w₁.disk.write path _ = _ from hwrite]
        rfl
      have hdisk : Holds { w₁ with disk := d₂ } path after := hholds.of_disk hhome hfind
      obtain ⟨hrecord, -, -⟩ := hdisk.record Cache.pruneLogger
        (Cache.pruneRecord (b.table.length - (b.table.prune cutoff).length) path)
      rw [hpruned]
      refine ⟨_, after, ?_, .inl ⟨⟨hopens, by simp [hbuilds]⟩, rfl, rfl⟩⟩
      exact ⟨hrecord.apart, hrecord.find⟩
  · rw [herror]
    exact ⟨w₁, db₁, hholds, .inr ⟨fun hprunes => hopens hprunes.1, ⟨e, rfl⟩, hentries⟩⟩

end

/-! ## What a command forgets -/

/-- The request to forget what is older than some days. -/
def pruneRequest (config : Text) (dir : Option Text) (days : Int) : Request :=
  .cache (Text.lit "prune") config days dir

/-- The state at the end of some work, however it ends. -/
def atEnd {ε σ β : Type} : EStateM.Result ε σ β → σ
  | .ok _ s => s
  | .error _ s => s

/-- The entries of the cache in a file. -/
def entriesIn (path : Text) (d : Disk Content) : Cache.Table :=
  match d.read path with
  | .ok (.database db) => db.entries
  | _ => []

/-- A request is about the cache in this file, and the log is not written into that file. -/
def Concerns (config : Text) (dir : Option Text) (w : World) (path : Text) : Prop :=
  ∃ c, w.settings config = .ok c ∧ Cache.Location.ofText (dir.getD c.cache.dsn) = .file path ∧
    w.disk.place path ≠ w.disk.place (Text.trim c.log.file)

/-- An entry is gone at the end of the request, whether or not that succeeds. -/
def Forgets (config : Text) (dir : Option Text) (days : Int) (path : Text) (w : World)
    (e : Cache.Entry) : Prop :=
  e ∈ entriesIn path w.disk ∧
    e ∉ entriesIn path (atEnd (perform (pruneRequest config dir days) w)).disk

/-- An entry was built more than some days before now. -/
def OlderThan (days : Int) (w : World) (e : Cache.Entry) : Prop :=
  e.builtAt * Cache.second + days * day < w.present.instant.now

section

variable {config path : Text} {dir : Option Text} {days : Int} {w : World} {e : Cache.Entry}

/-- The entries of the cache in a file are those of the database that the file holds. -/
theorem mem_entriesIn {d : Disk Content} :
    e ∈ entriesIn path d ↔ ∃ db, d.find path = .ok (.file (.database db)) ∧ e ∈ db.entries := by
  unfold entriesIn
  split
  · rename_i db hread
    simp [Disk.read_eq_ok.1 hread]
  · rename_i hno
    simp only [List.not_mem_nil, false_iff]
    rintro ⟨db, hfind, -⟩
    exact hno db (Disk.read_eq_ok.2 hfind)

/-- The request prunes the cache under the settings that were loaded. What comes in front of it,
reading arguments and settings, leaves the disk as it is. -/
theorem disk_perform_prune {c : Config} (hsettings : w.settings config = .ok c) :
    (atEnd (perform (pruneRequest config dir days) w)).disk =
      (atEnd (pruneCache (dir.getD c.cache.dsn) days { w with log := c.log })).disk := by
  have hload : loadSettings config w = .ok c { w with log := c.log } := by
    unfold loadSettings
    refine Files.bind_eq_ok.2 ⟨c, w, ?_, rfl⟩
    unfold settings
    refine Files.bind_eq_ok.2 ⟨w, w, rfl, ?_⟩
    rw [hsettings]
    rfl
  have htask : performCache (Text.lit "prune") config days dir w =
      pruneCache (dir.getD c.cache.dsn) days { w with log := c.log } := by
    unfold performCache
    change EStateM.bind (loadSettings config) _ w = _
    unfold EStateM.bind
    rw [hload]
    rfl
  unfold pruneRequest perform
  change (atEnd (EStateM.bind (performCache (Text.lit "prune") config days dir) _ w)).disk = _
  unfold EStateM.bind
  rw [htask]
  cases pruneCache (dir.getD c.cache.dsn) days { w with log := c.log } <;> rfl

/-- What is forgotten is what was built before the cutoff, if the cache can be pruned at all. This
is stated for any cutoff, right or wrong, so that the arithmetic of days stays out of it. -/
theorem forgets_iff (hdays : 0 ≤ days) (h : Concerns config dir w path) :
    Forgets config dir days path w e ↔
      (∃ db, w.disk.find path = .ok (.file (.database db)) ∧ e ∈ db.entries ∧
        Prunes w.disk path db) ∧
      e.builtAt < Cache.cutoff w.present.instant.now (daysAge days) := by
  obtain ⟨c, hsettings, hname, hapart⟩ := h
  unfold Forgets
  rw [disk_perform_prune hsettings, mem_entriesIn]
  constructor
  · rintro ⟨⟨db, hfind, he⟩, hgone⟩
    have hholds : Holds { w with log := c.log } path db := ⟨hapart, hfind⟩
    obtain ⟨w', db', hafter, hcases⟩ := pruneCache_of_holds hdays hname hholds
    rw [mem_entriesIn] at hgone
    rcases hcases with ⟨hprunes, hok, hentries⟩ | ⟨-, ⟨x, herror⟩, hentries⟩
    · refine ⟨⟨db, hfind, he, hprunes⟩, ?_⟩
      apply Int.not_le.1
      intro hle
      apply hgone
      rw [hok]
      refine ⟨db', hafter.find, ?_⟩
      rw [hentries]
      exact List.mem_filter.2 ⟨he, decide_eq_true hle⟩
    -- a cache that is not pruned still has the entry
    · exfalso
      apply hgone
      rw [herror]
      exact ⟨db', hafter.find, by rwa [hentries]⟩
  · rintro ⟨⟨db, hfind, he, hprunes⟩, hlt⟩
    refine ⟨⟨db, hfind, he⟩, fun hstill => ?_⟩
    have hholds : Holds { w with log := c.log } path db := ⟨hapart, hfind⟩
    obtain ⟨w', db', hafter, hcases⟩ := pruneCache_of_holds hdays hname hholds
    rcases hcases with ⟨-, hok, hentries⟩ | ⟨hnot, -, -⟩
    · rw [hok, mem_entriesIn] at hstill
      obtain ⟨db'', hfind', he'⟩ := hstill
      cases hafter.find.symm.trans hfind'
      rw [hentries] at he'
      have hle := of_decide_eq_true (List.mem_filter.1 he').2
      exact absurd hlt (Int.not_lt.2 hle)
    · exact hnot hprunes

end

/-- A world at some time with the cache of one entry, in a file of its own. -/
def worldOf (now : Int) (e : Cache.Entry) : World where
  disk := ⟨.directory [(Text.lit "c.db", .file (.database
    { schema := some (.number 2), builds := some { table := [e], hasRuns := true } }))], []⟩
  present := { instant := ⟨now, ⟨[], []⟩⟩ }

/-- In the world of the example the command is about the cache that is in it. -/
theorem concerns_worldOf (now : Int) (e : Cache.Entry) :
    Concerns [] (some (Text.lit "c.db")) (worldOf now e) (Text.lit "c.db") := by
  refine ⟨{}, by cbv, by rfl, ?_⟩
  change Files.placeOf [] (Text.lit "c.db") ≠ Files.placeOf [] (Text.trim ({} : Config).log.file)
  decide

/-- In the world of the example an entry is forgotten exactly when it is older than the cutoff;
nothing else can hinder it. -/
theorem forgets_worldOf {days : Int} (hdays : 0 ≤ days) (now : Int) (e : Cache.Entry) :
    Forgets [] (some (Text.lit "c.db")) days (Text.lit "c.db") (worldOf now e) e ↔
      e.builtAt < Cache.cutoff now (daysAge days) := by
  rw [forgets_iff hdays (concerns_worldOf now e)]
  apply and_iff_right
  refine ⟨_, by rfl, ?_, ⟨⟨_, by rfl⟩, by rfl⟩, ?_⟩
  · exact List.mem_singleton_self e
  · intro h
    cases h

/-- **How many days can be asked for.** What is forgotten was built more than that many days ago, and
of more days no more is forgotten, exactly as long as there are at most 106751 of them: the
nanoseconds of more days do not fit in 64 bits. -/
theorem forgets_only_older_iff {days : Int} (hdays : 0 ≤ days) :
    ((∀ config dir path w e, Concerns config dir w path → Forgets config dir days path w e →
        OlderThan days w e) ↔ days ≤ 106751) ∧
      ((∀ fewer more, 0 ≤ fewer → fewer ≤ more → more ≤ days → ∀ config dir path w e,
        Concerns config dir w path → Forgets config dir more path w e →
          Forgets config dir fewer path w e) ↔ days ≤ 106751) := by
  refine ⟨⟨fun h => ?_, fun hle => ?_⟩, fun h => ?_, fun hle => ?_⟩
  · apply Int.not_lt.1
    intro hlt
    -- an entry of the second before the cutoff
    let e : Cache.Entry := ⟨[], [], [], [], [], Cache.cutoff 0 (daysAge days) - 1⟩
    have hforgets := (forgets_worldOf hdays 0 e).2 (Int.sub_one_lt_of_le (Int.le_refl _))
    have holder : (Cache.cutoff 0 (daysAge days) - 1) * Cache.second + days * day < 0 :=
      h [] _ _ _ e (concerns_worldOf 0 e) hforgets
    have hcutoff := lt_cutoff_of_lt hlt 0
    rw [second_eq] at holder hcutoff
    omega
  · intro config dir path w e hconcerns hforgets
    have hlt := ((forgets_iff hdays hconcerns).1 hforgets).2
    rw [cutoff_of_le hdays hle, second_eq] at hlt
    unfold OlderThan
    rw [second_eq]
    omega
  · apply Int.not_lt.1
    intro hlt
    let e : Cache.Entry := ⟨[], [], [], [], [], 0⟩
    have hdays' : (0 : Int) ≤ 106752 := by decide
    have hmore := (forgets_worldOf hdays' 0 e).2 (by decide)
    have hfewer := h 0 106752 (Int.le_refl 0) hdays' hlt [] _ _ _ e (concerns_worldOf 0 e) hmore
    exact absurd ((forgets_worldOf (Int.le_refl 0) 0 e).1 hfewer) (by decide)
  · intro fewer more hfewer hmore hmost config dir path w e hconcerns hforgets
    have hmore₀ : 0 ≤ more := Int.le_trans hfewer hmore
    have hmore₁ : more ≤ 106751 := Int.le_trans hmost hle
    obtain ⟨hthere, hlt⟩ := (forgets_iff hmore₀ hconcerns).1 hforgets
    rw [cutoff_of_le hmore₀ hmore₁] at hlt
    refine (forgets_iff hfewer hconcerns).2 ⟨hthere, ?_⟩
    rw [cutoff_of_le hfewer (Int.le_trans hmore hmore₁)]
    rw [second_eq, day_eq] at hlt ⊢
    omega

/-- Of 30 days, an entry of the first second is forgotten after 31 days. -/
theorem forgets_only_older_iff_of_month :
    Forgets [] (some (Text.lit "c.db")) 30 (Text.lit "c.db")
        (worldOf (31 * day) ⟨[], [], [], [], [], 0⟩) ⟨[], [], [], [], [], 0⟩ ∧
      OlderThan 30 (worldOf (31 * day) ⟨[], [], [], [], [], 0⟩) ⟨[], [], [], [], [], 0⟩ := by
  have hforgets : Forgets [] (some (Text.lit "c.db")) 30 (Text.lit "c.db")
      (worldOf (31 * day) ⟨[], [], [], [], [], 0⟩) ⟨[], [], [], [], [], 0⟩ :=
    (forgets_worldOf (by decide) (31 * day) _).2 (by decide)
  exact ⟨hforgets, (forgets_only_older_iff (by decide)).1.2 (by decide) _ _ _ _ _
    (concerns_worldOf _ _) hforgets⟩

/-- An entry that is built in the fall of 2023. -/
def autumnal : Cache.Entry :=
  ⟨Text.lit "a", [], [], [], [], 1700000000⟩

/-- When it was built, and entries older than 106752 days shall be forgotten, it is forgotten. It is
not when everything that is older than the present shall be. -/
theorem forgets_present_entry :
    (106752 : Int) ≤ Text.maxInt64 ∧
      Forgets [] (some (Text.lit "c.db")) 106752 (Text.lit "c.db")
        (worldOf (1700000000 * Cache.second) autumnal) autumnal ∧
      ¬ OlderThan 106752 (worldOf (1700000000 * Cache.second) autumnal) autumnal ∧
      ¬ Forgets [] (some (Text.lit "c.db")) 0 (Text.lit "c.db")
        (worldOf (1700000000 * Cache.second) autumnal) autumnal := by
  refine ⟨by decide, (forgets_worldOf (by decide) _ _).2 (by decide), ?_, fun hforgets => ?_⟩
  · unfold OlderThan
    decide
  · exact absurd ((forgets_worldOf (by decide) _ _).1 hforgets) (by decide)

end Command

end NovelScript
