import NovelScript.Proofs.Cache.Handle
import NovelScript.Proofs.Cache.Upgrade
import NovelScript.Proofs.Cache.Work
import NovelScript.Proofs.Text.Order

/-!
# Tables that are brought up to date

A server is known by its answers, so what it keeps is a parameter: the versions in its record and the
bodies that were committed. `Transactional` says how calls change that, and nothing about which calls
are refused: a transaction that is refused or undone leaves nothing, one that is finished is kept as a
whole. What follows for the work of a run is said by `Meets` and `Succeeds`.

* **`meets_migrateFile`**: a file is kept as a whole or not at all. `exists_kept_migrateFrom` is the
  run: what is kept are the files of an initial segment of those that are pending.
* `succeeds_migrateFrom`: where nothing is refused, all of them are.
* **`migrations_resume`** puts both together: whatever is refused in a run, the next run without
  refusals does the files that are left and the one after it does none. The second half of the
  statement is the same about the steps of a file.
* `Shelf.server` is a server of this kind that may refuse any calls.
-/

namespace NovelScript.Cache

/-- The files of a directory are in the order of their names. -/
theorem pairwise_inOrder (entries : List Migration) :
    (inOrder entries).Pairwise fun m n => Text.le m.name n.name = true := by
  unfold inOrder
  apply List.pairwise_mergeSort
  · intro a b c
    exact Text.le_trans
  · intro a b
    exact Text.le_total a.name b.name

/-- The version of a file, as its name says it. -/
def Migration.version (m : Migration) : Int :=
  match versionOf m.name with
  | .ok v => v
  | .error _ => 0

/-! ## What a server keeps -/

/-- What a server keeps: the versions in its record, and the bodies of files, in the order in which
they were committed. -/
structure Ledger where
  /-- The versions in the record. -/
  versions : List Int
  /-- The bodies that were committed. -/
  bodies : List Text
deriving DecidableEq

namespace Ledger

/-- A body is done. -/
def execute (l : Ledger) (body : Text) : Ledger :=
  { l with bodies := l.bodies ++ [body] }

/-- A version is recorded. -/
def record (l : Ledger) (version : Int) : Ledger :=
  { l with versions := l.versions ++ [version] }

/-- Files are done and recorded, one after the other. -/
def after (l : Ledger) (files : List Migration) : Ledger where
  versions := l.versions ++ files.map Migration.version
  bodies := l.bodies ++ files.map Migration.body

/-- The files whose versions are not recorded. -/
def pending (l : Ledger) (files : List Migration) : List Migration :=
  files.filter fun m => !l.versions.contains m.version

/-- No files leave a ledger as it is. -/
@[simp] theorem after_nil (l : Ledger) : l.after [] = l := by
  simp [after]

/-- Files may be counted in two parts. -/
theorem after_append (l : Ledger) (ms ns : List Migration) :
    l.after (ms ++ ns) = (l.after ms).after ns := by
  simp [after]

/-- A file is its body and the record of its version; the two are what a transaction holds together.
-/
theorem after_singleton (l : Ledger) (m : Migration) :
    l.after [m] = (l.execute m.body).record m.version := rfl

/-- Files that are done and files that are left have different versions. -/
theorem version_ne_of_pending {l : Ledger} {files done left : List Migration}
    (h : l.pending files = done ++ left) (hdistinct : (files.map Migration.version).Nodup)
    {m : Migration} (hm : m ∈ left) : m.version ∉ done.map Migration.version := by
  have hnodup : ((done ++ left).map Migration.version).Nodup := by
    rw [← h]
    exact hdistinct.sublist (List.filter_sublist.map _)
  rw [List.map_append, List.nodup_append] at hnodup
  intro hin
  exact hnodup.2.2 _ hin _ (List.mem_map_of_mem hm) rfl

/-- **What is pending behind an initial segment** of what was pending is the rest of it. So a run
that was broken off is resumed where it stopped. -/
theorem pending_after {l : Ledger} {files done left : List Migration}
    (h : l.pending files = done ++ left) (hdistinct : (files.map Migration.version).Nodup) :
    (l.after done).pending files = left := by
  have hboth : (l.after done).pending files =
      (l.pending files).filter fun m => !(done.map Migration.version).contains m.version := by
    simp only [pending, after, List.filter_filter]
    apply List.filter_congr
    intro m _
    simp [Bool.and_comm]
  have hdone : (done.filter fun m => !(done.map Migration.version).contains m.version) = [] := by
    rw [List.filter_eq_nil_iff]
    intro m hm
    simpa using ⟨m, hm, rfl⟩
  have hleft : (left.filter fun m => !(done.map Migration.version).contains m.version) = left := by
    rw [List.filter_eq_self]
    intro m hm
    simpa using version_ne_of_pending h hdistinct hm
  rw [hboth, h, List.filter_append, hdone, hleft, List.nil_append]

/-- Of the files that were pending, those are recorded that were done, and nothing that was recorded
before is lost. -/
theorem version_mem_after_iff {l : Ledger} {files done left : List Migration}
    (h : l.pending files = done ++ left) (hdistinct : (files.map Migration.version).Nodup)
    {m : Migration} (hm : m ∈ done ++ left) : m.version ∈ (l.after done).versions ↔ m ∈ done := by
  have hnew : m.version ∉ l.versions := by
    rw [← h] at hm
    simpa using (List.mem_filter.mp hm).2
  unfold after
  rw [List.mem_append]
  constructor
  · rintro (hin | hin)
    · exact absurd hin hnew
    · rcases List.mem_append.mp hm with hm | hm
      · exact hm
      · exact absurd hin (version_ne_of_pending h hdistinct hm)
  · intro hin
    exact .inr (List.mem_map_of_mem hin)

end Ledger

/-- What is known of a server. In front of a call it keeps `kept`, and while a transaction is open
`draft` is what it would keep if the transaction were finished now. The record is asked for and made
outside of transactions. Any call may be refused; what was done in a transaction is kept when that is
finished, and then as a whole. The bodies of the files leave the record alone. -/
structure Transactional {σ : Type} (s : Server σ) (kept : σ → Ledger) (draft : σ → Option Ledger)
    (files : List Migration) : Prop where
  ensure : ∀ st, kept (s.call (.exec Server.ensureStatement []) st).2 = kept st
  query : ∀ st, kept (s.call (.query Server.versionsStatement []) st).2 = kept st
  versions : ∀ st a st', s.call (.query Server.versionsStatement []) st = (.ok a, st') →
    ∀ vs, a.rows.mapM Server.rowVersion = .ok vs → a.broken = none →
      ∀ v, v ∈ vs ↔ v ∈ (kept st).versions
  start : ∀ st, kept (s.call .begin st).2 = kept st
  started : ∀ st a st', s.call .begin st = (.ok a, st') → draft st' = some (kept st)
  body : ∀ m ∈ files, ∀ st l, draft st = some l → kept (s.call (.exec m.body []) st).2 = kept st
  executed : ∀ m ∈ files, ∀ st l a st', draft st = some l →
    s.call (.exec m.body []) st = (.ok a, st') → draft st' = some (l.execute m.body)
  record : ∀ m ∈ files, ∀ st l, draft st = some l →
    kept (s.call (.exec Server.recordStatement [Text.ofInt m.version, m.name]) st).2 = kept st
  recorded : ∀ m ∈ files, ∀ st l a st', draft st = some l →
    s.call (.exec Server.recordStatement [Text.ofInt m.version, m.name]) st = (.ok a, st') →
      draft st' = some (l.record m.version)
  rollback : ∀ st, kept (s.call .rollback st).2 = kept st
  committed : ∀ st l a st', draft st = some l → s.call .commit st = (.ok a, st') → kept st' = l
  uncommitted : ∀ st f st', s.call .commit st = (.error f, st') → kept st' = kept st

/-- The server refuses nothing but to record a version twice, and its record can be read. -/
structure Willing {σ : Type} (s : Server σ) (draft : σ → Option Ledger) (files : List Migration) :
    Prop where
  ensure : ∀ st, ∃ a st', s.call (.exec Server.ensureStatement []) st = (.ok a, st')
  versions : ∀ st, ∃ a st' vs, s.call (.query Server.versionsStatement []) st = (.ok a, st') ∧
    a.rows.mapM Server.rowVersion = .ok vs ∧ a.broken = none
  start : ∀ st, ∃ a st', s.call .begin st = (.ok a, st')
  body : ∀ m ∈ files, ∀ st l, draft st = some l →
    ∃ a st', s.call (.exec m.body []) st = (.ok a, st')
  record : ∀ m ∈ files, ∀ st l, draft st = some l → m.version ∉ l.versions →
    ∃ a st', s.call (.exec Server.recordStatement [Text.ofInt m.version, m.name]) st = (.ok a, st')
  commit : ∀ st l, draft st = some l → ∃ a st', s.call .commit st = (.ok a, st')

/-! ## Files -/

section files

variable {σ : Type} {s : Server σ} {kept : σ → Ledger} {draft : σ → Option Ledger}
  {files : List Migration}

/-- A transaction is open, in which what is kept is `l` and what would be kept is `l'`. -/
def Within (kept : σ → Ledger) (draft : σ → Option Ledger) (l l' : Ledger) (st : σ) : Prop :=
  kept st = l ∧ draft st = some l'

/-- A call that changes nothing that is kept, whatever it answers. -/
theorem kept_of_call {c : Call} {st st' : σ} {r : Except Fault Answer}
    (h : kept (s.call c st).2 = kept st) (hc : s.call c st = (r, st')) : kept st' = kept st := by
  rw [hc] at h
  exact h

namespace Transactional

variable {wrap : Fault → Server.MigrateFailure} {l l' : Ledger}

/-- The start of a transaction keeps nothing yet, and what would be kept is what there was. -/
theorem meets_begin (h : Transactional s kept draft files) :
    Meets (kept · = l) (s.ask wrap .begin) (fun _ => Within kept draft l l) (kept · = l) := by
  apply meets_ask
  · rintro st a st' rfl hc
    exact ⟨kept_of_call (h.start st) hc, h.started st a st' hc⟩
  · rintro st f st' rfl hc
    exact kept_of_call (h.start st) hc

/-- A call in a transaction that keeps nothing yet leads to another draft, or the transaction is
undone. -/
theorem meets_within (h : Transactional s kept draft files) {c : Call} {l'' : Ledger}
    (hkept : ∀ st, draft st = some l' → kept (s.call c st).2 = kept st)
    (hdraft : ∀ st a st', draft st = some l' → s.call c st = (.ok a, st') → draft st' = some l'') :
    Meets (Within kept draft l l') (s.askWithin wrap c) (fun _ => Within kept draft l l'')
      (kept · = l) := by
  apply meets_askWithin
  · rintro st a st' ⟨rfl, hst⟩ hc
    exact ⟨kept_of_call (hkept st hst) hc, hdraft st a st' hst hc⟩
  · rintro st f st' ⟨rfl, hst⟩ hc
    exact (h.rollback st').trans (kept_of_call (hkept st hst) hc)

/-- The body of a file changes the draft alone. When it is refused the transaction is undone. -/
theorem meets_body (h : Transactional s kept draft files) {m : Migration} (hm : m ∈ files) :
    Meets (Within kept draft l l') (s.askWithin wrap (.exec m.body []))
      (fun _ => Within kept draft l (l'.execute m.body)) (kept · = l) :=
  h.meets_within (fun st => h.body m hm st l') fun st a st' => h.executed m hm st l' a st'

/-- The record of the version of a file changes the draft alone, too, and a refusal undoes the body
together with it. -/
theorem meets_record (h : Transactional s kept draft files) {m : Migration} (hm : m ∈ files) :
    Meets (Within kept draft l l')
      (s.askWithin wrap (.exec Server.recordStatement [Text.ofInt m.version, m.name]))
      (fun _ => Within kept draft l (l'.record m.version)) (kept · = l) :=
  h.meets_within (fun st => h.record m hm st l') fun st a st' => h.recorded m hm st l' a st'

/-- The end of a transaction keeps the draft, or nothing of it. -/
theorem meets_commit (h : Transactional s kept draft files) :
    Meets (Within kept draft l l') (s.ask wrap .commit) (fun _ st => kept st = l') (kept · = l) := by
  apply meets_ask
  · rintro st a st' ⟨rfl, hdraft⟩ hc
    exact h.committed st l' a st' hdraft hc
  · rintro st f st' ⟨rfl, hdraft⟩ hc
    exact h.uncommitted st f st' hc

end Transactional

/-- **A file is kept as a whole or not at all**: done and recorded when its transaction is finished,
and without a trace when anything in it is refused. -/
theorem meets_migrateFile (h : Transactional s kept draft files) {m : Migration} (hm : m ∈ files)
    (l : Ledger) :
    Meets (kept · = l) (s.migrateFile m.version m) (fun _ st => kept st = l.after [m])
      (kept · = l) := by
  rw [Ledger.after_singleton]
  unfold Server.migrateFile
  refine h.meets_begin.bind fun _ => ?_
  refine (h.meets_body hm).bind fun _ => ?_
  refine (h.meets_record hm).bind fun _ => ?_
  exact h.meets_commit.bind fun _ => .pure fun _ hst => hst

/-- A file whose version is not recorded is kept when nothing is refused: the transaction is begun,
body and record are taken, and it is ended. -/
theorem succeeds_migrateFile (h : Transactional s kept draft files) (hw : Willing s draft files)
    {m : Migration} (hm : m ∈ files) {l : Ledger} (hv : m.version ∉ l.versions) :
    Succeeds (kept · = l) (s.migrateFile m.version m) fun _ st => kept st = l.after [m] := by
  have hbegin : Succeeds (kept · = l) (s.ask Server.MigrateFailure.unstarted .begin)
      (fun _ => Within kept draft l l) :=
    h.meets_begin.succeeds fun st _ => ask_eq_ok (hw.start st) _
  have hbody : Succeeds (Within kept draft l l) (s.askWithin (.body m.name) (.exec m.body []))
      (fun _ => Within kept draft l (l.execute m.body)) :=
    (h.meets_body hm).succeeds fun st hst => askWithin_eq_ok (hw.body m hm st l hst.2) _
  have hrecord : Succeeds (Within kept draft l (l.execute m.body))
      (s.askWithin (.record m.name)
        (.exec Server.recordStatement [Text.ofInt m.version, m.name]))
      (fun _ => Within kept draft l ((l.execute m.body).record m.version)) :=
    (h.meets_record hm).succeeds fun st hst =>
      askWithin_eq_ok (hw.record m hm st _ hst.2 hv) _
  have hcommit : Succeeds (Within kept draft l ((l.execute m.body).record m.version))
      (s.ask (Server.MigrateFailure.commit m.name) .commit)
      (fun _ st => kept st = (l.execute m.body).record m.version) :=
    h.meets_commit.succeeds fun st hst => ask_eq_ok (hw.commit st _ hst.2) _
  rw [Ledger.after_singleton]
  unfold Server.migrateFile
  refine hbegin.bind fun _ => ?_
  refine hbody.bind fun _ => ?_
  refine hrecord.bind fun _ => ?_
  refine hcommit.bind fun _ => ?_
  intro st hst
  exact ⟨(), st, rfl, hst⟩

/-! ## Runs -/

/-- One turn of the loop over the files: a file whose version is recorded is passed over. -/
theorem migrateFrom_cons (s : Server σ) (recorded : List Int) {m : Migration}
    (hm : versionOf m.name = .ok m.version) (more : List Migration) :
    s.migrateFrom recorded (m :: more) =
      if m.version ∈ recorded then s.migrateFrom recorded more
      else s.migrateFile m.version m >>= fun _ => s.migrateFrom recorded more := by
  simp only [Server.migrateFrom, hm]
  by_cases hin : m.version ∈ recorded
  · simp [hin]
  · simp [hin]

/-- **What a run keeps**: an initial segment of the files that are pending, each as a whole, and all
of them when it succeeds. -/
theorem exists_kept_migrateFrom (h : Transactional s kept draft files) (recorded : List Int)
    {ms : List Migration} (hms : ∀ m ∈ ms, m ∈ files ∧ versionOf m.name = .ok m.version) (st : σ) :
    ∃ done left, (ms.filter fun m => !recorded.contains m.version) = done ++ left ∧
      kept ((s.migrateFrom recorded ms).after st) = (kept st).after done ∧
      ((∃ st', s.migrateFrom recorded ms st = .ok () st') → left = []) := by
  induction ms generalizing st with
  | nil => exact ⟨[], [], rfl, (Ledger.after_nil _).symm, fun _ => rfl⟩
  | cons m more ih =>
    have hmore : ∀ m ∈ more, m ∈ files ∧ versionOf m.name = .ok m.version :=
      fun n hn => hms n (List.mem_cons_of_mem _ hn)
    obtain ⟨hm, hname⟩ := hms m List.mem_cons_self
    rw [migrateFrom_cons s recorded hname]
    by_cases hin : m.version ∈ recorded
    · simpa [hin] using ih hmore st
    · have hfilter : ((m :: more).filter fun m => !recorded.contains m.version) =
          m :: more.filter fun m => !recorded.contains m.version := by
        simp [hin]
      rw [if_neg hin, hfilter]
      obtain ⟨hok, herror⟩ := meets_migrateFile h hm (kept st) st rfl
      unfold Work.after at ih ⊢
      cases hfile : s.migrateFile m.version m st with
      | ok a st₁ =>
        rw [bind_of_ok hfile]
        obtain ⟨done, left, hsplit, hkept, hend⟩ := ih hmore st₁
        refine ⟨m :: done, left, by rw [hsplit, List.cons_append], ?_, hend⟩
        rw [hkept, hok a st₁ hfile, ← Ledger.after_append, List.singleton_append]
      | error e st₁ =>
        rw [bind_of_error hfile]
        refine ⟨[], _, rfl, ?_, ?_⟩
        · rw [Ledger.after_nil]
          exact herror e st₁ hfile
        · rintro ⟨st', hst'⟩
          cases hst'

/-- **A run in which nothing is refused keeps all files that are pending.** The induction is on the
files that are left. That no two of them have one version is what keeps a file from being taken for
recorded because of another one. -/
theorem succeeds_migrateFrom (h : Transactional s kept draft files) (hw : Willing s draft files)
    {recorded : List Int} {ms : List Migration}
    (hms : ∀ m ∈ ms, m ∈ files ∧ versionOf m.name = .ok m.version)
    (hdistinct : (ms.map Migration.version).Nodup) {l : Ledger}
    (hl : ∀ m ∈ ms, m.version ∈ l.versions → m.version ∈ recorded) :
    Succeeds (kept · = l) (s.migrateFrom recorded ms)
      fun _ st => kept st = l.after (ms.filter fun m => !recorded.contains m.version) := by
  induction ms generalizing l with
  | nil =>
    intro st hst
    exact ⟨(), st, rfl, hst.trans (Ledger.after_nil l).symm⟩
  | cons m more ih =>
    have hmore : ∀ m ∈ more, m ∈ files ∧ versionOf m.name = .ok m.version :=
      fun n hn => hms n (List.mem_cons_of_mem _ hn)
    obtain ⟨hm, hname⟩ := hms m List.mem_cons_self
    rw [List.map_cons, List.nodup_cons] at hdistinct
    obtain ⟨hnew, hdistinct⟩ := hdistinct
    rw [migrateFrom_cons s recorded hname]
    by_cases hin : m.version ∈ recorded
    · simpa [hin] using ih hmore hdistinct fun n hn => hl n (List.mem_cons_of_mem _ hn)
    · have hfilter : ((m :: more).filter fun m => !recorded.contains m.version) =
          [m] ++ more.filter fun m => !recorded.contains m.version := by
        simp [hin]
      rw [if_neg hin, hfilter, Ledger.after_append]
      refine (succeeds_migrateFile h hw hm fun hv => hin (hl m List.mem_cons_self hv)).bind
        fun _ => ih hmore hdistinct ?_
      -- the version that was recorded now is not that of another file
      intro n hn hv
      rcases List.mem_append.mp hv with hv | hv
      · exact hl n (List.mem_cons_of_mem _ hn) hv
      · have hsame : n.version = m.version := by simpa using hv
        exact absurd (hsame ▸ List.mem_map_of_mem hn) hnew

/-- Asking for the record changes nothing that is kept, and the versions that are read from the
answer are those of the record. That the server gives back what was recorded is part of
`Transactional`. -/
theorem meets_recordedVersions (h : Transactional s kept draft files) (l : Ledger) :
    Meets (kept · = l) s.recordedVersions
      (fun vs st => kept st = l ∧ ∀ v, v ∈ vs ↔ v ∈ l.versions) (kept · = l) := by
  have hensure : Meets (kept · = l)
      (s.ask Server.MigrateFailure.noRecord (.exec Server.ensureStatement []))
      (fun _ st => kept st = l) (kept · = l) := by
    apply meets_ask
    · rintro st a st' rfl hc
      exact kept_of_call (h.ensure st) hc
    · rintro st f st' rfl hc
      exact kept_of_call (h.ensure st) hc
  have hquery : Meets (kept · = l)
      (s.ask Server.MigrateFailure.unasked (.query Server.versionsStatement []))
      (fun a st => kept st = l ∧ ∀ vs, a.rows.mapM Server.rowVersion = .ok vs → a.broken = none →
        ∀ v, v ∈ vs ↔ v ∈ l.versions) (kept · = l) := by
    apply meets_ask
    · rintro st a st' rfl hc
      exact ⟨kept_of_call (h.query st) hc, h.versions st a st' hc⟩
    · rintro st f st' rfl hc
      exact kept_of_call (h.query st) hc
  unfold Server.recordedVersions
  refine hensure.bind fun _ => hquery.bind fun a => ?_
  cases hrows : a.rows.mapM Server.rowVersion with
  | error f => exact .throw fun _ hst => hst.1
  | ok vs =>
    cases hbroken : a.broken with
    | some f => exact .throw fun _ hst => hst.1
    | none => exact .pure fun _ hst => ⟨hst.1, hst.2 vs rfl rfl⟩

/-- The files that are pending are those whose versions the record does not have. -/
theorem filter_eq_pending {vs : List Int} {l : Ledger} (h : ∀ v, v ∈ vs ↔ v ∈ l.versions)
    (ms : List Migration) : (ms.filter fun m => !vs.contains m.version) = l.pending ms := by
  apply List.filter_congr
  intro m _
  simp [h m.version]

variable {entries : List Migration}

/-- **What a run keeps of a directory**: an initial segment of the files that are pending, in the
order of their names, whatever is refused. -/
theorem exists_kept_migrate (h : Transactional s kept draft (inOrder entries))
    (hnames : ∀ m ∈ inOrder entries, versionOf m.name = .ok m.version) (st : σ) :
    ∃ done left, (kept st).pending (inOrder entries) = done ++ left ∧
      kept ((s.migrate entries).after st) = (kept st).after done ∧
      ((∃ st', s.migrate entries st = .ok () st') → left = []) := by
  obtain ⟨hok, herror⟩ := meets_recordedVersions h (kept st) st rfl
  unfold Server.migrate Work.after
  cases hrecord : s.recordedVersions st with
  | error e st₁ =>
    rw [bind_of_error hrecord]
    refine ⟨[], _, rfl, ?_, ?_⟩
    · rw [Ledger.after_nil]
      exact herror e st₁ hrecord
    · rintro ⟨st', hst'⟩
      cases hst'
  | ok vs st₁ =>
    rw [bind_of_ok hrecord]
    obtain ⟨hkept, hvs⟩ := hok vs st₁ hrecord
    have hrun := exists_kept_migrateFrom h vs (fun m hm => ⟨hm, hnames m hm⟩) st₁
    rwa [filter_eq_pending hvs, hkept] at hrun

/-- A run over a directory in which nothing is refused keeps all files that are pending, in the
order of their names. -/
theorem succeeds_migrate (h : Transactional s kept draft (inOrder entries))
    (hw : Willing s draft (inOrder entries))
    (hnames : ∀ m ∈ inOrder entries, versionOf m.name = .ok m.version)
    (hdistinct : ((inOrder entries).map Migration.version).Nodup) (l : Ledger) :
    Succeeds (kept · = l) (s.migrate entries)
      fun _ st => kept st = l.after (l.pending (inOrder entries)) := by
  have hrecord : Succeeds (kept · = l) s.recordedVersions
      fun vs st => kept st = l ∧ ∀ v, v ∈ vs ↔ v ∈ l.versions := by
    apply (meets_recordedVersions h l).succeeds
    intro st _
    obtain ⟨a, st₁, ha⟩ := ask_eq_ok (hw.ensure st) Server.MigrateFailure.noRecord
    obtain ⟨b, st₂, vs, hb, hvs, hbroken⟩ := hw.versions st₁
    have hasked : s.ask Server.MigrateFailure.unasked (.query Server.versionsStatement []) st₁ =
        .ok b st₂ := by
      simp [Server.ask, hb]
    refine ⟨vs, st₂, ?_⟩
    unfold Server.recordedVersions
    rw [bind_of_ok ha, bind_of_ok hasked]
    simp [hvs, hbroken, pure, EStateM.pure]
  refine hrecord.bind fun vs => ?_
  rintro st ⟨hkept, hvs⟩
  rw [← filter_eq_pending hvs]
  exact succeeds_migrateFrom h hw (fun m hm => ⟨hm, hnames m hm⟩) hdistinct
    (fun m _ hv => (hvs m.version).mpr hv) st hkept

end files

/-! ## Both kinds of caches -/

/-- **Bringing tables up to date can be taken up again, and nothing is done twice.**

A server: let transactions be kept as a whole or not at all (`Transactional`), and let the names of
the files of a directory have versions, no two the same. Whatever the server refuses in a run, what
it keeps afterwards are the versions and bodies it kept before and, each once and in the order of
their names, those of an initial segment of the files that were pending; a file of these is done if
and only if its version is recorded, and nothing is left when the run succeeds. A run after it in
which nothing is refused succeeds and does exactly the files that were left, in order, and the one
after that succeeds and does none.

A file: let the tables have the form that the number kept with them says. Whatever is refused in
the run, they have the form that the number says afterwards too; no entry is lost, the form is not
older than before, a form that is not known here is left alone, and the run succeeds exactly when
the form is the last one or newer. It fails only where something was refused. -/
theorem migrations_resume {σ : Type} {s calm : Server σ} {kept : σ → Ledger}
    {draft : σ → Option Ledger} {entries : List Migration}
    (hs : Transactional s kept draft (inOrder entries))
    (hcalm : Transactional calm kept draft (inOrder entries))
    (hwilling : Willing calm draft (inOrder entries))
    (hnames : ∀ m ∈ inOrder entries, versionOf m.name = .ok m.version)
    (hdistinct : ((inOrder entries).map Migration.version).Nodup) (st : σ)
    (trouble : Trouble) {db : Database} {v : Nat} (hdb : db.Stands v) :
    (∃ done left, (kept st).pending (inOrder entries) = done ++ left ∧
      (done ++ left).Pairwise (fun m n => Text.le m.name n.name = true) ∧
      kept ((s.migrate entries).after st) = (kept st).after done ∧
      (∀ m ∈ done ++ left,
        m.version ∈ (kept ((s.migrate entries).after st)).versions ↔ m ∈ done) ∧
      ((∃ st', s.migrate entries st = .ok () st') → left = []) ∧
      ∃ st₂, calm.migrate entries ((s.migrate entries).after st) = .ok () st₂ ∧
        kept st₂ = (kept ((s.migrate entries).after st)).after left ∧
        ∃ st₃, calm.migrate entries st₂ = .ok () st₃ ∧ kept st₃ = kept st₂) ∧
    ∃ w : Nat, v ≤ w ∧ (w : Int) ≤ max (v : Int) currentSchema ∧
      (db.upgrade trouble v).1.Stands w ∧
      (db.upgrade trouble v).1.entries = db.entries ∧
      (currentSchema ≤ v → (db.upgrade trouble v).1 = db) ∧
      ((db.upgrade trouble v).2 = .ok () ↔ (w : Int) = max (v : Int) currentSchema) ∧
      ∀ e, (db.upgrade trouble v).2 = .error e → trouble.Refused (w + 1 : Nat) e := by
  constructor
  · obtain ⟨done, left, hsplit, hkept, hend⟩ := exists_kept_migrate hs hnames st
    have hleft : (kept ((s.migrate entries).after st)).pending (inOrder entries) = left := by
      rw [hkept]
      exact Ledger.pending_after hsplit hdistinct
    -- a run without refusals does what is left, and one more finds nothing left
    obtain ⟨_, st₂, hrun₂, hkept₂⟩ :=
      succeeds_migrate hcalm hwilling hnames hdistinct _ ((s.migrate entries).after st) rfl
    rw [hleft] at hkept₂
    have hnone : (kept st₂).pending (inOrder entries) = [] := by
      rw [hkept₂]
      exact Ledger.pending_after (hleft.trans (List.append_nil left).symm) hdistinct
    obtain ⟨_, st₃, hrun₃, hkept₃⟩ := succeeds_migrate hcalm hwilling hnames hdistinct _ st₂ rfl
    rw [hnone, Ledger.after_nil] at hkept₃
    refine ⟨done, left, hsplit, ?_, hkept, ?_, hend, st₂, hrun₂, hkept₂, st₃, hrun₃, hkept₃⟩
    · rw [← hsplit]
      exact (pairwise_inOrder entries).sublist List.filter_sublist
    · intro m hm
      rw [hkept]
      exact Ledger.version_mem_after_iff hsplit hdistinct hm
  -- the file's side: the form that the steps have reached when one is refused
  · obtain ⟨w, hle, hlast, hstands, hok, herror⟩ := Database.exists_stands_upgrade hdb trouble
    refine ⟨w, hle, hlast, hstands, Database.entries_upgrade trouble v db, ?_, hok, herror⟩
    intro hnewer
    rw [Database.upgrade_of_le hnewer]

/-! ## A server with a ledger -/

/-- A server that keeps a ledger, and how many calls it had. -/
structure Shelf where
  /-- What is kept. -/
  kept : Ledger := ⟨[], []⟩
  /-- What would be kept if the open transaction were finished. -/
  draft : Option Ledger := none
  /-- The calls so far. -/
  calls : Nat := 0

/-- The version in the values for a record, if it can be read and is not in the ledger. -/
def Ledger.newVersion? (l : Ledger) (values : List Text) : Option Int :=
  (values.head?.bind fun v => (Text.int64? v).toOption).filter fun v => !l.versions.contains v

/-- The server that refuses the calls of some numbers, a record of a version that it has, and to
finish what was not started. -/
def Shelf.server (refuses : Nat → Bool) : Server Shelf where
  call c st :=
    let st := { st with calls := st.calls + 1 }
    if refuses st.calls then (.error (.said (Text.lit "refused")), st)
    else
      match c, st.draft with
      | .begin, _ => (.ok {}, { st with draft := some st.kept })
      | .rollback, _ => (.ok {}, { st with draft := none })
      | .query _ _, _ => (.ok { rows := st.kept.versions.map fun v => [.int v] }, st)
      | .exec _ _, none => (.ok {}, st)
      | .exec statement values, some l =>
        if statement = Server.recordStatement then
          match l.newVersion? values with
          | some v => (.ok {}, { st with draft := some (l.record v) })
          | none => (.error (.said (Text.lit "duplicate key")), st)
        else (.ok {}, { st with draft := some (l.execute statement) })
      | .commit, none => (.error (.said (Text.lit "no transaction")), st)
      | .commit, some l => (.ok {}, { st with kept := l, draft := none })

namespace Shelf

variable {refuses : Nat → Bool} {st : Shelf}

/-- Only the end of a transaction changes what is kept. All other calls work on a draft. -/
theorem kept_call {c : Call} (hc : c ≠ .commit) :
    ((server refuses).call c st).2.kept = st.kept := by
  unfold server
  dsimp only
  split
  · rfl
  · split
    · rfl
    · rfl
    · rfl
    · rfl
    · split
      · split
        · rfl
        · rfl
      · rfl
    · contradiction
    · contradiction

/-- A call that is answered was not refused. -/
theorem refuses_eq_false {c : Call} {a : Answer} {st' : Shelf}
    (h : (server refuses).call c st = (.ok a, st')) : refuses (st.calls + 1) = false := by
  by_cases hr : refuses (st.calls + 1) = true
  · simp [server, hr] at h
  · simpa using hr

/-- Versions are read back from the rows that hold them. -/
theorem rows_of_versions (vs : List Int) :
    (vs.map fun v => [Cell.int v]).mapM Server.rowVersion = .ok vs := by
  induction vs with
  | nil => rfl
  | cons v vs ih =>
    rw [List.map_cons, List.mapM_cons, ih]
    rfl

/-- The server with a ledger is as servers are expected to be, for files that do not record versions
themselves. -/
theorem transactional (refuses : Nat → Bool) {files : List Migration}
    (hfiles : ∀ m ∈ files, m.body ≠ Server.recordStatement ∧
      Text.int64? (Text.ofInt m.version) = .ok m.version) :
    Transactional (server refuses) kept draft files where
  ensure _ := kept_call (by simp)
  query _ := kept_call (by simp)
  versions st a st' h vs hvs _ v := by
    have hr := refuses_eq_false h
    simp only [server, hr, Bool.false_eq_true, if_false, Prod.mk.injEq, Except.ok.injEq] at h
    rw [← h.1, rows_of_versions] at hvs
    cases hvs
    exact Iff.rfl
  start _ := kept_call (by simp)
  started st a st' h := by
    have hr := refuses_eq_false h
    simp only [server, hr, Bool.false_eq_true, if_false, Prod.mk.injEq] at h
    rw [← h.2]
  body m _ st _ _ := kept_call (by simp)
  executed m hm st l a st' hdraft h := by
    have hr := refuses_eq_false h
    simp [server, hr, hdraft, (hfiles m hm).1] at h
    rw [← h.2]
  record m _ st _ _ := kept_call (by simp)
  recorded m hm st l a st' hdraft h := by
    have hr := refuses_eq_false h
    simp only [server, hr, hdraft, Bool.false_eq_true, if_false, if_true] at h
    split at h
    · rename_i v hv
      cases h
      simp only [Ledger.newVersion?, List.head?_cons, Option.bind_some, (hfiles m hm).2] at hv
      have hsame : m.version = v := by
        simpa [Except.toOption] using (Option.filter_eq_some_iff.mp hv).1
      rw [hsame]
    · cases h
  rollback _ := kept_call (by simp)
  committed st l a st' hdraft h := by
    have hr := refuses_eq_false h
    simp [server, hr, hdraft] at h
    rw [← h.2]
  -- a refused end of the transaction has undone the draft
  uncommitted st f st' h := by
    unfold server at h
    dsimp only at h
    split at h
    · cases h
      rfl
    · cases hdraft : st.draft with
      | none =>
        rw [hdraft] at h
        cases h
        rfl
      | some l =>
        rw [hdraft] at h
        cases h

/-- A server with a ledger that refuses no numbers is willing, so the assumption that statements
succeed can be met. -/
theorem willing {files : List Migration}
    (hfiles : ∀ m ∈ files, m.body ≠ Server.recordStatement ∧
      Text.int64? (Text.ofInt m.version) = .ok m.version) :
    Willing (server fun _ => false) draft files where
  ensure st := by
    have hother : Server.ensureStatement ≠ Server.recordStatement := by decide
    cases hdraft : st.draft with
    | none => simp [server, hdraft]
    | some l => simp [server, hdraft, hother]
  versions st := ⟨_, _, st.kept.versions, rfl, rows_of_versions _, rfl⟩
  start st := ⟨_, _, rfl⟩
  body m hm st l hdraft := by simp [server, hdraft, (hfiles m hm).1]
  record m hm st l hdraft hv := by
    have hnew : l.newVersion? [Text.ofInt m.version, m.name] = some m.version := by
      simp [Ledger.newVersion?, (hfiles m hm).2, hv, Except.toOption]
    simp [server, hdraft, hnew]
  commit st l hdraft := by simp [server, hdraft]

end Shelf

/-- The files of the program stand in the order of their names. -/
theorem inOrder_migrations : inOrder migrations = migrations := by
  unfold inOrder
  rw [List.filter_eq_self.mpr (by decide +kernel), List.mergeSort_of_pairwise (by decide)]

/-- The names of the program's own files say their versions. -/
theorem versionOf_migrations : ∀ m ∈ migrations, versionOf m.name = .ok m.version := by
  intro m hm
  simp only [migrations, List.mem_cons, List.not_mem_nil, or_false] at hm
  rcases hm with rfl | rfl
  · rfl
  · rfl

/-- The bodies of the program's own files are none of them the statement that records a version, so
that the sample server does not take a body for a record; and their versions are read back as they
are written. -/
theorem plain_migrations : ∀ m ∈ migrations, m.body ≠ Server.recordStatement ∧
    Text.int64? (Text.ofInt m.version) = .ok m.version := by
  intro m hm
  simp only [migrations, List.mem_cons, List.not_mem_nil, or_false] at hm
  rcases hm with rfl | rfl
  · exact ⟨by decide +kernel, rfl⟩
  · exact ⟨by decide +kernel, rfl⟩

/-- The record of the second file is refused once: that file is left for the next run. In a file of
the first form the index is refused, and the column in the same step is not added either. -/
theorem migrations_resume_of_refused_record :
    (((Shelf.server (· == 9)).migrate migrations).after {}).kept.versions = [1] ∧
      (∃ st₂, (Shelf.server fun _ => false).migrate migrations
          (((Shelf.server (· == 9)).migrate migrations).after {}) = .ok () st₂ ∧
        st₂.kept.versions = [1, 2] ∧
        ∃ st₃, (Shelf.server fun _ => false).migrate migrations st₂ = .ok () st₃ ∧
          st₃.kept = st₂.kept) ∧
      (Database.upgrade
        (fun n part => if n = 2 ∧ part = .statement 1 then some .unopened else none) 1
        { schema := some (.number 1), builds := some {} }).1.Stands 1 := by
  have hplain := plain_migrations
  have hnames := versionOf_migrations
  rw [← inOrder_migrations] at hplain hnames
  have hdistinct : ((inOrder migrations).map Migration.version).Nodup := by
    rw [inOrder_migrations]
    decide
  have hform : ({ schema := some (.number 1), builds := some {} } : Database).Stands 1 :=
    ⟨rfl, [], rfl⟩
  obtain ⟨⟨done, left, hsplit, -, hkept, -, -, st₂, hrun₂, hkept₂, st₃, hrun₃, hkept₃⟩, w, -, -,
    hstands, -⟩ :=
    migrations_resume (Shelf.transactional (· == 9) hplain) (Shelf.transactional _ hplain)
      (Shelf.willing hplain) hnames hdistinct {}
      (fun n part => if n = 2 ∧ part = .statement 1 then some .unopened else none) hform
  obtain rfl : 1 = w := Int.ofNat.inj (Schema.number.inj (Option.some.inj hstands.schema))
  refine ⟨?_, ⟨st₂, hrun₂, ?_, st₃, hrun₃, hkept₃⟩, hstands⟩
  · unfold Server.migrate
    rw [inOrder_migrations]
    decide +kernel
  · rw [hkept₂, hkept, ← Ledger.after_append, ← hsplit, inOrder_migrations]
    decide

end NovelScript.Cache
