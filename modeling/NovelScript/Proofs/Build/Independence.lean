import NovelScript.Proofs.Build.Crew
import NovelScript.Proofs.Cache.Handle
import NovelScript.Proofs.Files.Atomic

/-!
# Documents that do not disturb each other

Documents share a disk and a cache. A step of a document reads the file of the document, the file of
its script and the entries of the cache about it, and it changes nothing of that kind but the last
two. So where documents and scripts are in different places (`Layout`, `Plan`), a document gets on
from where the disk was at first, whatever the others do in between.

* **`Job.Moves.frame`** says what a step leaves alone.
* **`Phase.Follows`** says how far a document has come as a function of the disk at first, and
  **`Phase.Follows.moves`** that a step of the document keeps that.
-/

namespace NovelScript.Build

open Files (Disk)

/-! ## Places -/

namespace Job

/-- The places on the disk that matter to a document. -/
def places (j : Job) (d : Disk Content) : List (List Text) :=
  d.place j.source :: d.place j.output :: (j.builder.cache.map fun h => d.place h.path).toList

/-- What the file of the script holds, if it can be read. -/
def scriptFile (j : Job) (d : Disk Content) : Option Content :=
  (d.read j.output).toOption

/-- The entries of the cache about the document. -/
def rows (j : Job) (d : Disk Content) : Option (Bool × Cache.Table) :=
  j.builder.cache.bind fun h => h.rows j.rel d

/-- The text of the document. -/
def Holds (j : Job) (d : Disk Content) (text : Text) : Prop :=
  ∃ content, d.read j.source = .ok content ∧ content.asText = text

end Job

/-- Documents whose scripts go to different places, none of which is that of a document. What is
written beside a script, and the cache, are in places of their own. -/
structure Layout (d : Disk Content) (jobs : List Job) : Prop where
  outputs : (jobs.map fun j => d.place j.output).Nodup
  sources : ∀ j ∈ jobs, ∀ j' ∈ jobs, d.place j.output ≠ d.place j'.source
  salts : ∀ j ∈ jobs, Files.slash ∉ j.instant.moment.salt
  temporary : ∀ j ∈ jobs, ∀ j' ∈ jobs, ∀ p ∈ j'.places d,
    ¬ d.place (Files.temporaryPath j.output j.instant.moment.salt) <+: p
  backups : ∀ j ∈ jobs, j.builder.backup = true → ∀ j' ∈ jobs,
    d.place (Files.backupPath j.output j.instant.moment.stamp) ∉ j'.places d
  caches : ∀ j ∈ jobs, ∀ h, j.builder.cache = some h → Files.isDirect h.path = true ∧
    ∀ j' ∈ jobs, d.place h.path ≠ d.place j'.source ∧ d.place h.path ≠ d.place j'.output

/-- A layout of the documents of one builder. -/
structure Plan (d : Disk Content) (b : Builder) (jobs : List Job) : Prop extends Layout d jobs where
  builder : ∀ j ∈ jobs, j.builder = b
  related : ∀ j ∈ jobs, j.builder.target.path? j.root j.source ≠ none
  direct : ∀ j ∈ jobs, Files.isDirect j.source = true ∧ Files.isDirect j.output = true
  rels : (jobs.map (·.rel)).Nodup

/-- What changes at most when a document makes a step: the file of its script and the entries about
it. -/
structure Frame (d₀ : Disk Content) (jobs : List Job) (j : Job) (d d' : Disk Content) : Prop where
  home : d'.home = d.home
  sources : ∀ j' ∈ jobs, d'.fileAt (d₀.place j'.source) = d.fileAt (d₀.place j'.source)
  scripts : ∀ j' ∈ jobs, d₀.place j'.output ≠ d₀.place j.output →
    d'.fileAt (d₀.place j'.output) = d.fileAt (d₀.place j'.output)
  rows : ∀ h, j.builder.cache = some h → ∀ path, path ≠ j.rel → h.rows path d' = h.rows path d

/-- Nothing happens, and nothing else is touched. -/
theorem Frame.refl (d₀ : Disk Content) (jobs : List Job) (j : Job) (d : Disk Content) :
    Frame d₀ jobs j d d :=
  ⟨rfl, fun _ _ => rfl, fun _ _ _ => rfl, fun _ _ _ _ => rfl⟩

/-- Is it the disk that failed? -/
def Failure.isOfDisk : Failure → Bool
  | .undiscovered _ _ | .unwatched _ | .unread _ _ | .unwritten _ _ => true
  | _ => false

section

variable {d₀ d d' : Disk Content} {b : Builder} {jobs : List Job} {j : Job} {c : Conditions}
  {p p' : Phase}

/-- Where a path leads depends on the disk through its working directory only, which no step of a
document changes. -/
theorem place_congr (hhome : d.home = d₀.home) (path : Text) : d.place path = d₀.place path := by
  rw [Disk.place, Disk.place, hhome]

/-- The file of a script holds some content exactly when that can be read there. -/
theorem Job.scriptFile_eq_some {content : Content} :
    j.scriptFile d = some content ↔ d.read j.output = .ok content := by
  rw [Job.scriptFile]
  cases d.read j.output <;> simp [Except.toOption]

/-- What can be read of a script depends only on its place. -/
theorem Job.scriptFile_congr (hdirect : Files.isDirect j.output = true) (hhome : d'.home = d.home)
    (hfile : d'.fileAt (d.place j.output) = d.fileAt (d.place j.output)) :
    j.scriptFile d' = j.scriptFile d := by
  refine Option.ext fun content => ?_
  rw [scriptFile_eq_some, scriptFile_eq_some]
  exact Disk.read_congr hdirect hhome hfile content

namespace Plan

/-- Keeping an entry touches no file of a document or a script, because the file of the cache is
apart from them. -/
theorem frame_store (hplan : Plan d₀ b jobs) (hj : j ∈ jobs) (hhome : d.home = d₀.home)
    {h : Cache.Handle} (hcache : j.builder.cache = some h) {text script : Text}
    (hstore : h.store false (j.entry text script) d = .ok d') :
    Frame d₀ jobs j d d' ∧ j.scriptFile d' = j.scriptFile d := by
  obtain ⟨b', -, -, -, hhome', hfiles⟩ := Cache.Handle.store_ok hstore
  obtain ⟨t, -, -, hrows⟩ := Cache.Handle.rows_store hstore
  obtain ⟨-, hapart⟩ := hplan.caches j hj h hcache
  rw [place_congr hhome] at hfiles
  refine ⟨⟨hhome', fun j' hj' => hfiles _ (hapart j' hj').1.symm,
    fun j' hj' _ => hfiles _ (hapart j' hj').2.symm, fun h' hh' path hne => ?_⟩, ?_⟩
  · cases hcache.symm.trans hh'
    exact hrows path hne
  · refine Job.scriptFile_congr (hplan.direct j hj).2 hhome' ?_
    rw [place_congr hhome]
    exact hfiles _ (hapart j hj).2.symm

/-- Replacing the file of a script touches no other file that matters, and no cache. The places that
a replacement writes, which are the file, the one it is prepared in and the copy, are known from
`writeAtomic_ok`, and none of them belongs to another document. -/
theorem frame_write (hplan : Plan d₀ b jobs) (hj : j ∈ jobs) (hhome : d.home = d₀.home)
    {script : Text}
    (hwrite : Files.writeAtomic Content.empty j.instant.moment j.builder.backup j.output
      (.text script) d = .ok () d') :
    Frame d₀ jobs j d d' ∧ j.scriptFile d' = some (.text script) ∧ j.rows d' = j.rows d := by
  obtain ⟨hhome', hread, hfiles⟩ := Files.writeAtomic_ok (hplan.salts j hj) hwrite
  -- nothing that matters changes but the file of the script
  have hkept (j' : Job) (hj' : j' ∈ jobs) (q : List Text) (hq : q ∈ j'.places d₀)
      (hne : q ≠ d₀.place j.output) : d'.fileAt q = d.fileAt q := by
    refine hfiles q (by rwa [place_congr hhome]) ?_ fun hbackup => ?_
    · rw [place_congr hhome]
      exact hplan.temporary j hj j' hj' q hq
    · rw [place_congr hhome]
      rintro rfl
      exact hplan.backups j hj hbackup j' hj' hq
  have hrows (h : Cache.Handle) (hcache : j.builder.cache = some h) (path : Text) :
      h.rows path d' = h.rows path d := by
    obtain ⟨hdirect, hapart⟩ := hplan.caches j hj h hcache
    refine Cache.Handle.rows_congr hdirect hhome' ?_ path
    rw [place_congr hhome]
    exact hkept j hj _ (by simp [Job.places, hcache]) (hapart j hj).2
  refine ⟨⟨hhome', fun j' hj' => ?_, fun j' hj' hne => ?_, fun h hcache path _ =>
    hrows h hcache path⟩, ?_, ?_⟩
  · exact hkept j' hj' _ (by simp [Job.places]) (hplan.sources j hj j' hj').symm
  · exact hkept j' hj' _ (by simp [Job.places]) hne
  · exact Job.scriptFile_eq_some.2 hread
  · rw [Job.rows, Job.rows]
    cases hcache : j.builder.cache with
    | none => rfl
    | some h => exact hrows h hcache j.rel

end Plan

/-- A step leaves all other documents and their scripts alone. Only two kinds of steps change the
disk at all, that which keeps a script and that which writes it. -/
theorem Job.Moves.frame (h : j.Moves c p d p' d') (hplan : Plan d₀ b jobs) (hj : j ∈ jobs)
    (hhome : d.home = d₀.home) (hdisk : ∀ e, p' = .failed e → e.isOfDisk = false) :
    Frame d₀ jobs j d d' := by
  have hrefl := Frame.refl d₀ jobs j d
  cases h with
  | keep hcache hstore => exact (hplan.frame_store hj hhome hcache hstore).1
  | write hwrite => exact (hplan.frame_write hj hhome hwrite).1
  | unwritten => cases hdisk _ rfl
  | cancel => exact hrefl
  | refuse => exact hrefl
  | accept => exact hrefl
  | unread => exact hrefl
  | read => exact hrefl
  | hit => exact hrefl
  | miss => exact hrefl
  | malformed => exact hrefl
  | make => exact hrefl
  | forgo => exact hrefl
  | same => exact hrefl
  | differ => exact hrefl
  | done => exact hrefl
  | failed => exact hrefl

end

/-! ## How a document gets on -/

namespace Job

variable (j : Job)

/-- The script that entries about the document have for a text. -/
def found (rows : Option (Bool × Cache.Table)) (text : Text) : Option Text :=
  rows.bind fun r =>
    r.2.lookup j.rel (sourceFingerprint text) (optionsFingerprint j.builder.options)

/-- The entries about the document once its script was kept, if that is possible. -/
def kept (text script : Text) : Option (Bool × Cache.Table) → Option (Bool × Cache.Table)
  | some (true, t) => some (true, if Text.isBlank j.rel then t else t.store (j.entry text script))
  | rows => rows

/-- How a document comes to its script: the entries have it, or it is made and kept. In trouble the
entries may not be asked, and the script may not be kept. -/
inductive Gets (troubled : Prop) (text script : Text) (rows : Option (Bool × Cache.Table)) :
    (cached : Bool) → (rows' : Option (Bool × Cache.Table)) → Prop
  | found : j.found rows text = some script → Gets troubled text script rows true rows
  | made {rows' : Option (Bool × Cache.Table)} : j.found rows text = none ∨ troubled →
      scriptOf j.builder.options text = .ok script →
      rows' = j.kept text script rows ∨ troubled ∧ rows' = rows →
      Gets troubled text script rows false rows'

variable {j}

/-- What a document may get does not become less when more counts as trouble. -/
theorem Gets.mono {troubled troubled' : Prop} (hmono : troubled → troubled') {text script : Text}
    {rows rows' : Option (Bool × Cache.Table)} {cached : Bool}
    (h : j.Gets troubled text script rows cached rows') :
    j.Gets troubled' text script rows cached rows' := by
  cases h with
  | found hfound => exact .found hfound
  | made hmissed hscript hrows =>
    exact .made (hmissed.imp_right hmono) hscript (hrows.imp_right fun h => ⟨hmono h.1, h.2⟩)

end Job

/-- How far a document is when the disk was `d₀` at first and is `d` now. -/
def Phase.Follows (d₀ d : Disk Content) (troubled : Prop) (j : Job) : Phase → Prop
  | .waiting | .admitted => j.rows d = j.rows d₀ ∧ j.scriptFile d = j.scriptFile d₀
  | .read text => j.Holds d₀ text ∧ j.rows d = j.rows d₀ ∧ j.scriptFile d = j.scriptFile d₀
  | .missed text =>
    j.Holds d₀ text ∧ (j.found (j.rows d₀) text = none ∨ troubled) ∧
      j.rows d = j.rows d₀ ∧ j.scriptFile d = j.scriptFile d₀
  | .made text script =>
    j.Holds d₀ text ∧ (j.found (j.rows d₀) text = none ∨ troubled) ∧
      scriptOf j.builder.options text = .ok script ∧
      j.rows d = j.rows d₀ ∧ j.scriptFile d = j.scriptFile d₀
  | .ready text script cached =>
    j.Holds d₀ text ∧ j.Gets troubled text script (j.rows d₀) cached (j.rows d) ∧
      j.scriptFile d = j.scriptFile d₀
  | .differing text script cached =>
    j.Holds d₀ text ∧ j.Gets troubled text script (j.rows d₀) cached (j.rows d) ∧
      j.isThere script d₀ = false ∧ j.scriptFile d = j.scriptFile d₀
  | .done text r =>
    j.Holds d₀ text ∧ ∃ script, j.Gets troubled text script (j.rows d₀) r.cached (j.rows d) ∧
      r = j.result script r.cached (!j.isThere script d₀) ∧
      j.scriptFile d = if j.isThere script d₀ then j.scriptFile d₀ else some (.text script)
  | .failed e =>
    (e = .cancelled ∧ troubled ∨ ∃ text x, e = .malformed j.rel x ∧ j.Holds d₀ text ∧
      scriptOf j.builder.options text = .error x) ∧
      j.rows d = j.rows d₀ ∧ j.scriptFile d = j.scriptFile d₀

section

variable {d₀ d d' : Disk Content} {b : Builder} {jobs : List Job} {j : Job} {c : Conditions}
  {p p' : Phase} {troubled troubled' : Prop}

/-- What happens to other documents does not matter: where a document stands is said of its own
source, its own script and its own entries, and these are the same. -/
theorem Phase.Follows.congr (h : p.Follows d₀ d troubled j) (hmono : troubled → troubled')
    (hrows : j.rows d' = j.rows d) (hfile : j.scriptFile d' = j.scriptFile d) :
    p.Follows d₀ d' troubled' j := by
  cases p with
  | waiting => exact ⟨hrows.trans h.1, hfile.trans h.2⟩
  | admitted => exact ⟨hrows.trans h.1, hfile.trans h.2⟩
  | read text => exact ⟨h.1, hrows.trans h.2.1, hfile.trans h.2.2⟩
  | missed text =>
    obtain ⟨hholds, hmissed, hr, hf⟩ := h
    exact ⟨hholds, hmissed.imp_right hmono, hrows.trans hr, hfile.trans hf⟩
  | made text script =>
    obtain ⟨hholds, hmissed, hscript, hr, hf⟩ := h
    exact ⟨hholds, hmissed.imp_right hmono, hscript, hrows.trans hr, hfile.trans hf⟩
  | ready text script cached =>
    obtain ⟨hholds, hgets, hf⟩ := h
    exact ⟨hholds, hrows ▸ hgets.mono hmono, hfile.trans hf⟩
  | differing text script cached =>
    obtain ⟨hholds, hgets, hthere, hf⟩ := h
    exact ⟨hholds, hrows ▸ hgets.mono hmono, hthere, hfile.trans hf⟩
  | done text r =>
    obtain ⟨hholds, script, hgets, hr, hf⟩ := h
    exact ⟨hholds, script, hrows ▸ hgets.mono hmono, hr, hfile.trans hf⟩
  | failed e =>
    obtain ⟨hcause, hr, hf⟩ := h
    exact ⟨hcause.imp_left fun h => ⟨h.1, hmono h.2⟩, hrows.trans hr, hfile.trans hf⟩

/-- The cache finds what the entries about the document have. -/
theorem Job.lookup_eq_found {h : Cache.Handle} (hcache : j.builder.cache = some h)
    {text script : Text} :
    h.lookup false j.rel (sourceFingerprint text) (optionsFingerprint j.builder.options) d =
      .ok (some script) ↔ j.found (j.rows d) text = some script := by
  rw [Cache.Handle.lookup_eq_some, Job.found, Job.rows, hcache, Option.bind_some,
    Option.bind_eq_some_iff]
  exact ⟨fun ⟨runs, t, hrows, hfound⟩ => ⟨(runs, t), hrows, hfound⟩,
    fun ⟨(runs, t), hrows, hfound⟩ => ⟨runs, t, hrows, hfound⟩⟩

/-- What is found is found by the cache of the builder. -/
theorem Job.exists_lookup_of_found {text script : Text} (h : j.found (j.rows d) text = some script) :
    ∃ hd, j.builder.cache = some hd ∧
      hd.lookup false j.rel (sourceFingerprint text) (optionsFingerprint j.builder.options) d =
        .ok (some script) := by
  cases hcache : j.builder.cache with
  | none => simp [Job.found, Job.rows, hcache] at h
  | some hd => exact ⟨hd, rfl, (Job.lookup_eq_found hcache).2 h⟩

/-- What can be kept is kept. -/
theorem Job.rows_of_store {h : Cache.Handle} (hcache : j.builder.cache = some h)
    {text script : Text} (hstore : h.store false (j.entry text script) d = .ok d') :
    j.rows d' = j.kept text script (j.rows d) := by
  obtain ⟨t, hrows, hrows', -⟩ := Cache.Handle.rows_store hstore
  obtain ⟨hblank, -⟩ := Cache.Handle.exists_store_iff.1 ⟨d', hstore⟩
  have hblank : Text.isBlank j.rel = false := hblank
  have hrows : h.rows j.rel d = some (true, t) := hrows
  have hrows' : h.rows j.rel d' = some (true, t.store (j.entry text script)) := hrows'
  rw [Job.rows, Job.rows, hcache, Option.bind_some, Option.bind_some, hrows, hrows', Job.kept, hblank]
  rfl

/-- Entries that cannot be changed are not: where there is no cache, or a document has no path that
the cache takes, what was kept is what there was. -/
theorem Job.kept_eq_self {text script : Text}
    (hnone : ∀ h d', j.builder.cache = some h → h.store false (j.entry text script) d ≠ .ok d') :
    j.kept text script (j.rows d) = j.rows d := by
  cases hcache : j.builder.cache with
  | none =>
    rw [Job.rows, hcache]
    rfl
  | some h =>
    rw [Job.rows, hcache, Option.bind_some]
    cases hrows : h.rows j.rel d with
    | none => rfl
    | some r =>
      obtain ⟨runs, t⟩ := r
      cases runs with
      | false => rfl
      | true =>
        have hblank : Text.isBlank j.rel = true := by
          by_cases hb : Text.isBlank j.rel = true
          · exact hb
          · have hb : Text.isBlank j.rel = false := by simpa using hb
            obtain ⟨d', hstore⟩ := (Cache.Handle.exists_store_iff (e := j.entry text script)).2
              ⟨hb, t, hrows⟩
            exact absurd hstore (hnone h d' hcache)
        rw [Job.kept, hblank]
        rfl

/-- Whether the script is there is known from its file. -/
theorem Job.isThere_eq (j : Job) (script : Text) (d : Disk Content) :
    j.isThere script d = (j.scriptFile d).any (·.asText == script) := by
  rw [Job.isThere, Job.scriptFile]
  cases d.read j.output <;> rfl

/-- Whether a script is there already depends on its file alone. -/
theorem Job.isThere_congr (hfile : j.scriptFile d = j.scriptFile d₀) (script : Text) :
    j.isThere script d = j.isThere script d₀ := by
  rw [isThere_eq, isThere_eq, hfile]

/-- A step of a document gets it on from where the disk was at first. The claim is stated about the
first disk and not the present one, so that it can be compared with a build that starts there. -/
theorem Phase.Follows.moves (h : p.Follows d₀ d troubled j) (hmoves : j.Moves c p d p' d')
    (hplan : Plan d₀ b jobs) (hj : j ∈ jobs) (hhome : d.home = d₀.home)
    (hsource : d.fileAt (d₀.place j.source) = d₀.fileAt (d₀.place j.source))
    (hcalm : c.cancelled = true ∨ c.trouble ≠ none → troubled)
    (hdisk : ∀ e, p' = .failed e → e.isOfDisk = false) : p'.Follows d₀ d' troubled j := by
  obtain ⟨hdirect, -⟩ := hplan.direct j hj
  cases hmoves with
  -- being called off needs the trouble of another document
  | cancel hc => exact ⟨.inl ⟨rfl, hcalm (.inl hc)⟩, h⟩
  | refuse hnone => exact absurd hnone (hplan.related j hj)
  | accept => exact h
  | unread => cases hdisk _ rfl
  | @read _ content hread =>
    exact ⟨⟨content, (Disk.read_congr hdirect hhome hsource content).1 hread, rfl⟩, h⟩
  -- the rows of this document are those of the start, so the hit is one there too
  | hit hcache hlookup =>
    obtain ⟨hholds, hrows, hfile⟩ := h
    have hfound := (Job.lookup_eq_found hcache).1 hlookup
    rw [hrows] at hfound
    exact ⟨hholds, by rw [hrows]; exact .found hfound, hfile⟩
  -- a miss without trouble is one at the start; with trouble anything may be missed
  | @miss _ text hnone =>
    obtain ⟨hholds, hrows, hfile⟩ := h
    refine ⟨hholds, ?_, hrows, hfile⟩
    rcases Classical.em (c.trouble = none) with htrouble | htrouble
    · refine .inl ?_
      cases hfound : j.found (j.rows d₀) text with
      | none => rfl
      | some script =>
        rw [← hrows] at hfound
        obtain ⟨hd, hcache, hlookup⟩ := Job.exists_lookup_of_found hfound
        exact absurd hlookup (hnone hd script hcache htrouble)
    · exact .inr (hcalm (.inr htrouble))
  | @malformed _ text x hscript => exact ⟨.inr ⟨text, x, rfl, h.1, hscript⟩, h.2.2⟩
  | make hscript => exact ⟨h.1, h.2.1, hscript, h.2.2⟩
  | keep hcache hstore =>
    obtain ⟨hholds, hmissed, hscript, hrows, hfile⟩ := h
    have hkept := Job.rows_of_store hcache hstore
    rw [hrows] at hkept
    exact ⟨hholds, .made hmissed hscript (.inl hkept),
      (hplan.frame_store hj hhome hcache hstore).2.trans hfile⟩
  -- nothing was kept: it could not be, or the cache was in trouble
  | forgo hnone =>
    obtain ⟨hholds, hmissed, hscript, hrows, hfile⟩ := h
    refine ⟨hholds, .made hmissed hscript ?_, hfile⟩
    rcases Classical.em (c.trouble = none) with htrouble | htrouble
    · have hself := Job.kept_eq_self fun hd d' hcache => hnone hd d' hcache htrouble
      rw [hrows] at hself
      exact .inl (hrows.trans hself.symm)
    · exact .inr ⟨hcalm (.inr htrouble), hrows⟩
  -- whether the script is there was decided by the file of the start
  | @same _ text script cached hthere =>
    obtain ⟨hholds, hgets, hfile⟩ := h
    rw [Job.isThere_congr hfile] at hthere
    exact ⟨hholds, script, hgets, by rw [hthere]; rfl, by rw [hthere, hfile]; rfl⟩
  | differ hthere =>
    obtain ⟨hholds, hgets, hfile⟩ := h
    rw [Job.isThere_congr hfile] at hthere
    exact ⟨hholds, hgets, hthere, hfile⟩
  | @write _ _ text script cached hwrite =>
    obtain ⟨hholds, hgets, hthere, -⟩ := h
    obtain ⟨-, hscript, hrows⟩ := hplan.frame_write hj hhome hwrite
    exact ⟨hholds, script, hrows ▸ hgets, by rw [hthere]; rfl, by rw [hthere, hscript]; rfl⟩
  | unwritten => cases hdisk _ rfl
  | done => exact h
  | failed => exact h

/-! ## Where a document gets to -/

/-- Entries without their runs and times. -/
def essences (rows : Option (Bool × Cache.Table)) : Option (List (Text × Text × Text × Text)) :=
  rows.map fun r => r.2.map Cache.Entry.essence

/-- Without trouble there is one way for a document to come to its script; when that happens shows
in times only. -/
theorem Job.Gets.unique {x : Instant} {text script script' : Text} {cached cached' : Bool}
    {rows rows₁ rows₂ : Option (Bool × Cache.Table)} (h : j.Gets False text script rows cached rows₁)
    (h' : { j with instant := x }.Gets False text script' rows cached' rows₂) :
    script = script' ∧ cached = cached' ∧ essences rows₁ = essences rows₂ := by
  have hsame : ({ j with instant := x } : Job).found rows text = j.found rows text := rfl
  cases h with
  | found hfound =>
    cases h' with
    | found hfound' =>
      rw [hsame, hfound] at hfound'
      exact ⟨Option.some_inj.1 hfound', rfl, rfl⟩
    | made hmissed =>
      rw [hsame, hfound] at hmissed
      simp at hmissed
  | made hmissed hscript hrows =>
    cases h' with
    | found hfound' =>
      rw [← hsame, hfound'] at hmissed
      simp at hmissed
    | made _ hscript' hrows' =>
      have hscripts : script = script' := by
        have : Except.ok script = Except.ok script' := hscript.symm.trans hscript'
        exact Except.ok.inj this
      subst hscripts
      refine ⟨rfl, rfl, ?_⟩
      rw [hrows.resolve_right fun h => h.1, hrows'.resolve_right fun h => h.1]
      rcases rows with _ | ⟨_ | _, t⟩
      · rfl
      · rfl
      · rw [Job.kept, Job.kept, essences, essences, Option.map_some, Option.map_some]
        have hrel : ({ j with instant := x } : Job).rel = j.rel := rfl
        dsimp only
        rw [hrel]
        split
        · rfl
        · have hpath : (j.entry text script).path =
              (({ j with instant := x } : Job).entry text script).path := rfl
          exact congrArg some (Cache.Table.map_store hpath rfl t)

/-- A document holds one text. -/
theorem Job.Holds.unique {text text' : Text} (h : j.Holds d text) (h' : j.Holds d text') :
    text = text' := by
  obtain ⟨content, hread, rfl⟩ := h
  obtain ⟨content', hread', rfl⟩ := h'
  rw [hread] at hread'
  rw [Except.ok.inj hread']

/-- Without trouble, a document that is built is built in one way; when that happens shows in times
only. -/
theorem Phase.Follows.unique {x : Instant} {text text' : Text} {r r' : Result}
    (h : (Phase.done text r).Follows d₀ d False j)
    (h' : (Phase.done text' r').Follows d₀ d' False { j with instant := x }) :
    r = r' ∧ j.scriptFile d = j.scriptFile d' ∧ essences (j.rows d) = essences (j.rows d') := by
  obtain ⟨hholds, script, hgets, hr, hfile⟩ := h
  obtain ⟨hholds', script', hgets', hr', hfile'⟩ := h'
  cases hholds.unique hholds'
  obtain ⟨rfl, hcached, hrows⟩ := hgets.unique hgets'
  refine ⟨?_, hfile.trans hfile'.symm, hrows⟩
  rw [hr, hr', hcached]
  rfl

end

end NovelScript.Build
