import NovelScript.Proofs.Build.Rewalk
import NovelScript.Proofs.Cache.Refinement
import NovelScript.Proofs.Text.Space

/-!
# A directory that is built again

Once all documents of a directory are built, each one is up to date: its script is in its file, and
a build comes to that script again. The cache has it, or it is made anew and there is no cache that
could keep it. So a second build changes nothing on the disk, unless it does not come so far: the
directory must be found again.

* **`Job.UpToDate`** says what it is for a document to be up to date, **`Job.UpToDate.moves`** that a
  step of such a document leaves the disk alone, and **`Crew.Run.repeats`** that any number of steps
  does.
* **`Phase.Follows.upToDate`** says that a document is up to date once it is built.
* **`buildDirectory_again`** is about the second build, however both builds are ordered. A root that
  is spelled through an empty directory may be lost in between (`buildDirectory_of_lost_root`).
-/

namespace NovelScript.Build

open Files (Disk)

/-! ## Documents that are up to date -/

/-- What a document that is built comes to. -/
structure Product where
  /-- The text of the document. -/
  text : Text
  /-- Its script. -/
  script : Text
  /-- Does the cache have the script? -/
  cached : Bool

/-- How a document comes to its script when it is built again: the cache has it, or it is made and
no cache keeps it. -/
inductive Job.Regains (j : Job) (d : Disk Content) (text script : Text) : (cached : Bool) → Prop
  | found : j.found (j.rows d) text = some script → Regains j d text script true
  | made : j.found (j.rows d) text = none → scriptOf j.builder.options text = .ok script →
      (∀ h d', j.builder.cache = some h → h.store false (j.entry text script) d ≠ .ok d') →
      Regains j d text script false

/-- A document is up to date: its script is in its file, and a build comes to that script. -/
structure Job.UpToDate (j : Job) (d : Disk Content) (x : Product) : Prop where
  related : j.builder.target.path? j.root j.source ≠ none
  holds : j.Holds d x.text
  there : j.isThere x.script d = true
  regains : j.Regains d x.text x.script x.cached

/-- What is told about a document that is up to date. -/
def Job.again (j : Job) (x : Product) : Result :=
  j.result x.script x.cached false

/-- How far a document that is up to date is. -/
def Phase.Repeats (j : Job) (x : Product) : Phase → Prop
  | .waiting | .admitted => True
  | .read text => text = x.text
  | .missed text => text = x.text ∧ x.cached = false
  | .made text script => text = x.text ∧ script = x.script ∧ x.cached = false
  | .ready text script cached => text = x.text ∧ script = x.script ∧ cached = x.cached
  | .done text r => text = x.text ∧ r = j.again x
  | .differing _ _ _ | .failed _ => False

section

variable {j : Job} {d d' : Disk Content} {c : Conditions} {p p' : Phase} {x : Product}

/-- The file of a script holds one text. -/
theorem Job.eq_of_isThere {script script' : Text} (h : j.isThere script d = true)
    (h' : j.isThere script' d = true) : script = script' := by
  rw [Job.isThere_eq] at h h'
  cases hfile : j.scriptFile d with
  | none =>
    rw [hfile] at h
    cases h
  | some content =>
    rw [hfile, Option.any_some, beq_iff_eq] at h h'
    exact h.symm.trans h'

/-- When a document is built does not matter to whether it is up to date. -/
theorem Job.UpToDate.at (h : j.UpToDate d x) (i : Instant) :
    { j with instant := i }.UpToDate d x := by
  obtain ⟨text, script, cached⟩ := x
  refine ⟨h.related, h.holds, h.there, ?_⟩
  cases h.regains with
  | found hfound => exact .found hfound
  | made hmissed hscript hnone =>
    refine .made hmissed hscript fun hd d' hcache hstore => ?_
    -- whether an entry is kept does not depend on its time
    have hkeeps := Cache.Handle.exists_store_iff.1 ⟨d', hstore⟩
    obtain ⟨d'', hstore'⟩ := (Cache.Handle.exists_store_iff (e := j.entry text script)).2 hkeeps
    exact hnone hd d'' hcache hstore'

/-- A step of a document that is up to date changes nothing on the disk, as long as nothing comes in
between. -/
theorem Job.UpToDate.moves (h : j.UpToDate d x) (hp : p.Repeats j x) (hmoves : j.Moves c p d p' d')
    (hcancelled : c.cancelled = false) (htrouble : c.trouble = none) : d' = d ∧ p'.Repeats j x := by
  obtain ⟨text, script, cached⟩ := x
  obtain ⟨hrelated, hholds, hthere, hregains⟩ := h
  cases hmoves with
  | cancel hc => cases hcancelled.symm.trans hc
  | refuse hnone => exact absurd hnone hrelated
  | accept => exact ⟨rfl, trivial⟩
  | unread hread =>
    obtain ⟨content, hok, -⟩ := hholds
    cases hread.symm.trans hok
  | read hread => exact ⟨rfl, Job.Holds.unique ⟨_, hread, rfl⟩ hholds⟩
  -- a hit gives what the first build has left, and a document without a cache has none
  | hit hcache hlookup =>
    obtain rfl := hp
    have hfound := (Job.lookup_eq_found hcache).1 hlookup
    cases hregains with
    | found hfound' => exact ⟨rfl, rfl, Option.some_inj.1 (hfound.symm.trans hfound'), rfl⟩
    | made hmissed => cases hfound.symm.trans hmissed
  | miss hnone =>
    obtain rfl := hp
    refine ⟨rfl, rfl, ?_⟩
    cases hregains with
    | made => rfl
    | found hfound =>
      obtain ⟨hd, hcache, hlookup⟩ := Job.exists_lookup_of_found hfound
      exact absurd hlookup (hnone hd script hcache htrouble)
  | malformed herror =>
    obtain ⟨rfl, rfl⟩ := hp
    cases hregains with
    | made _ hscript => cases herror.symm.trans hscript
  | make hok =>
    obtain ⟨rfl, rfl⟩ := hp
    cases hregains with
    | made _ hscript => exact ⟨rfl, rfl, Except.ok.inj (hok.symm.trans hscript), rfl⟩
  -- what can be kept was kept by the first build, and would have been a hit
  | keep hcache hstore =>
    obtain ⟨rfl, rfl, rfl⟩ := hp
    cases hregains with
    | made _ _ hnone => exact absurd hstore (hnone _ _ hcache)
  | forgo =>
    obtain ⟨rfl, rfl, rfl⟩ := hp
    exact ⟨rfl, rfl, rfl, rfl⟩
  | same =>
    obtain ⟨rfl, rfl, rfl⟩ := hp
    exact ⟨rfl, rfl, rfl⟩
  -- the script is there, so it never comes to a write
  | differ hdiffers =>
    obtain ⟨rfl, rfl, rfl⟩ := hp
    cases hthere.symm.trans hdiffers
  | write => exact hp.elim
  | unwritten => exact hp.elim
  | done => exact ⟨rfl, hp⟩
  | failed => exact hp.elim

end

/-! ## Crews whose documents are up to date -/

/-- The documents of a crew are up to date on a disk, and the disk is that one. -/
structure Crew.Repeats (d : Disk Content) (product : Text → Product) (jobs : List Job) (w : Crew) :
    Prop where
  jobs_eq : w.tasks.map (·.1) = jobs
  disk_eq : w.disk = d
  repeats : ∀ task ∈ w.tasks, task.1.UpToDate d (product task.1.source) ∧
    task.2.Repeats task.1 (product task.1.source)

section

variable {d : Disk Content} {product : Text → Product} {jobs : List Job} {start w : Crew}

/-- While the documents only repeat what was done, none of them can stand in a state in which the
disk refused something. -/
theorem Crew.Repeats.not_troubled (h : w.Repeats d product jobs) : ¬ w.Troubled := by
  rintro ⟨task, hmem, e, htask, -⟩
  have hphase := (h.repeats task hmem).2
  rw [htask] at hphase
  exact hphase

/-- Any number of steps of documents that are up to date changes nothing on the disk. The induction
on the run carries that every document is still up to date, so that the next step is one of those
that find everything done. -/
theorem Crew.Run.repeats (h : Crew.Run start w) (hstart : start.Repeats d product jobs) :
    w.Repeats d product jobs := by
  induction h with
  | refl => exact hstart
  | @step w k c _ hcalm ih =>
    have hcalm : c.cancelled = false ∧ c.trouble = none := by
      refine ⟨?_, ?_⟩
      · by_contra hc
        exact ih.not_troubled (hcalm (.inl (by simpa using hc)))
      · by_contra ht
        exact ih.not_troubled (hcalm (.inr ht))
    rcases w.advance_cases k c with ⟨-, hself⟩ | ⟨j, p, p', hk, hmoves, hk', hothers⟩
    · rw [hself]
      exact ih
    obtain ⟨hup, hphase⟩ := ih.repeats _ (List.mem_of_getElem? hk)
    rw [ih.disk_eq] at hmoves
    obtain ⟨hdisk, hphase'⟩ := hup.moves hphase hmoves hcalm.1 hcalm.2
    refine ⟨Crew.jobs_advance.trans ih.jobs_eq, hdisk, fun task hmem => ?_⟩
    obtain ⟨n, hn⟩ := List.mem_iff_getElem?.1 hmem
    by_cases hne : n = k
    · subst hne
      cases hk'.symm.trans hn
      exact ⟨hup, hphase'⟩
    · exact ih.repeats task (List.mem_of_getElem? ((hothers n hne).symm.trans hn))

/-- Once they are finished, the crew returns what is told about documents that are up to date. -/
theorem Crew.Repeats.results (h : w.Repeats d product jobs) (hfinished : w.Finished) :
    w.tasks.map (·.2.result?) = (jobs.map fun j => j.again (product j.source)).map some := by
  rw [← h.jobs_eq, List.map_map, List.map_map]
  refine List.map_congr_left fun task hmem => ?_
  have hphase := (h.repeats task hmem).2
  rcases hfinished task hmem with ⟨text, r, htask⟩ | ⟨e, htask⟩
  · rw [htask] at hphase ⊢
    rw [Phase.result?, hphase.2]
    rfl
  · rw [htask] at hphase
    exact hphase.elim

end

/-! ## Documents that were built -/

section

variable {j : Job} {d d₀ : Disk Content} {text : Text} {r : Result}

/-- What a result says about a document, besides how it was built. -/
def Result.said (r : Result) : Text × Text × Text × Nat :=
  (r.source, r.rel, r.output, r.size)

/-- A document that was built without trouble is up to date. If its path is not blank and there was a
cache that works, the cache has its script. -/
theorem Phase.Follows.upToDate (h : (Phase.done text r).Follows d₀ d False j)
    (hrelated : j.builder.target.path? j.root j.source ≠ none) (hholds : j.Holds d text) :
    ∃ x, j.UpToDate d x ∧ r.said = (j.again x).said ∧
      (Text.isBlank j.rel = false → (∃ t, j.rows d₀ = some (true, t)) → x.cached = true) := by
  obtain ⟨-, script, hgets, hr, hfile⟩ := h
  -- the script was there at the start, or the build has written it
  have hthere : j.isThere script d = true := by
    by_cases hthere : j.isThere script d₀ = true
    · rw [if_pos hthere] at hfile
      rw [Job.isThere_congr hfile, hthere]
    · rw [if_neg hthere] at hfile
      simp [Job.isThere_eq, hfile, Content.asText]
  have hsaid (cached : Bool) : r.said = (j.again ⟨text, script, cached⟩).said := by
    rw [hr]
    rfl
  -- how the second build comes to the script depends on what the first one could keep
  generalize hcached : r.cached = cached at hgets
  generalize hafter : j.rows d = rows at hgets
  cases hgets with
  | found hfound => exact ⟨⟨text, script, true⟩, ⟨hrelated, hholds, hthere, .found (hafter ▸ hfound)⟩,
      hsaid true, fun _ _ => rfl⟩
  | made hmissed hscript hrows =>
    have hmissed := hmissed.resolve_right id
    have hrows := hrows.resolve_right fun h => h.1
    subst hrows
    by_cases hkeeps : Text.isBlank j.rel = false ∧ ∃ t, j.rows d₀ = some (true, t)
    · -- the script was kept, so it is found
      obtain ⟨hblank, t, ht⟩ := hkeeps
      have hfound : j.found (j.rows d) text = some script := by
        rw [hafter, ht, Job.kept, hblank]
        exact Cache.Table.lookup_store (j.entry text script) t
      exact ⟨⟨text, script, true⟩, ⟨hrelated, hholds, hthere, .found hfound⟩, hsaid true,
        fun _ _ => rfl⟩
    -- nothing was kept, so the script is made again, and again nothing can be kept
    · have hsame : j.kept text script (j.rows d₀) = j.rows d₀ := by
        rcases hrows : j.rows d₀ with _ | ⟨_ | _, t⟩
        · rfl
        · rfl
        · have hblank : Text.isBlank j.rel = true := by
            by_contra hb
            exact hkeeps ⟨by simpa using hb, t, hrows⟩
          rw [Job.kept, hblank]
          rfl
      rw [hsame] at hafter
      refine ⟨⟨text, script, false⟩, ⟨hrelated, hholds, hthere, .made ?_ hscript ?_⟩, hsaid false,
        fun hblank ht => absurd ⟨hblank, ht⟩ hkeeps⟩
      · rw [hafter]
        exact hmissed
      · intro h d' hcache hstore
        obtain ⟨hblank, t, ht⟩ := Cache.Handle.exists_store_iff.1 ⟨d', hstore⟩
        refine hkeeps ⟨hblank, t, ?_⟩
        rw [← hafter, Job.rows, hcache]
        exact ht

end

/-! ## The second build -/

section

variable {b : Builder} {clock : Text → Instant} {root : Text} {sources : List Text}
  {d : Disk Content}

/-- A name with a point in it is not blank, so the entry of a document with an ending is never
refused for its path. -/
theorem isBlank_of_point {s : Text} (h : (0x2E : UInt8) ∈ s) : Text.isBlank s = false := by
  have hspaces : ∀ w ∈ Text.spaces, (0x2E : UInt8) ∉ w := by decide
  rw [Bool.eq_false_iff, Ne, Text.isBlank_iff_white]
  intro hwhite
  exact hwhite.not_mem hspaces h

/-- The path of a document from the root is not blank, as it has a point in it. The cache refuses
blank paths; that this does not happen to documents is what a second build needs to find what the
first one kept. -/
theorem isBlank_rel (hfound : discover d root = .ok sources)
    (hnamed : ∀ e, d.find root = .ok e → Named e) {j : Job} (hroot : j.root = root)
    (hs : j.source ∈ sources) : Text.isBlank j.rel = false := by
  subst hroot
  refine isBlank_of_point ?_
  obtain ⟨hsource, ⟨-, hself⟩ | ⟨-, names, hbelow⟩⟩ := mem_discover hfound hnamed hs
  · rw [Job.rel, hself, Files.relative?, if_pos rfl, Option.getD_some]
    decide
  · obtain ⟨above, hnames, -⟩ := hbelow.rename
    have hpoint : (0x2E : UInt8) ∈ (Files.splitLast j.source).2 := by
      rw [isSource, Bool.and_eq_true] at hsource
      rcases extension_cases j.source with hnil | ⟨front, tail, htail, hname⟩
      · rw [hnil] at hsource
        exact absurd hsource.1 (by decide)
      · rw [hname]
        simp
    have hsplit : Text.splitAt Files.slash (Files.Path.joined names) = names :=
      Text.splitAt_join hbelow.1 fun n hn => (hbelow.2.1 n hn).2.1
    rw [Job.rel, Files.relative?_below hbelow.1 hbelow.2.2.1, Option.getD_some,
      Text.mem_iff_splitAt (by decide : (0x2E : UInt8) ≠ Files.slash), hsplit]
    exact ⟨_, by simp [hnames], hpoint⟩

/-- A crew whose documents are all built leaves them up to date: each has its script in its file,
and a cache that works has it too. -/
theorem exists_upToDate {d₀ : Disk Content} {w : Crew} {rs : List Result}
    (hplan : Plan d₀ b (jobsOf b clock root sources))
    (hw : w.Steady d₀ b (jobsOf b clock root sources)) (hreturns : w.Returns (.ok rs)) {n : Nat}
    {source : Text} (hn : sources[n]? = some source) :
    ∃ x r, rs[n]? = some r ∧
      (∀ i, (⟨b, i, root, source⟩ : Job).UpToDate w.disk x) ∧
      r.said = ((⟨b, clock source, root, source⟩ : Job).again x).said ∧
      (Text.isBlank (Job.rel ⟨b, clock source, root, source⟩) = false →
        (∃ t, Job.rows ⟨b, clock source, root, source⟩ d₀ = some (true, t)) → x.cached = true) := by
  obtain ⟨text, r, hk, hfollows⟩ := hw.done hreturns.not_troubled hreturns.finished hn
  have hj : (⟨b, clock source, root, source⟩ : Job) ∈ jobsOf b clock root sources :=
    List.mem_map_of_mem (List.mem_of_getElem? hn)
  have hholds : (⟨b, clock source, root, source⟩ : Job).Holds w.disk text := by
    obtain ⟨⟨content, hread, htext⟩, -⟩ := hfollows
    exact ⟨content, (Disk.read_congr (hplan.direct _ hj).1 hw.home (hw.sources _ hj) content).2 hread,
      htext⟩
  obtain ⟨x, hup, hsaid, hcached⟩ := hfollows.upToDate (hplan.related _ hj) hholds
  refine ⟨x, r, ?_, hup.at, hsaid, hcached⟩
  have hresults : w.tasks.map (·.2.result?) = rs.map some := hreturns
  have hat := congrArg (·[n]?) hresults
  simpa [hk, Phase.result?] using hat.symm

/-- When documents are built again does not show. -/
theorem again_jobsOf {product : Text → Product} (clock clock' : Text → Instant) :
    (jobsOf b clock root sources).map (fun j => j.again (product j.source)) =
      (jobsOf b clock' root sources).map fun j => j.again (product j.source) := by
  rw [jobsOf, jobsOf, List.map_map, List.map_map]
  rfl

/-- What each document has come to, and what was told about it, put together from the documents one
by one. The results of a call are read off this list, in the order of the documents. -/
theorem exists_products {d₀ : Disk Content} {w : Crew} {rs : List Result}
    (hplan : Plan d₀ b (jobsOf b clock root sources))
    (hw : w.Steady d₀ b (jobsOf b clock root sources)) (hreturns : w.Returns (.ok rs))
    (hblank : ∀ j ∈ jobsOf b clock root sources, Text.isBlank j.rel = false) :
    ∃ product : Text → Product,
      (∀ source ∈ sources, ∀ i, (⟨b, i, root, source⟩ : Job).UpToDate w.disk (product source)) ∧
      (jobsOf b clock root sources).map (fun j => (j.again (product j.source)).said) =
        rs.map Result.said ∧
      ∀ h t, b.cache = some h → h.table? d₀ = some t → ∀ source ∈ sources,
        (product source).cached = true := by
  have hone (source : Text) (hs : source ∈ sources) : ∃ x : Product,
      (∀ i, (⟨b, i, root, source⟩ : Job).UpToDate w.disk x) ∧
      ∀ h t, b.cache = some h → h.table? d₀ = some t → x.cached = true := by
    obtain ⟨n, hn⟩ := List.mem_iff_getElem?.1 hs
    obtain ⟨x, -, -, hup, -, hcached⟩ := exists_upToDate hplan hw hreturns hn
    refine ⟨x, hup, fun h t hcache ht => hcached (hblank _ (List.mem_map_of_mem hs)) ?_⟩
    refine ⟨t.about (Job.rel ⟨b, clock source, root, source⟩), ?_⟩
    rw [Job.rows, hcache, Option.bind_some, Cache.Handle.rows, Cache.Handle.table?_eq_some_iff.1 ht]
    rfl
  have : Nonempty Product := ⟨⟨[], [], false⟩⟩
  choose! product hup hcached using hone
  refine ⟨product, hup, List.ext_getElem? fun n => ?_, fun h t hcache ht source hs =>
    hcached source hs h t hcache ht⟩
  rw [List.getElem?_map, List.getElem?_map, jobsOf, List.getElem?_map]
  cases hn : sources[n]? with
  | none =>
    have hresults : w.tasks.map (·.2.result?) = rs.map some := hreturns
    have hnone := congrArg (·[n]?) hresults
    simp only [List.getElem?_map, hw.getElem?_eq_none hn, Option.map_none] at hnone
    rw [Option.map_eq_none_iff.1 hnone.symm]
    rfl
  | some source =>
    obtain ⟨x, r, hr, hup', hsaid, -⟩ := exists_upToDate hplan hw hreturns hn
    have hs := List.mem_of_getElem? hn
    have hscript := Job.eq_of_isThere (hup source hs (clock source)).there (hup' (clock source)).there
    rw [hr, Option.map_some, Option.map_some, Option.map_some, hsaid, Job.again, Job.again, hscript]
    rfl

section

variable {product : Text → Product}
  (hup : ∀ source ∈ sources, ∀ i, (⟨b, i, root, source⟩ : Job).UpToDate d (product source))

include hup

/-- At the start of the second build no document has taken a step, and all of them only repeat what
was done. -/
theorem repeats_tasksOf (clock : Text → Instant) (notes : List Note) :
    Crew.Repeats d product (jobsOf b clock root sources)
      ⟨⟨d, notes⟩, Crew.tasksOf b clock root sources⟩ := by
  refine ⟨jobs_tasksOf, rfl, fun task hmem => ?_⟩
  obtain ⟨source, hs, rfl⟩ := List.mem_map.1 hmem
  exact ⟨hup source hs _, trivial⟩

/-- Documents that are up to date, built one after the other, leave the disk as it is, and what is
told about them is what is told about documents that are up to date. -/
theorem buildDirectory_repeats (hvalid : b.options.validate = .ok ())
    (hfound : discover d root = .ok sources) (i : Instant) (notes : List Note) :
    ∃ notes', b.buildDirectory i false root ⟨d, notes⟩ =
      .ok ((jobsOf b (fun _ => i) root sources).map fun j => j.again (product j.source))
        ⟨d, notes'⟩ := by
  have hstart := repeats_tasksOf hup (fun _ => i) notes
  obtain ⟨hok, herror⟩ := buildDirectory_run (i := i) (s := ⟨d, notes⟩) hvalid hfound
  cases hb : b.buildDirectory i false root ⟨d, notes⟩ with
  | ok rs s' =>
    obtain ⟨w, hrun, hd, hreturns⟩ := hok rs s' hb
    have hw := hrun.repeats hstart
    cases (Crew.returns_iff (hw.results hreturns.finished) (.ok rs)).1 hreturns
    rw [hw.disk_eq] at hd
    exact ⟨s'.notes, by rw [hd]⟩
  | error x s' =>
    obtain ⟨w, hrun, -, ⟨task, hmem, htask⟩, -⟩ := herror x s' hb
    have hphase := ((hrun.repeats hstart).repeats task hmem).2
    rw [htask] at hphase
    exact hphase.elim

end

/-- **A build is done once.** A crew, in whatever order, has built the documents below a root, whose
scripts go to places of their own and do not have the names of documents. Then the root is found
again if it is spelled directly. A root that is not found cannot be built again. One that is found
has the same documents, and another build of them succeeds, one after the other or by a crew in any
order: it says the same about each document, takes all of them from a cache that works, writes none,
and leaves the whole disk as it is. -/
theorem buildDirectory_again {s : Site} {w : Crew} {rs : List Result}
    (hvalid : b.options.validate = .ok ()) (hfound : discover s.disk root = .ok sources)
    (hnamed : ∀ e, s.disk.find root = .ok e → Named e) (hext : Files.slash ∉ b.target.extension)
    (hroot : ∀ c, s.disk.find root = .ok (.file c) → Files.isDirect root = true)
    (hlayout : Layout s.disk (jobsOf b clock root sources))
    (hscripts : ∀ source ∈ sources, ∀ output, b.target.path? root source = some output →
      isSource output = false)
    (hrun : Crew.Run ⟨s, Crew.tasksOf b clock root sources⟩ w) (hreturns : w.Returns (.ok rs)) :
    (Files.isDirect root = true → ∃ e, w.disk.find root = .ok e) ∧
    ((∀ e, w.disk.find root ≠ .ok e) → ∀ i notes, ∃ x s',
      b.buildDirectory i false root ⟨w.disk, notes⟩ = .error (.undiscovered root x) s') ∧
    ∀ e, w.disk.find root = .ok e → discover w.disk root = .ok sources ∧
      ∃ rs' : List Result, rs'.map Result.said = rs.map Result.said ∧
        (∀ r ∈ rs', r.written = false) ∧
        (∀ h t, b.cache = some h → h.table? s.disk = some t → ∀ r ∈ rs', r.cached = true) ∧
        (∀ i notes, ∃ notes',
          b.buildDirectory i false root ⟨w.disk, notes⟩ = .ok rs' ⟨w.disk, notes'⟩) ∧
        ∀ clock' notes w',
          Crew.Run ⟨⟨w.disk, notes⟩, Crew.tasksOf b clock' root sources⟩ w' → w'.Finished →
          w'.disk = w.disk ∧ ∀ out, w'.Returns out ↔ out = .ok rs' := by
  have hplan := plan_of_discover hfound hnamed hext hroot hlayout
  have hw := (hrun.steady hplan steady_tasksOf).resolve_right hreturns.not_broken
  obtain ⟨e₀, he₀, hsort⟩ := discover_eq_ok_iff.1 hfound
  -- the scripts are no documents, so the second search finds what the first one found
  have hlists := hrun.lists_of_discover hreturns.not_broken hplan hscripts he₀ hsort
  refine ⟨fun hdirect => hlists.find hdirect hw.home he₀ rfl, fun hlost i notes => ?_,
    fun e he => ?_⟩
  · cases hfound' : discover w.disk root with
    | ok sources' =>
      obtain ⟨-, e, he, -⟩ := discover_eq_ok hfound'
      exact absurd he (hlost e)
    | error x =>
      exact ⟨x, _, Builder.buildDirectory_undiscovered (s := ⟨w.disk, notes⟩) hvalid hfound' i false⟩
  · have hfound' : discover w.disk root = .ok sources := by rw [hlists.discover he, hsort]
    have hblank (j : Job) (hj : j ∈ jobsOf b clock root sources) : Text.isBlank j.rel = false := by
      obtain ⟨source, hs, rfl⟩ := List.mem_map.1 hj
      exact isBlank_rel hfound hnamed rfl hs
    -- what each document has come to, which every later build comes to again
    obtain ⟨product, hup, hsaid, hcached⟩ := exists_products hplan hw hreturns hblank
    refine ⟨hfound', (jobsOf b clock root sources).map fun j => j.again (product j.source), ?_,
      fun r hr => ?_, fun h t hcache ht r hr => ?_, fun i notes => ?_,
      fun clock' notes w' hrun' hfinished => ?_⟩
    · rw [← hsaid, List.map_map]
      rfl
    · obtain ⟨j, -, rfl⟩ := List.mem_map.1 hr
      rfl
    · obtain ⟨j, hj, rfl⟩ := List.mem_map.1 hr
      obtain ⟨source, hs, rfl⟩ := List.mem_map.1 hj
      exact hcached h t hcache ht source hs
    · obtain ⟨notes', hb⟩ := buildDirectory_repeats hup hvalid hfound' i notes
      exact ⟨notes', by rw [hb, again_jobsOf (fun _ => i) clock]⟩
    · have hw' := hrun'.repeats (repeats_tasksOf hup clock' notes)
      refine ⟨hw'.disk_eq, Crew.returns_iff ?_⟩
      rw [hw'.results hfinished, again_jobsOf clock' clock]

end

namespace Sample

/-- The document on the disk of one document. -/
def source : Text := Text.lit "a.md"

/-- The example has one document below its root. -/
theorem discover_disk : discover (disk []) job.root = .ok [source] := by
  change Except.ok (Text.sort [source]) = _
  rw [Text.sort, List.mergeSort_of_pairwise (by decide)]

/-- The names on the example's disk are ones that entries can have. -/
theorem named_disk (e : Files.Entry Content) (he : (disk []).find job.root = .ok e) : Named e := by
  cases he
  exact ⟨by decide, trivial, by decide, trivial, trivial⟩

/-- The documents of the example are laid out as the theorem asks. -/
theorem layout_disk :
    Layout (disk []) (jobsOf job.builder (fun _ => job.instant) job.root [source]) where
  outputs := by decide
  sources := by decide
  salts := by decide
  temporary := by decide
  backups := by decide
  caches j hj h hcache := by
    have hh : h = handle := by
      obtain ⟨source, -, rfl⟩ := List.mem_map.1 hj
      cases hcache
      rfl
    rw [hh]
    exact ⟨by decide, by decide⟩

/-- A directory with one document is built when the steps of the document lead to its script. It is
how the examples below are run, step by step. -/
theorem exists_buildDirectory {j : Job} {d : Disk Content} (after : Disk Content)
    (hvalid : j.builder.options.validate = .ok ()) (hfound : discover d j.root = .ok [j.source])
    {text script : Text} {cached written : Bool}
    (hread : j.drive {} 3 .waiting ⟨d, []⟩ = .ok (.missed text) ⟨d, []⟩)
    (hscript : scriptOf j.builder.options text = .ok script) {notes : List Note}
    (hmade : j.drive {} 3 (.made text script) ⟨d, []⟩ =
      .ok (.done text (j.result script cached written)) ⟨after, notes⟩) :
    ∃ notes', j.builder.buildDirectory j.instant false j.root ⟨d, []⟩ =
      .ok [j.result script cached written] ⟨after, notes'⟩ := by
  have hone : j.drive {} 7 .waiting ⟨d, []⟩ =
      .ok (.done text (j.result script cached written)) ⟨after, notes⟩ := by
    rw [Job.drive_add (m := 3) (n := 4) hread, Job.drive_ok (Job.next_of_script hscript)]
    exact hmade
  have hall : j.builder.buildAll j.instant false j.root [j.source] ⟨d, []⟩ =
      .ok [j.result script cached written] ⟨after, notes⟩ :=
    Files.bind_eq_ok.2 ⟨_, _, Job.buildOne_eq_ok hone, rfl⟩
  rw [Builder.buildDirectory_eq (s := ⟨d, []⟩) hvalid hfound, hall]
  exact ⟨_, rfl⟩

/-- The disk with the document, its script and the entry about it. -/
def settled : Disk Content where
  root := .directory [(Text.lit "a.md", .file (.text text)),
    (Text.lit "c", .file (.database
      { builds := some { table := [job.entry text script], hasRuns := true } })),
    (Text.lit "a.rpy", .file (.text script))]

/-- A document whose script goes beside it is built, and then it is taken from the cache. -/
theorem buildDirectory_again_of_disk :
    ∃ rs rs' s s', job.builder.buildDirectory job.instant false job.root ⟨disk [], []⟩ = .ok rs s ∧
      job.builder.buildDirectory job.instant false job.root s = .ok rs' s' ∧ s'.disk = s.disk ∧
      rs'.map Result.said = rs.map Result.said ∧ (∀ r ∈ rs, r.written = true ∧ r.cached = false) ∧
      ∀ r ∈ rs', r.written = false ∧ r.cached = true := by
  obtain ⟨notes, hbuild⟩ := exists_buildDirectory (j := job) settled validate_job
    discover_disk rfl scriptOf_text rfl
  obtain ⟨hok, -⟩ := buildDirectory_run (s := ⟨disk [], []⟩) validate_job discover_disk
  obtain ⟨w, hrun, hdisk, hreturns⟩ := hok _ _ hbuild
  obtain ⟨hfind, -, hagain⟩ := buildDirectory_again (s := ⟨disk [], []⟩) validate_job discover_disk
    named_disk (by decide) (fun c hc => by cases hc) layout_disk (by decide) hrun hreturns
  obtain ⟨e, he⟩ := hfind (by decide)
  obtain ⟨-, rs', hsaid, hwritten, hcached, hone, -⟩ := hagain e he
  obtain ⟨notes', hagain⟩ := hone job.instant notes
  rw [hdisk] at hagain
  exact ⟨_, rs', _, _, hbuild, hagain, rfl, hsaid, by simp [Job.result], fun r hr =>
    ⟨hwritten r hr, hcached handle [] rfl rfl r hr⟩⟩

/-- A disk with a document and an empty directory that has the name of its script. -/
def crooked : Disk Content where
  root := .directory [(Text.lit "x", .directory
    [(Text.lit "a.md", .file (.text text)), (Text.lit "a.rpy", .directory [])])]

/-- The document, below a root that is spelled through the empty directory. -/
def astray : Job where
  builder := { options }
  instant := job.instant
  root := Text.lit "x/a.rpy/.."
  source := Text.lit "x/a.md"

/-- The disk once its script is in the place of the directory. -/
def straight : Disk Content where
  root := .directory [(Text.lit "x", .directory
    [(Text.lit "a.md", .file (.text text)), (Text.lit "a.rpy", .file (.text script))])]

/-- In the second example the root is spelled through a directory, and its document is found all the
same. -/
theorem discover_crooked : discover crooked astray.root = .ok [astray.source] := by
  change Except.ok (Text.sort [astray.source]) = _
  rw [Text.sort, List.mergeSort_of_pairwise (by decide)]

/-- The document of the second example is built: its script takes the place of the empty directory
that the root is spelled through. -/
theorem drive_astray : ∃ notes, astray.drive {} 3 (.made text script) ⟨crooked, []⟩ =
    .ok (.done text (astray.result script false true)) ⟨straight, notes⟩ := ⟨_, by rfl⟩

/-- **A root can be lost.** A script takes the place of an empty directory; a root that is spelled
through that directory is not found again, though its document is where it was. -/
theorem buildDirectory_of_lost_root :
    ∃ r s, discover crooked astray.root = .ok [astray.source] ∧
      astray.builder.target.path? astray.root astray.source = some (Text.lit "x/a.rpy") ∧
      isSource (Text.lit "x/a.rpy") = false ∧
      astray.builder.buildDirectory astray.instant false astray.root ⟨crooked, []⟩ = .ok [r] s ∧
      s.disk.read astray.source = crooked.read astray.source ∧
      ∃ x s', astray.builder.buildDirectory astray.instant false astray.root s =
        .error (.undiscovered astray.root x) s' := by
  obtain ⟨_, hmade⟩ := drive_astray
  obtain ⟨notes, hbuild⟩ := exists_buildDirectory (j := astray) straight validate_job
    discover_crooked rfl scriptOf_text hmade
  refine ⟨_, _, discover_crooked, by decide, by decide, hbuild, rfl, ?_⟩
  exact ⟨_, _, Builder.buildDirectory_undiscovered (b := astray.builder) (s := ⟨straight, notes⟩)
    validate_job rfl astray.instant false⟩

end Sample

end NovelScript.Build
