import NovelScript.Build.Watch
import NovelScript.Proofs.Build.Independence
import NovelScript.Proofs.Files.Alike

/-!
# Documents built one after the other, in any order

A watch builds the documents that changed one after the other, in no particular order, and goes on
when one of them fails. Where what the documents write is apart from all other places (`Apart`), the
order does not matter, whatever fails on the way.

* **`Job.parallel_buildOne`** says that a document is built in the same way on disks that look alike
  to it, and **`Job.keeps_buildOne`** says what that leaves alone.
* **`Scheme.beside_sweep`** says that to each document the disk looks as after its own turn on the
  disk at first, and **`Scheme.sweep_perm`** that files and entries are the same in any order.
-/

namespace NovelScript.Cache.Handle

open Files (Disk placeOf)

/-! ## The cache -/

/-- What keeping an entry leaves alone: all files but that of the cache, and what stands at every
place that is neither the place of this file nor above it. No file comes or goes. -/
theorem store_spares {h : Handle} {e : Entry} {home : List Text}
    {d d' : Disk Content} (hhome : d.home = home) (hlook : d.look home = some none)
    (hstore : h.store false e d = .ok d') :
    d'.home = home ∧ d'.look home = some none ∧
      (∀ p, ¬ p <+: placeOf home h.path → d'.stack p = d.stack p) ∧
      (∀ p, p ≠ placeOf home h.path → d'.fileAt p = d.fileAt p) ∧
      ∀ p, (d'.fileAt p).isSome = (d.fileAt p).isSome := by
  obtain ⟨db, b, -, hfind, -, -, hwrite⟩ := store_eq_ok hstore
  obtain ⟨hno, hput⟩ := Disk.write_eq_ok hwrite
  have hplace : d.place h.path = placeOf home h.path := by rw [Disk.place, hhome]
  have hbefore : d.fileAt (placeOf home h.path) = some (.database db) := by
    rw [← hplace]
    exact Disk.fileAt_of_read (Disk.read_eq_ok.2 hfind)
  have hfiles (p : List Text) (hp : p ≠ placeOf home h.path) : d'.fileAt p = d.fileAt p :=
    Disk.fileAt_write hwrite (by rwa [hplace])
  have hafter : d'.fileAt (placeOf home h.path) ≠ none := by
    rw [← hplace]
    rcases Disk.look_write hwrite with hc | ⟨rfl, hnone⟩
    · rw [Disk.fileAt_eq_some.2 hc]
      simp
    · rw [hplace, hbefore]
      simp
  refine ⟨?_, ?_, fun p hp => ?_, hfiles, fun p => ?_⟩
  · rw [hput]
    exact hhome
  · rw [hput, ← hlook]
    exact Files.Entry.look_set_of_not_isPrefix _ (Files.Entry.not_isPrefix_directory hno hlook)
  · rw [hput, hplace]
    exact Files.Entry.stack_set_leaf (fun more hm => Files.Entry.get?_file _ hm) (hplace ▸ hno) hp
  · by_cases hp : p = placeOf home h.path
    · rw [hp, hbefore]
      simpa using Option.isSome_iff_ne_none.2 hafter
    · rw [hfiles p hp]

/-- Keeping an entry changes the file of the cache alone, so the disk looks the same from every
place that does not lie below that file. -/
theorem alike_of_store {h : Handle} {e : Entry} {home : List Text}
    {ps : List (List Text)} {d d' : Disk Content} (hhome : d.home = home)
    (hlook : d.look home = some none) (hps : ∀ p ∈ ps, ¬ p <+: placeOf home h.path)
    (hstore : h.store false e d = .ok d') : Disk.Alike home [] ps d d' := by
  obtain ⟨hhome', hlook', hstacks, -, hfilled⟩ := store_spares hhome hlook hstore
  refine ⟨hhome, hhome', fun p hp => ?_, fun p hp => hstacks p (hps p hp), fun _ _ q _ _ => hfilled q⟩
  rw [List.mem_singleton.1 hp]
  exact ⟨hlook, hlook'⟩

end NovelScript.Cache.Handle

namespace NovelScript.Build

open Files (Disk Parallel Keeps placeOf)

/-! ## What a document works on -/

namespace Job

/-- The places that a build of the document writes, apart from the cache. -/
def writes (j : Job) (home : List Text) : List (List Text) :=
  Files.writtenBy home j.instant.moment j.builder.backup j.output

/-- What a build of the document writes is apart from what it reads. -/
structure Fit (j : Job) (home : List Text) : Prop where
  leaf : Files.Leaf j.output
  direct : Files.isDirect j.source = true
  salt : Files.slash ∉ j.instant.moment.salt
  stamp : Files.slash ∉ j.instant.moment.stamp
  separate : Disk.Separate home [] (j.writes home)
  source : ∀ p ∈ j.writes home, ¬ p <+: placeOf home j.source
  cache : ∀ h, j.builder.cache = some h → Files.isDirect h.path = true ∧
    (∀ p ∈ j.writes home, ¬ p <+: placeOf home h.path) ∧
    placeOf home h.path ≠ placeOf home j.source

/-- Two disks look alike to a document: from the places that it writes, in its own file and in the
entries about it. -/
structure Alike (j : Job) (home : List Text) (d d' : Disk Content) : Prop where
  disk : Disk.Alike home [] (j.writes home) d d'
  source : d'.fileAt (placeOf home j.source) = d.fileAt (placeOf home j.source)
  rows : j.rows d' = j.rows d

section

variable {j : Job} {home : List Text} {d d' d₁ : Disk Content}

/-- A disk looks like itself to a document, when the working directory is there. -/
theorem Alike.refl (hhome : d.home = home) (hlook : d.look home = some none) : j.Alike home d d where
  disk :=
    { home_eq := hhome
      home_eq' := hhome
      dirs := fun p hp => by rw [List.mem_singleton.1 hp]; exact ⟨hlook, hlook⟩
      standing := fun _ _ => rfl
      files := fun _ _ _ _ _ => rfl }
  source := rfl
  rows := rfl

/-- What two disks have in common for a document, they have in common the other way round. -/
theorem Alike.symm (h : j.Alike home d d') : j.Alike home d' d :=
  ⟨h.disk.symm, h.source.symm, h.rows.symm⟩

/-- Two disks that look like a third one to a document look alike to it. -/
theorem Alike.trans (h : j.Alike home d d') (h' : j.Alike home d' d₁) : j.Alike home d d₁ :=
  ⟨h.disk.trans h'.disk, h'.source.trans h.source, h'.rows.trans h.rows⟩

/-- The document reads the same. -/
theorem Alike.read (h : j.Alike home d d') (hfit : j.Fit home) (c : Content) :
    d'.read j.source = .ok c ↔ d.read j.source = .ok c := by
  refine Disk.read_congr hfit.direct (h.disk.home_eq'.trans h.disk.home_eq.symm) ?_ c
  rw [h.disk.place_eq]
  exact h.source

/-- Disks that look alike to a document have the same file at the place of its script. -/
theorem Alike.scriptFile (h : j.Alike home d d') (hfit : j.Fit home) :
    j.scriptFile d' = j.scriptFile d := by
  refine scriptFile_congr hfit.leaf.direct (h.disk.home_eq'.trans h.disk.home_eq.symm) ?_
  rw [h.disk.place_eq]
  have := h.disk.fileAt_eq List.mem_cons_self []
  rwa [List.append_nil] at this

/-! ## The same build on disks that look alike -/

/-- The disks of two builds look alike to a document. -/
def Beside (j : Job) (home : List Text) (s t : Site) : Prop :=
  j.Alike home s.disk t.disk

/-- A document is read on both disks with the same text, or on none. The place of the document is
among those from which the disks look alike. -/
theorem parallel_readSource (hfit : j.Fit home) :
    Parallel (j.Beside home) (j.Beside home) (j.Beside home) (readSource j.source) := by
  intro s t h
  rw [readSource_eq, readSource_eq]
  cases hs : s.disk.read j.source with
  | ok c =>
    rw [(h.read hfit c).2 hs]
    exact .inl ⟨c.asText, s, t, rfl, rfl, h⟩
  | error e =>
    cases ht : t.disk.read j.source with
    | ok c => cases hs.symm.trans ((h.read hfit c).1 ht)
    | error e' => exact .inr ⟨_, s, _, t, rfl, rfl, h⟩

/-- The cache finds the same script on both disks: what it has for this document is the same, and
nothing else is looked at. -/
theorem parallel_lookUp (text : Text) :
    Parallel (j.Beside home) (j.Beside home) (j.Beside home) (j.lookUp {} text) := by
  intro s t h
  have hfound {s t : Site} (h : j.Beside home s t) {hd : Cache.Handle} {script : Text}
      (hcache : j.builder.cache = some hd)
      (hs : hd.lookup false j.rel (sourceFingerprint text) (optionsFingerprint j.builder.options)
        s.disk = .ok (some script)) :
      hd.lookup false j.rel (sourceFingerprint text) (optionsFingerprint j.builder.options)
        t.disk = .ok (some script) := by
    rw [lookup_eq_found hcache] at hs ⊢
    rw [h.rows]
    exact hs
  rcases lookUp_cases j {} text s with ⟨hd, script, hs, hcache, hhit⟩ | ⟨s', hs, hs', hmiss⟩
  · rcases lookUp_cases j {} text t with ⟨hd', script', ht, hcache', hhit'⟩ | ⟨t', -, -, hmiss⟩
    · cases hcache.symm.trans hcache'
      cases (hfound h hcache hhit).symm.trans hhit'
      exact .inl ⟨_, s, t, hs, ht, h⟩
    · exact absurd (hfound h hcache hhit) (hmiss hd script hcache rfl)
  · rcases lookUp_cases j {} text t with ⟨hd, script, -, hcache, hhit⟩ | ⟨t', ht, ht', -⟩
    · exact absurd (hfound h.symm hcache hhit) (hmiss hd script hcache rfl)
    · refine .inl ⟨none, s', t', hs, ht, ?_⟩
      rw [Beside, hs', ht']
      exact h

/-- The cache takes the script on both disks or refuses it on both, and what it has for this
document is the same afterwards. -/
theorem parallel_keep (hfit : j.Fit home) (text script : Text) :
    Parallel (j.Beside home) (j.Beside home) (j.Beside home) (j.keep {} text script) := by
  intro s t h
  have hstores {s t : Site} (h : j.Beside home s t) {hd : Cache.Handle} {d : Disk Content}
      (hcache : j.builder.cache = some hd)
      (hs : hd.store false (j.entry text script) s.disk = .ok d) :
      ∃ d', hd.store false (j.entry text script) t.disk = .ok d' := by
    obtain ⟨hblank, r, hr⟩ := Cache.Handle.exists_store_iff.1 ⟨d, hs⟩
    refine Cache.Handle.exists_store_iff.2 ⟨hblank, r, ?_⟩
    have hrows := h.rows
    rw [Job.rows, Job.rows, hcache] at hrows
    exact hrows.trans hr
  rcases keep_cases j {} text script s with ⟨hd, s', hs, hcache, hstore⟩ | ⟨s', hs, hs', hnone⟩
  · obtain ⟨d', hd'⟩ := hstores h hcache hstore
    rcases keep_cases j {} text script t with ⟨hd₁, t', ht, hcache₁, hstore'⟩ | ⟨t', -, -, hnone⟩
    · cases hcache.symm.trans hcache₁
      obtain ⟨-, hps, hsource⟩ := hfit.cache hd hcache
      have hdisk {s t : Site} (h : j.Beside home s t) {d : Disk Content}
          (hstore : hd.store false (j.entry text script) s.disk = .ok d) :
          Disk.Alike home [] (j.writes home) s.disk d ∧
            d.fileAt (placeOf home j.source) = s.disk.fileAt (placeOf home j.source) := by
        have hlook := (h.disk.dirs home List.mem_cons_self).1
        exact ⟨Cache.Handle.alike_of_store h.disk.home_eq hlook hps hstore,
          (Cache.Handle.store_spares h.disk.home_eq hlook hstore).2.2.2.1 _ hsource.symm⟩
      obtain ⟨hss, hfs⟩ := hdisk h hstore
      obtain ⟨htt, hft⟩ := hdisk h.symm hstore'
      refine .inl ⟨(), s', t', hs, ht, (hss.symm.trans h.disk).trans htt, ?_, ?_⟩
      · rw [hfs, hft]
        exact h.source
      · rw [rows_of_store hcache hstore, rows_of_store hcache hstore', h.rows]
    · exact absurd hd' (hnone hd d' hcache rfl)
  · rcases keep_cases j {} text script t with ⟨hd, t', -, hcache, hstore⟩ | ⟨t', ht, ht', -⟩
    · obtain ⟨d, hd'⟩ := hstores h.symm hcache hstore
      exact absurd hd' (hnone hd d hcache rfl)
    · refine .inl ⟨(), s', t', hs, ht, ?_⟩
      rw [Beside, hs', ht']
      exact h

/-- So a document comes to the same script on both disks, from the cache or from its text, or is
malformed on both. -/
theorem parallel_produce (hfit : j.Fit home) (text : Text) :
    Parallel (j.Beside home) (j.Beside home) (j.Beside home)
      (j.builder.produce j.instant j.source j.rel text) := by
  rw [produce_eq (c := {}) rfl]
  refine (parallel_lookUp text).bind fun found => ?_
  cases found with
  | some script => exact Parallel.pure _
  | none =>
    cases scriptOf j.builder.options text with
    | error e => exact Parallel.throw _
    | ok script => exact (parallel_keep hfit text script).bind fun _ => Parallel.pure _

/-- Disks that look alike to a document still do when it has written the same on both: all places
that it does not write were left alone. -/
theorem Alike.of_spared {d₁' : Disk Content} (h : j.Alike home d d') (hfit : j.Fit home)
    (hd : Disk.Spared home (j.writes home) d d₁) (hd' : Disk.Spared home (j.writes home) d' d₁')
    (hdisk : Disk.Alike home [] (j.writes home) d₁ d₁') : j.Alike home d₁ d₁' := by
  have hrows {d d₁ : Disk Content} (hhome : d.home = home)
      (hd : Disk.Spared home (j.writes home) d d₁) : j.rows d₁ = j.rows d := by
    rw [Job.rows, Job.rows]
    cases hcache : j.builder.cache with
    | none => rfl
    | some hd' =>
      obtain ⟨hdirect, hps, -⟩ := hfit.cache hd' hcache
      refine Cache.Handle.rows_congr hdirect (hd.home_eq.trans hhome.symm) ?_ j.rel
      rw [Disk.place, hhome]
      exact hd.files _ hps
  refine ⟨hdisk, ?_, ?_⟩
  · rw [hd.files _ hfit.source, hd'.files _ hfit.source]
    exact h.source
  · rw [hrows h.disk.home_eq hd, hrows h.disk.home_eq' hd', h.rows]

/-- The write of a script leaves everything alone but the places that the document writes. -/
theorem Fit.keeps_write (hfit : j.Fit home) (script : Text) :
    Keeps (Disk.Spares home (j.writes home)) (Files.writeAtomic Content.empty j.instant.moment
      j.builder.backup j.output (.text script)) := by
  rw [writes]
  exact Files.keeps_spares_writeAtomic hfit.leaf hfit.stamp hfit.separate _

/-- The script is there already on both disks or on none, and it can be written on both or on none.
-/
theorem parallel_settle (hfit : j.Fit home) (script : Text) :
    Parallel (j.Beside home) (j.Beside home) (j.Beside home)
      (j.builder.settle j.instant j.output script) := by
  intro s t h
  rw [settle_eq, settle_eq, isThere_congr (h.scriptFile hfit)]
  split
  · exact .inl ⟨false, s, t, rfl, rfl, h⟩
  have hspares (s : Site) := hfit.keeps_write script s.disk
  have hlook := h.disk.dirs home List.mem_cons_self
  have hwrite : Parallel (Disk.Alike home [] (j.writes home)) (Disk.Alike home [] (j.writes home))
      (Disk.Alike home [] (j.writes home)) (Files.writeAtomic Content.empty j.instant.moment
        j.builder.backup j.output (.text script)) := by
    rw [writes]
    exact Files.parallel_writeAtomic hfit.leaf hfit.salt hfit.stamp hfit.separate _
  rcases hwrite s.disk t.disk h.disk with
    ⟨u, d, d', hs, ht, hdisk⟩ | ⟨e, d, e', d', hs, ht, hdisk⟩
  · have hsite : j.Beside home { s with disk := d } { t with disk := d' } :=
      h.of_spared hfit ((hspares s).1 _ _ hs h.disk.home_eq hlook.1)
        ((hspares t).1 _ _ ht h.disk.home_eq' hlook.2) hdisk
    refine .inl ⟨true, _, _, Files.bind_eq_ok.2 ⟨u, _, ?_, rfl⟩, Files.bind_eq_ok.2 ⟨u, _, ?_, rfl⟩,
      hsite⟩
    · rw [onDisk_eq, hs]
    · rw [onDisk_eq, ht]
  · have hsite : j.Beside home { s with disk := d } { t with disk := d' } :=
      h.of_spared hfit ((hspares s).2 _ _ hs h.disk.home_eq hlook.1)
        ((hspares t).2 _ _ ht h.disk.home_eq' hlook.2) hdisk
    refine .inr ⟨.unwritten j.output e, _, .unwritten j.output e', _,
      Files.bind_eq_error.2 (.inl ?_), Files.bind_eq_error.2 (.inl ?_), hsite⟩
    · rw [onDisk_eq, hs]
    · rw [onDisk_eq, ht]

/-- On disks that look alike to a document, its build succeeds on both or on none, and they look
alike to it again. -/
theorem parallel_buildOne (hfit : j.Fit home) :
    Parallel (j.Beside home) (j.Beside home) (j.Beside home)
      (j.builder.buildOne j.instant false j.root j.source) := by
  rw [buildOne_eq, if_neg (by simp)]
  cases hp : j.builder.target.path? j.root j.source with
  | none => exact Parallel.throw _
  | some output =>
    have hout : j.output = output := by rw [Job.output, hp]; rfl
    dsimp only
    rw [← hout]
    refine (parallel_readSource hfit).bind fun text => (parallel_produce hfit text).bind fun x =>
      (parallel_settle hfit x.1).bind fun written => ?_
    exact fun s t h => .inl ⟨_, _, _, rfl, rfl, h⟩

/-! ## What a build leaves alone -/

/-- What a build of the document leaves alone: everything but the places that it writes and, in the
cache, the entries about it. -/
structure Spared (j : Job) (home : List Text) (d d' : Disk Content) : Prop where
  home_eq : d'.home = home
  look_home : d'.look home = some none
  standing : ∀ p, (∀ q ∈ j.writes home, ¬ q <+: p ∧ ¬ p <+: q) →
    (∀ h, j.builder.cache = some h → ¬ p <+: placeOf home h.path) → d'.stack p = d.stack p
  files : ∀ p, (∀ q ∈ j.writes home, ¬ q <+: p) →
    (∀ h, j.builder.cache = some h → p ≠ placeOf home h.path) → d'.fileAt p = d.fileAt p
  filled : ∀ p, (∀ q ∈ j.writes home, ¬ q <+: p) → (d'.fileAt p).isSome = (d.fileAt p).isSome
  rows : ∀ h, j.builder.cache = some h → ∀ path, path ≠ j.rel → h.rows path d' = h.rows path d

/-- Where the working directory is there, everything else is left alone. -/
def Spares (j : Job) (home : List Text) (s t : Site) : Prop :=
  s.disk.home = home → s.disk.look home = some none → j.Spared home s.disk t.disk

/-- Work that leaves the disk as it is leaves everything alone. -/
theorem Spares.of_eq {s t : Site} (h : t.disk = s.disk) : j.Spares home s t := by
  intro hhome hlook
  rw [h]
  exact ⟨hhome, hlook, fun _ _ _ => rfl, fun _ _ _ => rfl, fun _ _ => rfl, fun _ _ _ _ => rfl⟩

/-- What is left alone by two pieces of work is left alone by both in a row. -/
theorem Spares.trans {s t u : Site} (h : j.Spares home s t) (h' : j.Spares home t u) :
    j.Spares home s u := by
  intro hhome hlook
  have h := h hhome hlook
  have h' := h' h.home_eq h.look_home
  exact ⟨h'.home_eq, h'.look_home, fun p hp hc => (h'.standing p hp hc).trans (h.standing p hp hc),
    fun p hp hc => (h'.files p hp hc).trans (h.files p hp hc),
    fun p hp => (h'.filled p hp).trans (h.filled p hp),
    fun hd hc path hne => (h'.rows hd hc path hne).trans (h.rows hd hc path hne)⟩

/-- Asking the cache leaves the disk as it is. -/
theorem keeps_lookUp (text : Text) : Keeps (j.Spares home) (j.lookUp {} text) := by
  intro s
  rcases lookUp_cases j {} text s with ⟨-, script, hs, -⟩ | ⟨s₁, hs, hs₁, -⟩
  · refine ⟨fun found s' h => ?_, fun e s' h => by cases hs.symm.trans h⟩
    cases hs.symm.trans h
    exact Spares.of_eq rfl
  · refine ⟨fun found s' h => ?_, fun e s' h => by cases hs.symm.trans h⟩
    cases hs.symm.trans h
    exact Spares.of_eq hs₁

/-- Keeping a script changes nothing but the entries of the document in the file of the cache. A
cache that refuses changes not even these. -/
theorem keeps_keep (text script : Text) : Keeps (j.Spares home) (j.keep {} text script) := by
  intro s
  rcases keep_cases j {} text script s with ⟨hd, s₁, hs, hcache, hstore⟩ | ⟨s₁, hs, hs₁, -⟩
  · refine ⟨fun u s' h hhome hlook => ?_, fun e s' h => by cases hs.symm.trans h⟩
    cases hs.symm.trans h
    obtain ⟨hhome', hlook', hstacks, hfiles, hfilled⟩ :=
      Cache.Handle.store_spares hhome hlook hstore
    obtain ⟨-, -, -, hrows⟩ := Cache.Handle.rows_store hstore
    refine ⟨hhome', hlook', fun p _ hc => hstacks p (hc hd hcache),
      fun p _ hc => hfiles p (hc hd hcache), fun p _ => hfilled p, fun hd' hcache' path hne => ?_⟩
    cases hcache.symm.trans hcache'
    exact hrows path hne
  · refine ⟨fun u s' h => ?_, fun e s' h => by cases hs.symm.trans h⟩
    cases hs.symm.trans h
    exact Spares.of_eq hs₁

/-- Writing a script changes nothing but the places that the document writes, also when it fails in
the middle. The failure has its own case, as a replacement that fails may have put a copy aside by
then. -/
theorem keeps_settle (hfit : j.Fit home) (script : Text) :
    Keeps (j.Spares home) (j.builder.settle j.instant j.output script) := by
  have hpure (b : Bool) : Keeps (j.Spares home) (pure b : Building Bool) :=
    Keeps.pure (fun _ => Spares.of_eq rfl) b
  -- the file of the cache is not among those that are written
  have hspares {s : Site} {d : Disk Content} (h : Disk.Spares home (j.writes home) s.disk d) :
      j.Spares home s { s with disk := d } := by
    intro hhome hlook
    have h := h hhome hlook
    refine ⟨h.home_eq, h.look_home, fun p hp _ => h.standing p hp, fun p hp _ => h.files p hp,
      fun p hp => by rw [h.files p hp], fun hd hcache path _ => ?_⟩
    obtain ⟨hdirect, hps, -⟩ := hfit.cache hd hcache
    refine Cache.Handle.rows_congr hdirect (h.home_eq.trans hhome.symm) ?_ path
    rw [Disk.place, hhome]
    exact h.files _ hps
  have hwrite : Keeps (j.Spares home) (onDisk (.unwritten j.output) (Files.writeAtomic
      Content.empty j.instant.moment j.builder.backup j.output (.text script))) := by
    intro s
    obtain ⟨hok, herror⟩ := hfit.keeps_write script s.disk
    rw [onDisk_eq]
    cases hw : Files.writeAtomic Content.empty j.instant.moment j.builder.backup j.output
        (.text script) s.disk with
    | ok u d =>
      refine ⟨fun u' s' h => ?_, fun e s' h => (by cases h)⟩
      cases h
      exact hspares (hok u d hw)
    | error e d =>
      refine ⟨fun u' s' h => (by cases h), fun e' s' h => ?_⟩
      cases h
      exact hspares (herror e d hw)
  intro s
  rw [settle_eq]
  split
  · exact hpure false s
  · exact Keeps.bind (R := j.Spares home) Spares.trans hwrite (fun _ => hpure true) s

/-- However it ends, a build leaves everything alone but the places that the document writes and the
entries about it. -/
theorem keeps_buildOne (hfit : j.Fit home) :
    Keeps (j.Spares home) (j.builder.buildOne j.instant false j.root j.source) := by
  have hrefl (s : Site) : j.Spares home s s := Spares.of_eq rfl
  rw [buildOne_eq, if_neg (by simp)]
  cases hp : j.builder.target.path? j.root j.source with
  | none => exact Keeps.throw hrefl _
  | some output =>
    have hout : j.output = output := by rw [Job.output, hp]; rfl
    dsimp only
    rw [← hout]
    have hread : Keeps (j.Spares home) (readSource j.source) := by
      intro s
      rw [readSource_eq]
      cases s.disk.read j.source with
      | ok c => exact (Keeps.pure hrefl c.asText : Keeps _ (pure c.asText : Building Text)) s
      | error e => exact (Keeps.throw hrefl _ : Keeps _ (throw (.unread j.source e) : Building Text)) s
    have hproduce (text : Text) :
        Keeps (j.Spares home) (j.builder.produce j.instant j.source j.rel text) := by
      rw [produce_eq (c := {}) rfl]
      refine (keeps_lookUp text).bind Spares.trans fun found => ?_
      cases found with
      | some script => exact Keeps.pure hrefl _
      | none =>
        cases scriptOf j.builder.options text with
        | error e => exact Keeps.throw hrefl _
        | ok script => exact (keeps_keep text script).bind Spares.trans fun _ => Keeps.pure hrefl _
    refine hread.bind Spares.trans fun text => (hproduce text).bind Spares.trans fun x =>
      (keeps_settle hfit x.1).bind Spares.trans fun written => fun s => ?_
    refine ⟨fun r s' h => ?_, fun e s' h => (by cases h)⟩
    cases h
    exact Spares.of_eq rfl

/-- A document that cannot be read leaves everything as it is, since reading comes first. -/
theorem buildOne_unread {s : Site} (h : ∀ c, s.disk.read j.source ≠ .ok c) (cancelled : Bool) :
    ∃ e, j.builder.buildOne j.instant cancelled j.root j.source s = .error e s := by
  rw [buildOne_eq]
  cases cancelled with
  | true => exact ⟨_, rfl⟩
  | false =>
    rw [if_neg (by simp)]
    cases j.builder.target.path? j.root j.source with
    | none => exact ⟨_, rfl⟩
    | some output =>
      cases hr : s.disk.read j.source with
      | ok c => exact absurd hr (h c)
      | error e =>
        refine ⟨.unread j.source e, Files.bind_eq_error.2 (.inl ?_)⟩
        rw [readSource_eq, hr]

end

/-! ## The turn of a document -/

/-- The turn of a document: it is built if it is there. A failure is reported like anything else,
and what was done before it stays. -/
def turn (j : Job) (cancelled : Bool) (s : Site) : Option Report × Site :=
  if s.disk.isThere j.source then
    match j.builder.buildOne j.instant cancelled j.root j.source s with
    | .ok r s' => (some (.ok r), s')
    | .error e s' => (some (.error e), s')
  else (none, s)

section

variable {j : Job} {home : List Text} {s t : Site}

/-- A document that cannot be read, or that is built too late, leaves everything as it is. -/
theorem turn_idle {cancelled : Bool}
    (h : cancelled = true ∨ ∀ c, s.disk.read j.source ≠ .ok c) : (j.turn cancelled s).2 = s := by
  rw [turn]
  split
  · obtain ⟨e, he⟩ : ∃ e, j.builder.buildOne j.instant cancelled j.root j.source s = .error e s := by
      rcases h with rfl | h
      · exact ⟨.cancelled, by rw [buildOne_eq, if_pos rfl]; rfl⟩
      · exact buildOne_unread h cancelled
    rw [he]
  · rfl

/-- The turn of a document that can be read is the build of it. -/
theorem turn_read {c : Content} (h : s.disk.read j.source = .ok c) (cancelled : Bool) :
    j.turn cancelled s = match j.builder.buildOne j.instant cancelled j.root j.source s with
      | .ok r s' => (some (.ok r), s')
      | .error e s' => (some (.error e), s') := by
  have hthere : s.disk.isThere j.source = true := by
    rw [Disk.isThere, Disk.read_eq_ok.1 h]
    rfl
  rw [turn, if_pos hthere]

/-- A turn of a document leaves everything alone but its own places, however it ends. It is what
makes the turns of other documents independent of it. -/
theorem spares_turn (hfit : j.Fit home) (cancelled : Bool) (s : Site) :
    j.Spares home s (j.turn cancelled s).2 := by
  cases cancelled with
  | true => rw [turn_idle (.inl rfl)]; exact Spares.of_eq rfl
  | false =>
    rw [turn]
    split
    · obtain ⟨hok, herror⟩ := keeps_buildOne hfit s
      cases hb : j.builder.buildOne j.instant false j.root j.source s with
      | ok r s' => exact hok r s' hb
      | error e s' => exact herror e s' hb
    · exact Spares.of_eq rfl

/-- On disks that look alike to a document, they look alike to it after its turn. The turn of
another one is covered by `alike_of_spared`. -/
theorem beside_turn (hfit : j.Fit home) (h : j.Beside home s t) (cancelled : Bool) :
    j.Beside home (j.turn cancelled s).2 (j.turn cancelled t).2 := by
  by_cases hidle : cancelled = true ∨ ∀ c, s.disk.read j.source ≠ .ok c
  · have hidle' : cancelled = true ∨ ∀ c, t.disk.read j.source ≠ .ok c :=
      hidle.imp_right fun hs c ht => hs c ((h.read hfit c).1 ht)
    rw [turn_idle hidle, turn_idle hidle']
    exact h
  · obtain ⟨hcalm, hread⟩ := not_or.1 hidle
    obtain ⟨c, hs⟩ : ∃ c, s.disk.read j.source = .ok c := by simpa using hread
    rw [turn_read hs, turn_read ((h.read hfit c).2 hs), Bool.eq_false_iff.2 hcalm]
    rcases parallel_buildOne hfit s t h with
      ⟨r, s', t', hs', ht', h'⟩ | ⟨e, s', e', t', hs', ht', h'⟩
    · rw [hs', ht']
      exact h'
    · rw [hs', ht']
      exact h'

end

end Job

/-! ## Documents that are apart -/

/-- What is written for documents is apart: every place is written for one document only, and none
is a document, the cache or the working directory, or above one of these or another place that is
written. -/
structure Apart (home : List Text) (jobs : List Job) : Prop where
  moments : ∀ j ∈ jobs, Files.slash ∉ j.instant.moment.salt ∧ Files.slash ∉ j.instant.moment.stamp
  writes : ∀ j ∈ jobs, ∀ j' ∈ jobs, ∀ p ∈ j.writes home, ∀ q ∈ j'.writes home,
    p <+: q → j = j' ∧ p = q
  working : ∀ j ∈ jobs, ∀ p ∈ j.writes home, ¬ p <+: home
  sources : ∀ j ∈ jobs, ∀ j' ∈ jobs, ∀ p ∈ j.writes home, ¬ p <+: placeOf home j'.source
  caches : ∀ j ∈ jobs, ∀ h, j.builder.cache = some h → Files.isDirect h.path = true ∧
    (∀ p ∈ j.writes home, ¬ p <+: placeOf home h.path) ∧
    placeOf home h.path ≠ placeOf home j.source

/-- Documents of one builder that are apart, with scripts and entries of their own. -/
structure Scheme (home : List Text) (b : Builder) (jobs : List Job) : Prop
    extends Apart home jobs where
  builder : ∀ j ∈ jobs, j.builder = b
  leaf : ∀ j ∈ jobs, Files.Leaf j.output
  direct : ∀ j ∈ jobs, Files.isDirect j.source = true
  rels : ∀ j ∈ jobs, ∀ j' ∈ jobs, j.rel = j'.rel → j = j'

namespace Scheme

variable {home : List Text} {b : Builder} {jobs : List Job} {j k : Job} {d d' : Disk Content}

/-- The documents of a scheme are each of the kind that the lemmas about one document are about. -/
theorem fit (h : Scheme home b jobs) (hj : j ∈ jobs) : j.Fit home where
  leaf := h.leaf j hj
  direct := h.direct j hj
  salt := (h.moments j hj).1
  stamp := (h.moments j hj).2
  separate :=
    { chain := fun p hp q hq hpq => (h.writes j hj j hj p hp q hq hpq).2
      dirs := fun p hp q hq => by rw [List.mem_singleton.1 hq]; exact h.working j hj p hp }
  source := fun p hp => h.sources j hj j hj p hp
  cache := h.caches j hj

/-- What is left alone when a document is built looks alike to every other one, since it is apart
from the places that the others look at. -/
theorem alike_of_spared (h : Scheme home b jobs) (hj : j ∈ jobs) (hk : k ∈ jobs) (hne : j ≠ k)
    (hhome : d.home = home) (hlook : d.look home = some none) (hd : k.Spared home d d') :
    j.Alike home d d' := by
  have hbuilder : k.builder = j.builder := (h.builder k hk).trans (h.builder j hj).symm
  have hcache {hd : Cache.Handle} (hc : k.builder.cache = some hd) :=
    h.caches j hj hd (by rw [← hbuilder]; exact hc)
  have hapart {p q : List Text} (hp : p ∈ j.writes home) (hq : q ∈ k.writes home) : ¬ q <+: p :=
    fun hqp => hne (h.writes k hk j hj q hq p hp hqp).1.symm
  refine ⟨⟨hhome, hd.home_eq, fun p hp => ?_, fun p hp => ?_, fun p hp q hq _ => ?_⟩, ?_, ?_⟩
  · rw [List.mem_singleton.1 hp]
    exact ⟨hlook, hd.look_home⟩
  · refine hd.standing p (fun q hq => ⟨hapart hp hq, fun hpq => ?_⟩) fun hd hc => (hcache hc).2.1 p hp
    exact hne (h.writes j hj k hk p hp q hq hpq).1
  · exact hd.filled q fun r hr hrq => hapart hp hr (hrq.trans hq)
  · exact hd.files _ (fun q hq => h.sources k hk j hj q hq) fun hd hc => (hcache hc).2.2.symm
  · rw [Job.rows, Job.rows]
    cases hc : j.builder.cache with
    | none => rfl
    | some hd' =>
      refine hd.rows hd' (by rw [hbuilder]; exact hc) j.rel fun hrel => ?_
      exact hne (h.rels j hj k hk hrel)

end Scheme

/-! ## One document after the other -/

/-- A turn that was taken: the document, whether the work had been called off, where it was built,
and what was reported, if anything. -/
structure Turn where
  job : Job
  cancelled : Bool
  before : Site
  outcome : Option Report

/-- Documents take their turns one after the other. -/
def sweep (cancelled : Bool) : List Job → Site → List Turn × Site
  | [], s => ([], s)
  | j :: more, s =>
    let (outcome, after) := j.turn cancelled s
    let (turns, final) := sweep cancelled more after
    (⟨j, cancelled, s, outcome⟩ :: turns, final)

section

variable {cancelled : Bool} {home : List Text} {b : Builder} {jobs order order' : List Job} {s : Site}

/-- A sweep is the turn of its first document and a sweep over the others from there. -/
theorem sweep_cons (cancelled : Bool) (j : Job) (more : List Job) (s : Site) :
    sweep cancelled (j :: more) s =
      (⟨j, cancelled, s, (j.turn cancelled s).1⟩ :: (sweep cancelled more (j.turn cancelled s).2).1,
        (sweep cancelled more (j.turn cancelled s).2).2) := rfl

/-- A firing without disturbance is a sweep: the documents that wait are built one after the other,
and those that are gone by then are passed over. -/
theorem Builder.rebuild_eq_sweep (b : Builder) (i : Instant) (root : Text) (order : List Text)
    (s : Site) :
    b.rebuild i root order s =
      .ok ((sweep false (order.map (Job.mk b i root)) s).1.filterMap (·.outcome))
        (sweep false (order.map (Job.mk b i root)) s).2 := by
  induction order generalizing s with
  | nil => rfl
  | cons source more ih =>
    rw [List.map_cons, sweep_cons, List.filterMap_cons, Job.turn]
    by_cases hthere : s.disk.isThere source = true
    · simp only [hthere, if_true]
      have hstep : b.rebuild i root (source :: more) s =
          (attempt (b.buildOne i false root source) >>= fun r =>
            b.rebuild i root more >>= fun rs => pure (r :: rs)) s := by
        rw [Builder.rebuild]
        change (if s.disk.isThere source = true then _ else _ : Building _) s = _
        rw [if_pos hthere]
      rw [hstep]
      cases hb : b.buildOne i false root source s with
      | ok r s' =>
        refine Files.bind_eq_ok.2 ⟨.ok r, s', by rw [attempt, hb], ?_⟩
        exact Files.bind_eq_ok.2 ⟨_, _, ih s', rfl⟩
      | error e s' =>
        refine Files.bind_eq_ok.2 ⟨.error e, s', by rw [attempt, hb], ?_⟩
        exact Files.bind_eq_ok.2 ⟨_, _, ih s', rfl⟩
    · rw [if_neg hthere]
      have hstep : b.rebuild i root (source :: more) s = b.rebuild i root more s := by
        rw [Builder.rebuild]
        change (if s.disk.isThere source = true then _ else _ : Building _) s = _
        rw [if_neg hthere]
      rw [hstep, ih]

/-- Whatever the order, the disk looks to a document as it would after its own turn at first, or as
it did at first if it had none. -/
theorem Scheme.beside_sweep (h : Scheme home b jobs) (hnodup : order.Nodup) (hsub : order ⊆ jobs)
    (hhome : s.disk.home = home) (hlook : s.disk.look home = some none) (cancelled : Bool) :
    (∀ j ∈ order, j.Beside home (j.turn cancelled s).2 (sweep cancelled order s).2) ∧
      ∀ j ∈ jobs, j ∉ order → j.Beside home s (sweep cancelled order s).2 := by
  induction order generalizing s with
  | nil => exact ⟨fun j hj => (nomatch hj), fun j _ _ => Job.Alike.refl hhome hlook⟩
  | cons k more ih =>
    obtain ⟨hk, hmore⟩ := List.cons_subset.1 hsub
    obtain ⟨hnot, hnodup⟩ := List.nodup_cons.1 hnodup
    have hspared := Job.spares_turn (h.fit hk) cancelled s hhome hlook
    -- the turn of `k` does not show to the others
    have hframe {j : Job} (hj : j ∈ jobs) (hne : j ≠ k) : j.Beside home s (k.turn cancelled s).2 :=
      h.alike_of_spared hj hk hne hhome hlook hspared
    obtain ⟨hdone, hwaiting⟩ := ih hnodup hmore hspared.home_eq hspared.look_home
    rw [sweep_cons]
    refine ⟨fun j hj => ?_, fun j hj hout => ?_⟩
    · rcases List.mem_cons.1 hj with rfl | hj
      · exact hwaiting j hk hnot
      · have hne : j ≠ k := fun heq => hnot (heq ▸ hj)
        exact (Job.beside_turn (h.fit (hmore hj)) (hframe (hmore hj) hne) cancelled).trans (hdone j hj)
    · have hne : j ≠ k := by
        rintro rfl
        exact hout List.mem_cons_self
      have hout : j ∉ more := fun hmem => hout (List.mem_cons_of_mem _ hmem)
      exact (hframe hj hne).trans (hwaiting j hj hout)

/-- Nothing else changes in a sweep: no file that no document writes, and no entry about anything
else. -/
theorem Scheme.untouched_sweep (h : Scheme home b jobs) (hsub : order ⊆ jobs)
    (hhome : s.disk.home = home) (hlook : s.disk.look home = some none) (cancelled : Bool) :
    (∀ q, (∀ j ∈ jobs, ∀ p ∈ j.writes home, ¬ p <+: q) →
        (∀ hd, b.cache = some hd → q ≠ placeOf home hd.path) →
        (sweep cancelled order s).2.disk.fileAt q = s.disk.fileAt q) ∧
      ∀ hd, b.cache = some hd → ∀ path, (∀ j ∈ jobs, path ≠ j.rel) →
        hd.rows path (sweep cancelled order s).2.disk = hd.rows path s.disk := by
  induction order generalizing s with
  | nil => exact ⟨fun _ _ _ => rfl, fun _ _ _ _ => rfl⟩
  | cons k more ih =>
    obtain ⟨hk, hmore⟩ := List.cons_subset.1 hsub
    have hspared := Job.spares_turn (h.fit hk) cancelled s hhome hlook
    obtain ⟨hfiles, hrows⟩ := ih hmore hspared.home_eq hspared.look_home
    rw [sweep_cons]
    refine ⟨fun q hq hcache => (hfiles q hq hcache).trans ?_,
      fun hd hcache path hpath => (hrows hd hcache path hpath).trans ?_⟩
    · refine hspared.files q (hq k hk) fun hd hc => hcache hd ?_
      rw [← h.builder k hk]
      exact hc
    · refine hspared.rows hd ?_ path (hpath k hk)
      rw [h.builder k hk]
      exact hcache

/-- Two disks have the same files, but for that of the cache, which has the same entries about
everything. -/
def Builder.Same (b : Builder) (home : List Text) (d d' : Disk Content) : Prop :=
  (∀ q, (∀ hd, b.cache = some hd → q ≠ placeOf home hd.path) → d.fileAt q = d'.fileAt q) ∧
    ∀ hd, b.cache = some hd → ∀ path, hd.rows path d = hd.rows path d'

/-- **The order of documents that are apart does not matter.** Two sweeps in different orders leave
the same at the places of each document, since it looks alike to the document when its turn comes,
and the same everywhere else, since nothing is done there. -/
theorem Scheme.sweep_perm (h : Scheme home b jobs) (hnodup : jobs.Nodup) (horder : order.Perm jobs)
    (horder' : order'.Perm jobs) (hhome : s.disk.home = home)
    (hlook : s.disk.look home = some none) (cancelled : Bool) :
    b.Same home (sweep cancelled order s).2.disk (sweep cancelled order' s).2.disk := by
  -- to every document both disks look as after its own turn
  have hbeside {j : Job} (hj : j ∈ jobs) :
      j.Beside home (sweep cancelled order s).2 (sweep cancelled order' s).2 := by
    have hone {order : List Job} (horder : order.Perm jobs) :
        j.Beside home (j.turn cancelled s).2 (sweep cancelled order s).2 :=
      (h.beside_sweep (horder.nodup_iff.2 hnodup) horder.subset hhome hlook cancelled).1 j
        (horder.mem_iff.2 hj)
    exact (hone horder).symm.trans (hone horder')
  obtain ⟨hfiles, hrows⟩ := h.untouched_sweep horder.subset hhome hlook cancelled
  obtain ⟨hfiles', hrows'⟩ := h.untouched_sweep horder'.subset hhome hlook cancelled
  refine ⟨fun q hcache => ?_, fun hd hcache path => ?_⟩
  · by_cases hq : ∃ j ∈ jobs, ∃ p ∈ j.writes home, p <+: q
    · obtain ⟨j, hj, p, hp, more, rfl⟩ := hq
      exact ((hbeside hj).disk.fileAt_eq hp more).symm
    · have hq : ∀ j ∈ jobs, ∀ p ∈ j.writes home, ¬ p <+: q :=
        fun j hj p hp hpq => hq ⟨j, hj, p, hp, hpq⟩
      rw [hfiles q hq hcache, hfiles' q hq hcache]
  · by_cases hpath : ∃ j ∈ jobs, path = j.rel
    · obtain ⟨j, hj, rfl⟩ := hpath
      have hrows := (hbeside hj).rows
      rw [Job.rows, Job.rows, h.builder j hj, hcache] at hrows
      exact hrows.symm
    · have hpath : ∀ j ∈ jobs, path ≠ j.rel := fun j hj heq => hpath ⟨j, hj, heq⟩
      rw [hrows hd hcache path hpath, hrows' hd hcache path hpath]

end

end NovelScript.Build
