import NovelScript.Proofs.Build.Discover
import NovelScript.Proofs.Build.Independence
import NovelScript.Proofs.Build.Transparency

/-!
# A directory is built the same way in any order

The documents of a directory are built side by side, and a step of any of them may come next. The
first failure calls the work off, so that documents that come late are not built and caches refuse.

* **`Crew.Steady.advance`** says that every document gets on as if it were alone, and
  **`Crew.Run.steady`** that this holds after any number of steps. **`Crew.Run.sound`** says the same
  of the entries of caches.
* **`plan_of_discover`** says that this applies to the documents that are found below a root.
* **`buildDirectory_any_order`** compares any run with documents that are built one after the other,
  which is one of the runs (`buildDirectory_run`).
-/

namespace NovelScript.Build

open Files (Disk)

/-! ## Runs of a crew -/

namespace Crew

/-- A document has failed, and not because the work was called off. -/
def Troubled (w : Crew) : Prop :=
  ∃ task ∈ w.tasks, ∃ e, task.2 = .failed e ∧ e ≠ .cancelled

/-- A document has failed because of the disk. -/
def Broken (w : Crew) : Prop :=
  ∃ task ∈ w.tasks, ∃ e, task.2 = .failed e ∧ e.isOfDisk = true

/-- Any number of steps of documents in any order. The work is called off, and caches refuse, only
once a document has failed. -/
inductive Run (start : Crew) : Crew → Prop
  | refl : Run start start
  | step {w : Crew} {k : Nat} {c : Conditions} : Run start w →
      (c.cancelled = true ∨ c.trouble ≠ none → w.Troubled) → Run start (w.advance k c)

/-- All documents are built or have failed. -/
def Finished (w : Crew) : Prop :=
  ∀ task ∈ w.tasks, (∃ text r, task.2 = .done text r) ∨ ∃ e, task.2 = .failed e

/-- What the build of a directory returns once its documents are finished: the results in the order
of the documents, or the failure that called the work off. -/
def Returns (w : Crew) : Except Failure (List Result) → Prop
  | .ok rs => w.tasks.map (·.2.result?) = rs.map some
  | .error e => w.Finished ∧ e ≠ .cancelled ∧ ∃ task ∈ w.tasks, task.2 = .failed e

variable {w : Crew} {k : Nat} {c : Conditions}

/-- A step changes none of the documents. -/
theorem jobs_advance : (w.advance k c).tasks.map (·.1) = w.tasks.map (·.1) := by
  rcases w.advance_cases k c with ⟨-, hself⟩ | ⟨j, p, p', hk, -, hk', hothers⟩
  · rw [hself]
  · refine List.ext_getElem? fun n => ?_
    rw [List.getElem?_map, List.getElem?_map]
    rcases Decidable.em (n = k) with rfl | hne
    · rw [hk, hk']
      rfl
    · rw [hothers n hne]

/-- A document that has failed stays so. -/
theorem failed_advance {j : Job} {e : Failure} (h : (j, .failed e) ∈ w.tasks) :
    (j, .failed e) ∈ (w.advance k c).tasks := by
  obtain ⟨n, hn⟩ := List.mem_iff_getElem?.1 h
  rcases w.advance_cases k c with ⟨-, hself⟩ | ⟨j₀, p₀, p', hold, hmoves, hnew, hothers⟩
  · rwa [hself]
  · rcases Decidable.em (n = k) with rfl | hne
    · cases hold.symm.trans hn
      rw [hmoves.of_failed] at hnew
      exact List.mem_of_getElem? hnew
    · exact List.mem_of_getElem? ((hothers n hne).trans hn)

/-- A document that the disk has failed stays failed, so trouble does not go away. This is why a run
may be judged by its end. -/
theorem Troubled.advance (h : w.Troubled) : (w.advance k c).Troubled := by
  obtain ⟨⟨j, p⟩, hmem, e, hp, he⟩ := h
  subst hp
  exact ⟨_, failed_advance hmem, e, rfl, he⟩

/-- A document that has failed for any cause stays failed. -/
theorem Broken.advance (h : w.Broken) : (w.advance k c).Broken := by
  obtain ⟨⟨j, p⟩, hmem, e, hp, he⟩ := h
  subst hp
  exact ⟨_, failed_advance hmem, e, rfl, he⟩

/-! ## What every run keeps -/

/-- Every document has got on as if it were alone, and nothing else that matters has changed. -/
structure Steady (d₀ : Disk Content) (b : Builder) (jobs : List Job) (w : Crew) : Prop where
  jobs_eq : w.tasks.map (·.1) = jobs
  home : w.disk.home = d₀.home
  sources : ∀ j ∈ jobs, w.disk.fileAt (d₀.place j.source) = d₀.fileAt (d₀.place j.source)
  others : ∀ h, b.cache = some h → ∀ path, (∀ j ∈ jobs, j.rel ≠ path) →
    h.rows path w.disk = h.rows path d₀
  follows : ∀ (k : Nat) (j : Job) (p : Phase), w.tasks[k]? = some (j, p) → p.Follows d₀ w.disk w.Troubled j

/-- Of a list without repetitions, entries at different indices are different. -/
theorem ne_of_nodup {α β : Type} {f : α → β} {l : List α} (h : (l.map f).Nodup) {m n : Nat} {x y : α}
    (hm : l[m]? = some x) (hn : l[n]? = some y) (hne : m ≠ n) : f x ≠ f y := by
  intro heq
  have hm' : (l.map f)[m]? = some (f x) := by rw [List.getElem?_map, hm]; rfl
  have hn' : (l.map f)[n]? = some (f x) := by rw [List.getElem?_map, hn, heq]; rfl
  have hlt := (List.getElem?_eq_some_iff.1 hm').1
  exact hne ((List.getElem?_inj hlt h).1 (hm'.trans hn'.symm))

/-- A document that has failed means trouble: it was called off because of another one that failed,
or it has failed by itself. -/
theorem Steady.troubled_of_failed {d₀ : Disk Content} {b : Builder} {jobs : List Job}
    (hw : w.Steady d₀ b jobs) {j : Job} {e : Failure} (hmem : (j, .failed e) ∈ w.tasks) :
    w.Troubled := by
  obtain ⟨k, hk⟩ := List.mem_iff_getElem?.1 hmem
  obtain ⟨⟨-, htroubled⟩ | ⟨text, x, rfl, -⟩, -⟩ := hw.follows k _ _ hk
  · exact htroubled
  · exact ⟨_, hmem, _, rfl, by simp⟩

/-- A step of one document leaves all documents as if they were alone, unless the disk fails. For
the document itself it is `Phase.Follows.moves`, and for each of the others `Phase.Follows.congr`
with the frame of the step. -/
theorem Steady.advance {d₀ : Disk Content} {b : Builder} {jobs : List Job}
    (hw : w.Steady d₀ b jobs) (hplan : Plan d₀ b jobs)
    (hcalm : c.cancelled = true ∨ c.trouble ≠ none → w.Troubled) :
    (w.advance k c).Steady d₀ b jobs ∨ (w.advance k c).Broken := by
  rcases w.advance_cases k c with ⟨-, hself⟩ | ⟨j, p, p', hk, hmoves, hk', hothers⟩
  · rw [hself]
    exact .inl hw
  rcases Classical.em (∃ e, p' = .failed e ∧ e.isOfDisk = true) with ⟨e, hp', he⟩ | hdisk
  · exact .inr ⟨_, List.mem_of_getElem? hk', e, hp', he⟩
  have hdisk (e : Failure) (hp' : p' = .failed e) : e.isOfDisk = false := by
    cases he : e.isOfDisk with
    | false => rfl
    | true => exact absurd ⟨e, hp', he⟩ hdisk
  have hjobs (n : Nat) (j : Job) (p : Phase) (h : w.tasks[n]? = some (j, p)) : jobs[n]? = some j := by
    rw [← hw.jobs_eq, List.getElem?_map, h]
    rfl
  have hj : j ∈ jobs := List.mem_of_getElem? (hjobs k j p hk)
  -- from here on the step touches nothing that belongs to another document
  have hframe := hmoves.frame hplan hj hw.home hdisk
  refine .inl ⟨?_, hframe.home.trans hw.home, fun j' hj' => ?_, fun h hcache path hpath => ?_,
    fun n j' p'' hn => ?_⟩
  · rw [jobs_advance, hw.jobs_eq]
  · exact (hframe.sources j' hj').trans (hw.sources j' hj')
  · rw [← hplan.builder j hj] at hcache
    exact (hframe.rows h hcache path (hpath j hj).symm).trans
      (hw.others h (hplan.builder j hj ▸ hcache) path hpath)
  · rcases Decidable.em (n = k) with rfl | hne
    · cases hk'.symm.trans hn
      have := (hw.follows n j p hk).moves hmoves hplan hj hw.home (hw.sources j hj) hcalm hdisk
      exact this.congr Troubled.advance rfl rfl
    · rw [hothers n hne] at hn
      have hn' := hjobs n j' p'' hn
      have hj' : j' ∈ jobs := List.mem_of_getElem? hn'
      -- the entries about the other document and the file of its script are its own
      refine (hw.follows n j' p'' hn).congr Troubled.advance ?_ ?_
      · have hrel := ne_of_nodup hplan.rels hn' (hjobs k j p hk) hne
        rw [Job.rows, Job.rows]
        cases hcache : j'.builder.cache with
        | none => rfl
        | some h =>
          rw [hplan.builder j' hj', ← hplan.builder j hj] at hcache
          exact hframe.rows h hcache j'.rel hrel
      · refine Job.scriptFile_congr (hplan.direct j' hj').2 hframe.home ?_
        rw [place_congr hw.home]
        exact hframe.scripts j' hj' (ne_of_nodup hplan.outputs hn' (hjobs k j p hk) hne)

end Crew

namespace Crew

/-- Any number of steps leaves all documents as if they were alone, unless the disk fails. -/
theorem Run.steady {d₀ : Disk Content} {b : Builder} {jobs : List Job} {start w : Crew}
    (h : Run start w) (hplan : Plan d₀ b jobs) (hstart : start.Steady d₀ b jobs) :
    w.Steady d₀ b jobs ∨ w.Broken := by
  induction h with
  | refl => exact .inl hstart
  | step _ hcalm ih =>
    rcases ih with hw | hw
    · exact hw.advance hplan hcalm
    · exact .inr hw.advance

/-- Any number of steps leaves all entries correct, when they were so at first, unless the disk
fails. -/
theorem Run.sound {d₀ : Disk Content} {b : Builder} {jobs : List Job} {start w : Crew}
    (h : Run start w) (hplan : Plan d₀ b jobs) (hstart : start.Steady d₀ b jobs)
    {hashed : List Text} (hsound : World.Sound ⟨start, hashed⟩)
    (htexts : ∀ j ∈ jobs, ∀ text, j.Holds d₀ text → text ∈ hashed)
    (hoptions : optionsRecord b.options ∈ hashed) : World.Sound ⟨w, hashed⟩ ∨ w.Broken := by
  induction h with
  | refl => exact .inl hsound
  | @step w k c hrun hcalm ih =>
    rcases ih with hw | hw
    · rcases (hrun.step (k := k) hcalm).steady hplan hstart with hsteady | hbroken
      · rcases w.advance_cases k c with ⟨-, hself⟩ | ⟨j, -, p, -, -, hk, -⟩
        · rw [hself]
          exact .inl hw
        have hj : j ∈ jobs := by
          rw [← hsteady.jobs_eq]
          exact List.mem_map_of_mem (f := (·.1)) (List.mem_of_getElem? hk)
        -- what is digested was there at first
        have hinputs : p.inputs j ++ hashed ⊆ hashed := by
          refine List.append_subset.2 ⟨?_, List.Subset.refl _⟩
          cases p with
          | read text =>
            have hholds := (hsteady.follows k j _ hk).1
            simp [Phase.inputs, htexts j hj text hholds, hplan.builder j hj, hoptions]
          | _ => simp [Phase.inputs]
        exact .inl ((hw.advance hk).mono hinputs)
      · exact .inr hbroken
    · exact .inr hw.advance

end Crew

/-! ## The documents of a directory -/

/-- The documents below a root that a builder is to build. -/
def jobsOf (b : Builder) (clock : Text → Instant) (root : Text) (sources : List Text) : List Job :=
  sources.map fun source => ⟨b, clock source, root, source⟩

section

variable {b : Builder} {clock : Text → Instant} {root : Text} {sources : List Text}

/-- The tasks of a crew are the builds of the documents, in the order in which these were found. -/
theorem jobs_tasksOf : (Crew.tasksOf b clock root sources).map (·.1) = jobsOf b clock root sources := by
  simp [Crew.tasksOf, jobsOf, Function.comp_def]

/-- The documents that are found below a root can be built side by side, when their scripts go to
different places. -/
theorem plan_of_discover {d : Disk Content} (hfound : discover d root = .ok sources)
    (hnamed : ∀ e, d.find root = .ok e → Named e) (hext : Files.slash ∉ b.target.extension)
    (hroot : ∀ c, d.find root = .ok (.file c) → Files.isDirect root = true)
    (hlayout : Layout d (jobsOf b clock root sources)) : Plan d b (jobsOf b clock root sources) where
  toLayout := hlayout
  builder j hj := by
    obtain ⟨source, -, rfl⟩ := List.mem_map.1 hj
    rfl
  related j hj := by
    obtain ⟨source, hs, rfl⟩ := List.mem_map.1 hj
    obtain ⟨output, hout⟩ := path?_isSome hfound hnamed hs b.target
    simp [hout]
  direct j hj := by
    obtain ⟨source, hs, rfl⟩ := List.mem_map.1 hj
    have hdirect := isDirect_source hfound hnamed hroot hs
    obtain ⟨output, hout⟩ := path?_isSome hfound hnamed hs b.target
    refine ⟨hdirect, ?_⟩
    have hsource := (mem_discover hfound hnamed hs).1
    rw [Job.output, hout]
    exact isDirect_path? hext hsource hdirect hout
  rels := by
    have houtputs := hlayout.outputs
    rw [jobsOf, List.map_map, List.Nodup, List.pairwise_map] at houtputs ⊢
    refine houtputs.imp_of_mem fun {s s'} hs hs' hne hrel => hne ?_
    -- documents that look the same from the root are the same, and so are their scripts
    obtain ⟨rel, hr⟩ := relative?_isSome hfound hnamed hs
    obtain ⟨rel', hr'⟩ := relative?_isSome hfound hnamed hs'
    have hrel : rel = rel' := by
      simpa [Job.rel, hr, hr'] using hrel
    cases relative?_inj hfound hnamed hs hs' (by rw [hr, hr', hrel])
    rfl

/-- Before anything has happened, every document is where it was. -/
theorem steady_tasksOf {s : Site} :
    Crew.Steady s.disk b (jobsOf b clock root sources) ⟨s, Crew.tasksOf b clock root sources⟩ where
  jobs_eq := jobs_tasksOf
  home := rfl
  sources _ _ := rfl
  others _ _ _ _ := rfl
  follows k j p hk := by
    obtain ⟨source, -, heq⟩ := List.mem_map.1 (List.mem_of_getElem? hk)
    cases heq
    exact ⟨rfl, rfl⟩

end

/-! ## Documents that all have scripts -/

section

variable {b : Builder} {clock : Text → Instant} {root : Text} {sources : List Text}
  {d₀ : Disk Content} {w : Crew}

/-- There is no trouble when every document has a script. -/
theorem Crew.Steady.not_troubled (hw : w.Steady d₀ b (jobsOf b clock root sources))
    (hscripts : ∀ source ∈ sources, ∀ content, d₀.read source = .ok content →
      ∃ script, scriptOf b.options content.asText = .ok script) : ¬ w.Troubled := by
  rintro ⟨⟨j, p⟩, hmem, e, hp, he⟩
  cases hp
  obtain ⟨k, hk⟩ := List.mem_iff_getElem?.1 hmem
  have hj : j ∈ jobsOf b clock root sources := by
    rw [← hw.jobs_eq]
    exact List.mem_map_of_mem (f := (·.1)) hmem
  obtain ⟨source, hs, rfl⟩ := List.mem_map.1 hj
  obtain ⟨⟨hcancelled, -⟩ | ⟨text, x, -, ⟨content, hread, rfl⟩, hscript⟩, -⟩ := hw.follows k _ _ hk
  · exact he hcancelled
  · obtain ⟨script, hok⟩ := hscripts source hs content hread
    cases hok.symm.trans hscript

/-- Without trouble, every document of a finished crew is built, and as it would have been alone. -/
theorem Crew.Steady.done (hw : w.Steady d₀ b (jobsOf b clock root sources)) (hcalm : ¬ w.Troubled)
    (hfinished : w.Finished) {n : Nat} {source : Text} (hn : sources[n]? = some source) :
    ∃ text r, w.tasks[n]? = some (⟨b, clock source, root, source⟩, .done text r) ∧
      (Phase.done text r).Follows d₀ w.disk False ⟨b, clock source, root, source⟩ := by
  have hjob : (w.tasks.map (·.1))[n]? = some ⟨b, clock source, root, source⟩ := by
    rw [hw.jobs_eq, jobsOf, List.getElem?_map, hn]
    rfl
  rw [List.getElem?_map, Option.map_eq_some_iff] at hjob
  obtain ⟨⟨j, p⟩, hk, rfl⟩ := hjob
  have hfollows := hw.follows n _ p hk
  rcases hfinished _ (List.mem_of_getElem? hk) with ⟨text, r, rfl⟩ | ⟨e, rfl⟩
  · exact ⟨text, r, hk, hfollows.congr hcalm rfl rfl⟩
  · exact absurd (hw.troubled_of_failed (List.mem_of_getElem? hk)) hcalm

/-- Two crews that are done without trouble agree about each document: on its result, on its script
and, times and runs aside, on what caches hold about it. The instants of the documents may differ. -/
theorem Crew.Steady.agree {clock' : Text → Instant} {w' : Crew}
    (hw : w.Steady d₀ b (jobsOf b clock root sources)) (hcalm : ¬ w.Troubled) (hfinished : w.Finished)
    (hw' : w'.Steady d₀ b (jobsOf b clock' root sources)) (hcalm' : ¬ w'.Troubled)
    (hfinished' : w'.Finished) {n : Nat} {source : Text} (hn : sources[n]? = some source) :
    let j : Job := ⟨b, clock source, root, source⟩
    w.tasks[n]?.map (·.2.result?) = w'.tasks[n]?.map (·.2.result?) ∧
      j.scriptFile w.disk = j.scriptFile w'.disk ∧
      essences (j.rows w.disk) = essences (j.rows w'.disk) := by
  intro j
  obtain ⟨text, r, hk, hfollows⟩ := hw.done hcalm hfinished hn
  obtain ⟨text', r', hk', hfollows'⟩ := hw'.done hcalm' hfinished' hn
  obtain ⟨rfl, hfile, hrows⟩ := hfollows.unique hfollows'
  exact ⟨by rw [hk, hk']; rfl, hfile, hrows⟩

/-- A crew whose documents are all built returns their results, in the order of the documents and
not in that in which they were done. -/
theorem Crew.returns_iff {rs : List Result} (h : w.tasks.map (·.2.result?) = rs.map some)
    (out : Except Failure (List Result)) : w.Returns out ↔ out = .ok rs := by
  cases out with
  | ok rs' =>
    rw [Crew.Returns, h, Except.ok.injEq]
    constructor
    · intro heq
      exact (List.map_inj_right fun _ _ => Option.some_inj.1).1 heq.symm
    · rintro rfl
      rfl
  | error e =>
    refine ⟨?_, fun h => (nomatch h)⟩
    rintro ⟨-, -, task, hmem, htask⟩
    have : task.2.result? ∈ rs.map some := h ▸ List.mem_map_of_mem (f := (·.2.result?)) hmem
    rw [htask] at this
    simp [Phase.result?] at this

/-- When a crew returns results, all its documents are built. -/
theorem Crew.Returns.done {rs : List Result} (h : w.Returns (.ok rs)) {task : Job × Phase}
    (hmem : task ∈ w.tasks) : ∃ text r, task.2 = .done text r := by
  have hresults : w.tasks.map (·.2.result?) = rs.map some := h
  have : task.2.result? ∈ rs.map some := hresults ▸ List.mem_map_of_mem (f := (·.2.result?)) hmem
  obtain ⟨r, -, hr⟩ := List.mem_map.1 this
  cases hp : task.2 with
  | done text r => exact ⟨text, r, rfl⟩
  | _ => simp [hp, Phase.result?] at hr

/-- A call that gives results has waited for all of its documents. -/
theorem Crew.Returns.finished {rs : List Result} (h : w.Returns (.ok rs)) : w.Finished :=
  fun _ hmem => .inl (h.done hmem)

/-- A call that gives results has met no trouble: a document in trouble has no result. -/
theorem Crew.Returns.not_troubled {rs : List Result} (h : w.Returns (.ok rs)) : ¬ w.Troubled := by
  rintro ⟨task, hmem, e, he, -⟩
  obtain ⟨text, r, hr⟩ := h.done hmem
  cases hr.symm.trans he

/-- A call that gives results has built all of its documents. -/
theorem Crew.Returns.not_broken {rs : List Result} (h : w.Returns (.ok rs)) : ¬ w.Broken := by
  rintro ⟨task, hmem, e, he, -⟩
  obtain ⟨text, r, hr⟩ := h.done hmem
  cases hr.symm.trans he

/-- Documents that are built one after the other are a crew at work: a call without any concurrency
is a run of the crew as well, and is compared with all others through it. -/
theorem buildDirectory_run {i : Instant} {s : Site} (hvalid : b.options.validate = .ok ())
    (hfound : discover s.disk root = .ok sources) :
    (∀ rs s', b.buildDirectory i false root s = .ok rs s' →
      ∃ w', Crew.Run ⟨s, Crew.tasksOf b (fun _ => i) root sources⟩ w' ∧ w'.disk = s'.disk ∧
        w'.Returns (.ok rs)) ∧
    ∀ e s', b.buildDirectory i false root s = .error e s' →
      ∃ w', Crew.Run ⟨s, Crew.tasksOf b (fun _ => i) root sources⟩ w' ∧ w'.disk = s'.disk ∧
        (∃ task ∈ w'.tasks, task.2 = .failed e) ∧
        ∀ task ∈ w'.tasks, ∀ e', task.2 = .failed e' → e' = e := by
  have hsteps (w : Crew) (k : Nat)
      (h : Crew.Run ⟨s, Crew.tasksOf b (fun _ => i) root sources⟩ w) :
      Crew.Run ⟨s, Crew.tasksOf b (fun _ => i) root sources⟩ (w.advance k { cancelled := false }) :=
    h.step (by simp)
  obtain ⟨hok, herror⟩ := Crew.buildAll_induction hsteps b i root sources [] s (by exact .refl)
  rw [Builder.buildDirectory_eq hvalid hfound]
  cases hb : b.buildAll i false root sources s with
  | ok rs s' =>
    refine ⟨fun rs' s'' h => ?_, fun e s'' h => (nomatch h)⟩
    cases h
    obtain ⟨after, hrun, -, hresults⟩ := hok rs s' hb
    exact ⟨_, hrun, rfl, hresults⟩
  | error e s' =>
    refine ⟨fun rs' s'' h => (nomatch h), fun e' s'' h => ?_⟩
    cases h
    obtain ⟨after, hrun, -, hfailed, honly⟩ := herror e s' hb
    exact ⟨_, hrun, rfl, hfailed, honly⟩

/-- All documents get built when all of them have scripts and the disk does not fail. This is the
side of the comparison where documents are built in turn. -/
theorem buildDirectory_steady {i : Instant} {s : Site} (hvalid : b.options.validate = .ok ())
    (hfound : discover s.disk root = .ok sources)
    (hplan : Plan s.disk b (jobsOf b (fun _ => i) root sources))
    (hdisk : ∀ e s', b.buildDirectory i false root s = .error e s' → e.isOfDisk = false)
    (hscripts : ∀ source ∈ sources, ∀ content, s.disk.read source = .ok content →
      ∃ script, scriptOf b.options content.asText = .ok script) :
    ∃ rs s' w', b.buildDirectory i false root s = .ok rs s' ∧ w'.disk = s'.disk ∧
      Crew.Steady s.disk b (jobsOf b (fun _ => i) root sources) w' ∧ w'.Finished ∧
      w'.tasks.map (·.2.result?) = rs.map some := by
  obtain ⟨hok, herror⟩ := buildDirectory_run (i := i) hvalid hfound
  cases hb : b.buildDirectory i false root s with
  | ok rs s' =>
    obtain ⟨w', hrun, hd, hreturns⟩ := hok rs s' hb
    have hsteady := (hrun.steady hplan steady_tasksOf).resolve_right hreturns.not_broken
    exact ⟨rs, s', w', rfl, hd, hsteady, hreturns.finished, hreturns⟩
  | error e s' =>
    exfalso
    obtain ⟨w', hrun, -, ⟨task, hmem, htask⟩, honly⟩ := herror e s' hb
    rcases hrun.steady hplan steady_tasksOf with hsteady | ⟨task', hmem', e', he', hof⟩
    · obtain ⟨j, p⟩ := task
      cases htask
      exact hsteady.not_troubled hscripts (hsteady.troubled_of_failed hmem)
    · cases honly task' hmem' e' he'
      cases hof.symm.trans (hdisk e s' hb)

end

/-! ## Documents without scripts -/

/-- Where all entries are correct, a document comes to the script of its text. -/
theorem Job.Gets.scriptOf_eq {j : Job} {troubled : Prop} {text script : Text} {cached : Bool}
    {d : Disk Content} {rows' : Option (Bool × Cache.Table)} {hashed : List Text}
    (h : j.Gets troubled text script (j.rows d) cached rows')
    (hentries : Cache.Entries (Correct hashed) d) (hdigest : NoCollisions hashed)
    (htext : text ∈ hashed) (hoptions : optionsRecord j.builder.options ∈ hashed) :
    scriptOf j.builder.options text = .ok script := by
  cases h with
  | made _ hscript => exact hscript
  | found hfound =>
    obtain ⟨hd, -, hlookup⟩ := Job.exists_lookup_of_found hfound
    obtain ⟨e, he, -, hsource, hopts, rfl⟩ := hentries.lookup hlookup
    exact he.scriptOf_eq hdigest htext hoptions hsource hopts

section

variable {b : Builder} {clock : Text → Instant} {root : Text} {sources : List Text}
  {d₀ : Disk Content} {w : Crew}

/-- The document at a place of the list, and how far it is. -/
theorem Crew.Steady.task (hw : w.Steady d₀ b (jobsOf b clock root sources)) {source : Text}
    (hs : source ∈ sources) :
    ∃ p, (⟨b, clock source, root, source⟩, p) ∈ w.tasks ∧
      p.Follows d₀ w.disk w.Troubled ⟨b, clock source, root, source⟩ := by
  have hj : (⟨b, clock source, root, source⟩ : Job) ∈ w.tasks.map (·.1) := by
    rw [hw.jobs_eq]
    exact List.mem_map_of_mem (f := fun source => (⟨b, clock source, root, source⟩ : Job)) hs
  obtain ⟨⟨j, p⟩, hmem, rfl⟩ := List.mem_map.1 hj
  obtain ⟨k, hk⟩ := List.mem_iff_getElem?.1 hmem
  exact ⟨p, hmem, hw.follows k _ p hk⟩

/-- A steady crew has no more tasks than there are documents. -/
theorem Crew.Steady.getElem?_eq_none (hw : w.Steady d₀ b (jobsOf b clock root sources)) {n : Nat}
    (hn : sources[n]? = none) : w.tasks[n]? = none := by
  have hjob : (w.tasks.map (·.1))[n]? = none := by
    rw [hw.jobs_eq, jobsOf, List.getElem?_map, hn]
    rfl
  rwa [List.getElem?_map, Option.map_eq_none_iff] at hjob

/-- When a crew is finished, the script file of a document is as it was at first, or it has the
script of the document's text. -/
theorem Crew.Steady.scriptFile_cases (hw : w.Steady d₀ b (jobsOf b clock root sources))
    (hfinished : w.Finished) {hashed : List Text} (hentries : Cache.Entries (Correct hashed) d₀)
    (hdigest : NoCollisions hashed) (hoptions : optionsRecord b.options ∈ hashed)
    (htexts : ∀ source ∈ sources, ∀ content, d₀.read source = .ok content → content.asText ∈ hashed)
    {source : Text} (hs : source ∈ sources) :
    let j : Job := ⟨b, clock source, root, source⟩
    (j.scriptFile w.disk = j.scriptFile d₀ ∧ j.rows w.disk = j.rows d₀ ∧
      ∃ e, (j, .failed e) ∈ w.tasks) ∨
    ∃ text script, j.Holds d₀ text ∧ scriptOf b.options text = .ok script ∧
      (j.scriptFile w.disk = j.scriptFile d₀ ∨ j.scriptFile w.disk = some (.text script)) := by
  intro j
  obtain ⟨p, hmem, hfollows⟩ := hw.task hs
  rcases hfinished _ hmem with ⟨text, r, hp⟩ | ⟨e, hp⟩
  · cases hp
    obtain ⟨hholds, script, hgets, -, hfile⟩ := hfollows
    have htext : text ∈ hashed := by
      obtain ⟨content, hread, rfl⟩ := hholds
      exact htexts source hs content hread
    refine .inr ⟨text, script, hholds, hgets.scriptOf_eq hentries hdigest htext hoptions, ?_⟩
    split at hfile
    · exact .inl hfile
    · exact .inr hfile
  · cases hp
    exact .inl ⟨hfollows.2.2, hfollows.2.1, e, hmem⟩

/-- A document without a script fails, and nothing of it has changed: neither its script file nor
what caches hold about it. -/
theorem Crew.Steady.failed_of_malformed (hw : w.Steady d₀ b (jobsOf b clock root sources))
    (hfinished : w.Finished) {hashed : List Text} (hentries : Cache.Entries (Correct hashed) d₀)
    (hdigest : NoCollisions hashed) (hoptions : optionsRecord b.options ∈ hashed)
    (htexts : ∀ source ∈ sources, ∀ content, d₀.read source = .ok content → content.asText ∈ hashed)
    {source : Text} (hs : source ∈ sources) {content : Content} {x : Script.PassError}
    (hread : d₀.read source = .ok content)
    (hscript : scriptOf b.options content.asText = .error x) :
    let j : Job := ⟨b, clock source, root, source⟩
    j.scriptFile w.disk = j.scriptFile d₀ ∧ j.rows w.disk = j.rows d₀ ∧
      ∃ e, (j, .failed e) ∈ w.tasks := by
  refine (hw.scriptFile_cases hfinished hentries hdigest hoptions htexts hs).resolve_right ?_
  rintro ⟨text, script, hholds, hok, -⟩
  cases hholds.unique ⟨content, hread, rfl⟩
  cases hok.symm.trans hscript

/-- A call begins with correct entries when the caches have no others, since none of its documents
has got anywhere yet. -/
theorem World.sound_tasksOf {s : Site} {hashed : List Text}
    (hentries : Cache.Entries (Correct hashed) s.disk)
    (hlayout : Layout s.disk (jobsOf b clock root sources)) :
    World.Sound ⟨⟨s, Crew.tasksOf b clock root sources⟩, hashed⟩ where
  entries := hentries
  phases task ht := by
    obtain ⟨source, -, rfl⟩ := List.mem_map.1 ht
    trivial
  salts task ht := by
    have hj := List.mem_map_of_mem (f := (·.1)) ht
    rw [jobs_tasksOf] at hj
    exact hlayout.salts _ hj

end

/-! ## Any order -/

/-- What can be read at the place of a script is the same on disks on which the script file is the
same. The place is given by the builder here, as it is in the results of a call. -/
theorem read_eq_ok_iff {d d' : Disk Content} {j : Job} (h : j.scriptFile d = j.scriptFile d')
    {output : Text} (hout : j.builder.target.path? j.root j.source = some output) (c : Content) :
    d.read output = .ok c ↔ d'.read output = .ok c := by
  have : j.output = output := by rw [Job.output, hout]; rfl
  rw [← this, ← Job.scriptFile_eq_some, ← Job.scriptFile_eq_some, h]

/-- A directory may be built in any order, by any number of workers. When every document has a
script, the results, the scripts on the disk and the entries of the cache, times and runs aside, are
those of building the documents one after the other. When a document has none and the entries of
caches were correct, the build fails, a script on the disk is what it was or all of the script of its
document, nothing is written or kept for a document without a script, and the entries of caches are
still correct. -/
theorem buildDirectory_any_order {b : Builder} {clock : Text → Instant} {i : Instant} {root : Text}
    {sources : List Text} {s : Site} {w : Crew} (hvalid : b.options.validate = .ok ())
    (hfound : discover s.disk root = .ok sources)
    (hnamed : ∀ e, s.disk.find root = .ok e → Named e) (hext : Files.slash ∉ b.target.extension)
    (hroot : ∀ c, s.disk.find root = .ok (.file c) → Files.isDirect root = true)
    (hlayout : Layout s.disk (jobsOf b clock root sources))
    (hlayout' : Layout s.disk (jobsOf b (fun _ => i) root sources))
    (hrun : Crew.Run ⟨s, Crew.tasksOf b clock root sources⟩ w) (hfinished : w.Finished)
    (hdisk : ¬ w.Broken)
    (hdisk' : ∀ e s', b.buildDirectory i false root s = .error e s' → e.isOfDisk = false) :
    ((∀ source ∈ sources, ∀ content, s.disk.read source = .ok content →
        ∃ script, scriptOf b.options content.asText = .ok script) →
      ∃ rs s', b.buildDirectory i false root s = .ok rs s' ∧
        (∀ out, w.Returns out ↔ out = .ok rs) ∧
        (∀ source ∈ sources, ∀ output, b.target.path? root source = some output →
          ∀ c, w.disk.read output = .ok c ↔ s'.disk.read output = .ok c) ∧
        ∀ h, b.cache = some h → ∀ path,
          essences (h.rows path w.disk) = essences (h.rows path s'.disk)) ∧
    ∀ source ∈ sources, ∀ content x, s.disk.read source = .ok content →
      scriptOf b.options content.asText = .error x →
      ∀ hashed, NoCollisions hashed → Cache.Entries (Correct hashed) s.disk →
      optionsRecord b.options ∈ hashed →
      (∀ source ∈ sources, ∀ content, s.disk.read source = .ok content →
        content.asText ∈ hashed) →
      (∃ e, w.Returns (.error e)) ∧ (∀ rs, ¬ w.Returns (.ok rs)) ∧
      (∀ source ∈ sources, ∀ output, b.target.path? root source = some output →
        (∀ c, w.disk.read output = .ok c ↔ s.disk.read output = .ok c) ∨
        ∃ content script, s.disk.read source = .ok content ∧
          scriptOf b.options content.asText = .ok script ∧
          w.disk.read output = .ok (.text script)) ∧
      (∀ source ∈ sources, ∀ content x, s.disk.read source = .ok content →
        scriptOf b.options content.asText = .error x →
        (∀ output, b.target.path? root source = some output →
          ∀ c, w.disk.read output = .ok c ↔ s.disk.read output = .ok c) ∧
        ∀ h, b.cache = some h → ∀ rel, Files.relative? root source = some rel →
          h.rows rel w.disk = h.rows rel s.disk) ∧
      Cache.Entries (Correct hashed) w.disk := by
  have hplan := plan_of_discover hfound hnamed hext hroot hlayout
  have hplan' := plan_of_discover hfound hnamed hext hroot hlayout'
  have hw := (hrun.steady hplan steady_tasksOf).resolve_right hdisk
  refine ⟨fun hscripts => ?_, ?_⟩
  · obtain ⟨rs, s', w', hbuild, hdisk', hw', hfinished', hresults⟩ :=
      buildDirectory_steady hvalid hfound hplan' hdisk' hscripts
    have hcalm := hw.not_troubled hscripts
    have hcalm' := hw'.not_troubled hscripts
    -- document by document, both ways lead to the same
    have hsame {n : Nat} {source : Text} (hn : sources[n]? = some source) :=
      hw.agree hcalm hfinished hw' hcalm' hfinished' hn
    refine ⟨rs, s', hbuild, Crew.returns_iff ?_, fun source hs output hout => ?_,
      fun h hcache path => ?_⟩
    · rw [← hresults]
      refine List.ext_getElem? fun n => ?_
      rw [List.getElem?_map, List.getElem?_map]
      cases hn : sources[n]? with
      | some source => exact (hsame hn).1
      | none => rw [hw.getElem?_eq_none hn, hw'.getElem?_eq_none hn]
    · obtain ⟨n, hn⟩ := List.mem_iff_getElem?.1 hs
      rw [← hdisk']
      exact read_eq_ok_iff (hsame hn).2.1 hout
    · rw [← hdisk']
      rcases Classical.em (∃ source ∈ sources, Job.rel ⟨b, i, root, source⟩ = path) with
        ⟨source, hs, rfl⟩ | hother
      · obtain ⟨n, hn⟩ := List.mem_iff_getElem?.1 hs
        have hrows := (hsame hn).2.2
        rw [Job.rows, Job.rows, hcache] at hrows
        exact hrows
      · have hother (clock : Text → Instant) (j : Job) (hj : j ∈ jobsOf b clock root sources) :
            j.rel ≠ path := by
          obtain ⟨source, hs, rfl⟩ := List.mem_map.1 hj
          exact fun hrel => hother ⟨source, hs, hrel⟩
        rw [hw.others h hcache path (hother _), hw'.others h hcache path (hother _)]
  · intro source hs content x hread hscript hashed hdigest hentries hoptions htexts
    have hcases {source : Text} (hs : source ∈ sources) :=
      hw.scriptFile_cases hfinished hentries hdigest hoptions htexts hs
    have hfails {source : Text} (hs : source ∈ sources) {content : Content} {x : Script.PassError}
        (hread : s.disk.read source = .ok content)
        (hscript : scriptOf b.options content.asText = .error x) :=
      hw.failed_of_malformed hfinished hentries hdigest hoptions htexts hs hread hscript
    -- the failure that is returned may be that of another document, which called this one off
    obtain ⟨-, -, e₀, hfailed⟩ := hfails hs hread hscript
    obtain ⟨task, hmem, e, htask, he⟩ := hw.troubled_of_failed hfailed
    have herror : w.Returns (.error e) := ⟨hfinished, he, task, hmem, htask⟩
    refine ⟨⟨e, herror⟩, fun rs hok => ?_, fun source hs output hout => ?_,
      fun source hs content x hread hscript => ⟨fun output hout => ?_, fun h hcache rel hrel => ?_⟩, ?_⟩
    · cases (Crew.returns_iff hok _).1 herror
    · rcases hcases hs with ⟨hfile, -⟩ | ⟨text, script, ⟨content, hread, rfl⟩, hok, hfile | hfile⟩
      · exact .inl (read_eq_ok_iff hfile hout)
      · exact .inl (read_eq_ok_iff hfile hout)
      · refine .inr ⟨content, script, hread, hok, ?_⟩
        have := Job.scriptFile_eq_some.1 hfile
        rwa [Job.output, hout] at this
    · exact read_eq_ok_iff (hfails hs hread hscript).1 hout
    · have hrows := (hfails hs hread hscript).2.1
      rw [Job.rows, Job.rows, hcache, Job.rel, hrel] at hrows
      exact hrows
    · have hstart := World.sound_tasksOf hentries hlayout
      refine ((hrun.sound hplan steady_tasksOf hstart ?_ hoptions).resolve_right hdisk).entries
      rintro j hj text ⟨content, hread, rfl⟩
      obtain ⟨source, hs, rfl⟩ := List.mem_map.1 hj
      exact htexts source hs content hread

/-! ## A document with a script and one without -/

namespace Sample

/-- A disk with two documents, a cache and scripts. -/
def pair (table : Cache.Table) (scripts : List (Text × Files.Entry Content)) : Disk Content where
  root := .directory ([(Text.lit "a.md", .file (.text text)), (Text.lit "b.md", .file (.text broken)),
    (Text.lit "c", .file (.database { builds := some { table, hasRuns := true } }))] ++ scripts)

/-- The documents on it. -/
def documents : List Text := [Text.lit "a.md", Text.lit "b.md"]

/-- The second document is to be built with the same cache. -/
def other : Job := { job with source := Text.lit "b.md" }

/-- The disk once the first document is built. -/
def built : Disk Content :=
  pair [job.entry text script] [(Text.lit "a.rpy", .file (.text script))]

/-- Both documents before anything has happened. -/
def begun : Crew :=
  ⟨⟨pair [] [], []⟩, Crew.tasksOf job.builder (fun _ => job.instant) job.root documents⟩

/-- Both documents when the first one is built and the second one has failed. -/
def ended (x : Script.PassError) : Crew where
  site := ⟨built, [.built (job.result script false true)]⟩
  tasks := [(job, .done text (job.result script false true)),
    (other, .failed (.malformed other.rel x))]

variable {notes : List Note}

/-- The first document of the example is read, and the cache has nothing for it. -/
theorem drive_job : job.drive {} 3 .waiting ⟨pair [] [], notes⟩ =
    .ok (.missed text) ⟨pair [] [], notes⟩ := rfl

/-- Its script is made and written, without the other document being touched. -/
theorem drive_job_made : job.drive {} 3 (.made text script) ⟨pair [] [], notes⟩ =
    .ok (.done text (job.result script false true))
      ⟨built, notes ++ [.built (job.result script false true)]⟩ := rfl

/-- The second document is read before the script of the first one is written. -/
theorem drive_other : other.drive {} 3 .waiting ⟨pair [] [], notes⟩ =
    .ok (.missed broken) ⟨pair [] [], notes⟩ := rfl

/-- The second document is read behind the first one just as well: the disk it finds differs in
places that it does not look at. -/
theorem drive_other_behind : other.drive {} 3 .waiting ⟨built, notes⟩ =
    .ok (.missed broken) ⟨built, notes⟩ := rfl

/-- The options of the example are not refused. -/
theorem validate_job : job.builder.options.validate = .ok () := by
  change options.validate = .ok ()
  cbv

/-- The second document of the example has no script, so that its build fails whatever the order is.
-/
theorem exists_scriptOf_broken : ∃ x, scriptOf options broken = .error x := ⟨_, by cbv⟩

/-- Both documents of the example are found, in the order of their names. -/
theorem discover_pair : discover (pair [] []) job.root = .ok documents := by
  change Except.ok (Text.sort documents) = _
  rw [Text.sort, List.mergeSort_of_pairwise (by decide)]

/-- They are laid out as the theorem asks: their scripts are different files and are no documents.
-/
theorem layout_pair :
    Layout (pair [] []) (jobsOf job.builder (fun _ => job.instant) job.root documents) where
  outputs := by decide
  sources := by decide
  salts := by decide
  temporary := by decide
  backups := by decide
  caches j hj h hcache := by
    have hh : h = handle := by
      obtain ⟨source, -, rfl⟩ := List.mem_map.1 hj
      cases hcache
      rfl
    rw [hh]
    exact ⟨by decide, by decide⟩

/-- The names on the example's disk are ones that entries can have. -/
theorem named_pair (e : Files.Entry Content) (he : (pair [] []).find job.root = .ok e) : Named e := by
  cases he
  exact ⟨by decide, trivial, by decide, trivial, by decide, trivial, trivial⟩

/-- One after the other, the first document of the example is built and the second one is not, so
the call fails. -/
theorem buildDirectory_pair {x : Script.PassError} (hx : scriptOf options broken = .error x) :
    ∃ s', job.builder.buildDirectory job.instant false job.root ⟨pair [] [], []⟩ =
      .error (.malformed other.rel x) s' := by
  have hfirst : job.drive {} 7 .waiting ⟨pair [] [], []⟩ =
      .ok (.done text (job.result script false true))
        ⟨built, [.built (job.result script false true)]⟩ := by
    rw [Job.drive_add (m := 3) (n := 4) drive_job, Job.drive_ok (Job.next_of_script scriptOf_text)]
    exact drive_job_made
  have hsecond : other.drive {} 7 .waiting ⟨built, [.built (job.result script false true)]⟩ =
      .error (.malformed other.rel x) ⟨built, [.built (job.result script false true)]⟩ := by
    rw [Job.drive_add (m := 3) (n := 4) drive_other_behind]
    exact Job.drive_error (Job.next_of_no_script hx)
  have hall : job.builder.buildAll job.instant false job.root documents ⟨pair [] [], []⟩ =
      .error (.malformed other.rel x) ⟨built, [.built (job.result script false true)]⟩ :=
    Files.bind_eq_error.2 (.inr ⟨_, _, Job.buildOne_eq_ok hfirst,
      Files.bind_eq_error.2 (.inl (Files.bind_eq_error.2 (.inl (Job.buildOne_eq_error hsecond))))⟩)
  rw [Builder.buildDirectory_eq validate_job discover_pair, hall]
  exact ⟨_, rfl⟩

/-- The cache on the example's disk has no entries, and so none that could be wrong. -/
theorem entries_pair {hashed : List Text} : Cache.Entries (Correct hashed) (pair [] []) := by
  intro db hdb e he
  simp [pair, Disk.contents, Files.Entry.contents, Files.Entry.contentsOf] at hdb
  simp [hdb, Cache.Database.entries] at he

/-- The documents take turns; the second one fails before the script of the first one is made. -/
theorem run_pair {x : Script.PassError} (hx : scriptOf options broken = .error x) :
    Crew.Run begun (ended x) := by
  have hsteps (k : Nat) (w : Crew) (h : Crew.Run begun w) : Crew.Run begun (w.advance k {}) :=
    h.step (by simp)
  have hread := (Crew.drive_induction (hsteps 0) .refl (j := job) rfl 3).1 _ _ drive_job
  have hother := (Crew.drive_induction (hsteps 1) hread (j := other) rfl 3).1 _ _ drive_other
  have hfailed := (Crew.drive_induction (hsteps 1) hother (j := other) rfl 1).2 _ _
    (Job.drive_error (Job.next_of_no_script hx))
  have hmade := (Crew.drive_induction (hsteps 0) hfailed (j := job) rfl 1).1 _ _
    (Job.drive_ok (Job.next_of_script scriptOf_text))
  exact (Crew.drive_induction (hsteps 0) hmade (j := job) rfl 3).1 _ _ drive_job_made

/-- At the end of the example's run no document is left on its way. -/
theorem finished_ended (x : Script.PassError) : (ended x).Finished := by
  simp [ended, Crew.Finished]

/-- The document that failed in the example was malformed, and the disk has failed none. -/
theorem not_broken_ended (x : Script.PassError) : ¬ (ended x).Broken := by
  simp [ended, Crew.Broken, Failure.isOfDisk]

/-- Whatever is read for a document of the example is one of the texts that are known to have
different digests. -/
theorem asText_of_read_pair {source : Text} (hs : source ∈ documents) {content : Content}
    (hread : (pair [] []).read source = .ok content) :
    content.asText ∈ [text, broken, optionsRecord options] := by
  simp only [documents, List.mem_cons, List.not_mem_nil, or_false] at hs
  rcases hs with rfl | rfl
  · cases hread
    simp [Content.asText]
  · cases hread
    simp [Content.asText]

/-- A run in which one document is built and the other one is malformed. It returns an error and no
results, and what the cache holds is correct all the same. -/
theorem buildDirectory_any_order_of_pair :
    ∃ x, Crew.Run begun (ended x) ∧ (∃ e, (ended x).Returns (.error e)) ∧
      (∀ rs, ¬ (ended x).Returns (.ok rs)) ∧
      Cache.Entries (Correct [text, broken, optionsRecord options]) (ended x).disk := by
  obtain ⟨x, hx⟩ := exists_scriptOf_broken
  obtain ⟨s', hbuild⟩ := buildDirectory_pair hx
  have hall := buildDirectory_any_order validate_job discover_pair named_pair (by decide)
    (fun c hc => by cases hc) layout_pair layout_pair (run_pair hx) (finished_ended x)
    (not_broken_ended x) fun e s' he => by
      cases hbuild.symm.trans he
      rfl
  obtain ⟨herror, hok, -, -, hentries⟩ := hall.2 (Text.lit "b.md") (by simp [documents])
    (.text broken) x rfl hx _ noCollisions entries_pair (by simp [job])
    fun source hs content => asText_of_read_pair hs
  exact ⟨x, run_pair hx, herror, hok, hentries⟩

end Sample

end NovelScript.Build
