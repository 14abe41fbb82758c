import NovelScript.Build.Watch
import NovelScript.Proofs.Build.Output
import NovelScript.Proofs.Build.Schedule
import NovelScript.Proofs.Build.Sweep

/-!
# What a watch builds

A watch is told about changes, fires when it is armed, and may be called off. All of that comes in
any order, and the disk changes in between as others please, also while the watch fires.

* **`Vigil.Faithful`** ties the pending documents to what the watch was told since it last fired. It
  is kept by every step of a run: `Runs.faithful`.
* **`Fires.spec`** says that a firing gives each pending document one turn, in some order, and leaves
  none.
* **`watch_exact`** puts this together: nothing that changed is forgotten, nothing is built twice
  and nothing else is built; and where documents are apart, the order of a firing does not matter.
-/

namespace NovelScript.Build

open Files (Disk Proper placeOf slash)
open Files.Path (ofText)

/-! ## The machine -/

/-- Is there a directory at the path of an event? -/
def Event.onDirectory (d : Disk Content) (e : Event) : Bool :=
  (d.find e.path).toOption.any Files.Entry.isDirectory

/-- Does an event mean that a document changed? It was written or moved or it appeared, and it is
not a directory that appeared. -/
def Event.counts (e : Event) (directory : Bool) : Bool :=
  isSource e.path && (e.written || e.renamed || e.created) && !(e.created && directory)

/-- A watch at work. -/
structure Vigil where
  /-- The watch. -/
  watch : Watch
  /-- What it works on. -/
  site : Site
  /-- Was it called off? -/
  cancelled : Bool := false
  /-- Has it ended? -/
  ended : Bool := false

namespace Vigil

/-- Others change the disk. -/
def withDisk (v : Vigil) (d : Disk Content) : Vigil :=
  { v with site := { v.site with disk := d } }

/-- A pending document takes its turn and is no longer pending. -/
def take (v : Vigil) (j : Job) : Vigil :=
  { v with
    watch := { v.watch with pending := v.watch.pending.erase j.source }
    site := (j.turn v.cancelled v.site).2 }

/-- The turn that a document takes. -/
def turnOf (v : Vigil) (j : Job) : Turn :=
  ⟨j, v.cancelled, v.site, (j.turn v.cancelled v.site).1⟩

end Vigil

/-- The watch fires: pending documents take their turns, in any order, until none is left. In between
others may change the disk, and the work may be called off. -/
inductive Fires (b : Builder) : Vigil → List Turn → Vigil → Prop
  | done {v : Vigil} : v.watch.pending = [] → Fires b v [] v
  | outside {v v' : Vigil} {turns : List Turn} (d : Disk Content) :
      Fires b (v.withDisk d) turns v' → Fires b v turns v'
  | cancel {v v' : Vigil} {turns : List Turn} :
      Fires b { v with cancelled := true } turns v' → Fires b v turns v'
  | turn {v v' : Vigil} {turns : List Turn} (i : Instant) {source : Text} :
      source ∈ v.watch.pending → Fires b (v.take ⟨b, i, v.watch.root, source⟩) turns v' →
      Fires b v (v.turnOf ⟨b, i, v.watch.root, source⟩ :: turns) v'

/-- The watch fires, and the pending documents take their turns in an order with nothing in between. -/
def Vigil.inOrder (v : Vigil) (b : Builder) (clock : Text → Instant) (order : List Text) :
    List Turn × Vigil :=
  let (turns, site) := sweep v.cancelled (jobsOf b clock v.watch.root order) v.site
  (turns, { v with watch := { v.watch with pending := [] }, site })

/-- What happens to a watch. -/
inductive Happening where
  /-- It was told about an event, and there was a directory at its path or not. -/
  | noticed (e : Event) (directory : Bool)
  /-- It fired. -/
  | fired (turns : List Turn)

/-- The runs of a watch, with what happened in order. A watch that was called off may go on for a
while before it ends. Whether it is armed again after it fired is left open: something may have been
under way when it was armed for the last time. -/
inductive Runs (b : Builder) (v₀ : Vigil) : List Happening → Vigil → Prop
  | start : Runs b v₀ [] v₀
  | outside {log : List Happening} {v : Vigil} (d : Disk Content) :
      Runs b v₀ log v → Runs b v₀ log (v.withDisk d)
  | cancel {log : List Happening} {v : Vigil} :
      Runs b v₀ log v → Runs b v₀ log { v with cancelled := true }
  | stop {log : List Happening} {v : Vigil} :
      Runs b v₀ log v → v.cancelled = true → Runs b v₀ log { v with ended := true }
  | notice {log : List Happening} {v : Vigil} (e : Event) :
      Runs b v₀ log v → v.ended = false →
      Runs b v₀ (log ++ [.noticed e (e.onDirectory v.site.disk)])
        { v with watch := v.watch.notice v.site.disk e }
  | fire {log : List Happening} {v v' : Vigil} {turns : List Turn} (again : Bool) :
      Runs b v₀ log v → v.ended = false → v.watch.armed = true → Fires b v turns v' →
      Runs b v₀ (log ++ [.fired turns]) { v' with watch := { v'.watch with armed := again } }

/-- The events since the watch last fired. -/
def recent (log : List Happening) : List (Event × Bool) :=
  log.foldl (fun events h => match h with
    | .noticed e directory => events ++ [(e, directory)]
    | .fired _ => []) []

/-- The document at a path changed since the watch last fired. -/
def Changed (log : List Happening) (path : Text) : Prop :=
  ∃ x ∈ recent log, x.1.path = path ∧ x.1.counts x.2 = true

/-- The documents that turns reported about. -/
def reported (turns : List Turn) : List Text :=
  turns.filterMap fun t => t.outcome.map fun _ => t.job.source

/-! ## What an event does -/

section

variable {d : Disk Content} {w : Watch} {e : Event}

/-- An event makes the watch go into a directory when the directory was created just now and is
still there. -/
theorem isSome_newDirectory? : (e.newDirectory? d).isSome = (e.created && e.onDirectory d) := by
  rw [Event.newDirectory?, Event.onDirectory]
  cases e.created with
  | false => rfl
  | true =>
    cases (d.find e.path).toOption with
    | none => rfl
    | some entry => cases h : entry.isDirectory <;> simp [h]

/-- What an event does to what is pending, and that it does nothing else that matters when the watch
fires. -/
theorem notice_cases (d : Disk Content) (w : Watch) (e : Event) :
    (w.notice d e).root = w.root ∧
      if e.counts (e.onDirectory d) then
        (w.notice d e).pending = (w.await e.path).pending ∧ (w.notice d e).armed = true
      else (w.notice d e).pending = w.pending ∧ (w.notice d e).armed = w.armed := by
  have hnew := isSome_newDirectory? (d := d) (e := e)
  rw [Watch.notice]
  cases hdir : e.newDirectory? d with
  | some dir =>
    rw [hdir] at hnew
    have hcounts : e.counts (e.onDirectory d) = false := by
      rw [Event.counts, ← hnew]
      simp
    rw [hcounts]
    dsimp only
    split
    · exact ⟨rfl, rfl, rfl⟩
    · exact ⟨rfl, rfl, rfl⟩
  | none =>
    rw [hdir] at hnew
    have hcounts : e.counts (e.onDirectory d) = (e.isChange && isSource e.path) := by
      rw [Event.counts, ← hnew, Event.isChange]
      cases e.created <;> cases e.written <;> cases e.renamed <;> cases isSource e.path <;> rfl
    rw [hcounts]
    dsimp only
    split
    · exact ⟨rfl, rfl, rfl⟩
    · exact ⟨rfl, rfl, rfl⟩

/-- Waiting for a document adds it to those that were waited for before. -/
theorem mem_await {source p : Text} : p ∈ (w.await source).pending ↔ p ∈ w.pending ∨ p = source := by
  rw [Watch.await]
  dsimp only
  split
  · rename_i hmem
    have hmem : source ∈ w.pending := by simpa using hmem
    exact ⟨.inl, fun h => h.elim id fun heq => heq ▸ hmem⟩
  · rw [List.mem_append, List.mem_singleton]

/-- A document that waits already is not added a second time, however many events are about it. -/
theorem nodup_await {source : Text} (h : w.pending.Nodup) : (w.await source).pending.Nodup := by
  rw [Watch.await]
  dsimp only
  split
  · exact h
  · rename_i hmem
    have hmem : source ∉ w.pending := by simpa using hmem
    refine List.nodup_append.2 ⟨h, by simp, fun p hp q hq heq => hmem ?_⟩
    rw [← List.mem_singleton.1 hq, ← heq]
    exact hp

/-- Other paths than those of documents, directories that appear and events that change nothing do
not count. -/
theorem counts_eq_false (h : isSource e.path = false ∨ (e.newDirectory? d).isSome = true ∨
    e.isChange = false) : e.counts (e.onDirectory d) = false := by
  rw [isSome_newDirectory?] at h
  rw [Event.counts]
  rcases h with h | h | h
  · rw [h]
    rfl
  · rw [h]
    simp
  · rw [Event.isChange] at h
    simp only [Bool.or_eq_false_iff] at h
    simp [h.1.1, h.1.2, h.2]

end

/-! ## What a firing does -/

section

variable {b : Builder} {v v' : Vigil} {turns : List Turn}

/-- A turn reports exactly when the document is there, and then what came of its build. -/
theorem Job.turn_cases (j : Job) (cancelled : Bool) (s : Site) :
    (s.disk.isThere j.source = false → (j.turn cancelled s).1 = none) ∧
      (s.disk.isThere j.source = true → ∃ r s',
        attempt (j.builder.buildOne j.instant cancelled j.root j.source) s = .ok r s' ∧
          (j.turn cancelled s).1 = some r) := by
  rw [turn, attempt]
  refine ⟨fun h => by rw [h]; rfl, fun h => ?_⟩
  rw [if_pos h]
  cases j.builder.buildOne j.instant cancelled j.root j.source s with
  | ok r s' => exact ⟨.ok r, s', rfl, rfl⟩
  | error e s' => exact ⟨.error e, s', rfl, rfl⟩

/-- Each pending document has one turn, and none is pending afterwards. The order of the turns is
left open, as the documents are kept in a map. -/
theorem Fires.spec (h : Fires b v turns v') :
    v'.watch.pending = [] ∧ v'.watch.root = v.watch.root ∧
      (turns.map (·.job.source)).Perm v.watch.pending ∧
      ∀ t ∈ turns, t.job.builder = b ∧ t.job.root = v.watch.root ∧
        t.outcome = (t.job.turn t.cancelled t.before).1 := by
  induction h with
  | done hnone => exact ⟨hnone, rfl, by rw [hnone]; exact .refl _, fun t ht => (nomatch ht)⟩
  | outside d _ ih => exact ih
  | cancel _ ih => exact ih
  | @turn v v' turns i source hmem _ ih =>
    obtain ⟨hnone, hroot, hperm, hturns⟩ := ih
    refine ⟨hnone, hroot, ?_, fun t ht => ?_⟩
    · rw [List.map_cons]
      exact (List.Perm.cons source hperm).trans (List.perm_cons_erase hmem).symm
    · rcases List.mem_cons.1 ht with rfl | ht
      · exact ⟨rfl, rfl, rfl⟩
      · exact hturns t ht

/-- What is reported is what came of a build. -/
theorem Fires.report (h : Fires b v turns v') {t : Turn} (ht : t ∈ turns) {r : Report}
    (hr : t.outcome = some r) : ∃ s',
      attempt (b.buildOne t.job.instant t.cancelled v.watch.root t.job.source) t.before = .ok r s' := by
  obtain ⟨hbuilder, hroot, houtcome⟩ := h.spec.2.2.2 t ht
  obtain ⟨hgone, hthere⟩ := t.job.turn_cases t.cancelled t.before
  rw [houtcome] at hr
  cases hd : t.before.disk.isThere t.job.source with
  | false => cases (hgone hd).symm.trans hr
  | true =>
    obtain ⟨r', s', hbuild, hr'⟩ := hthere hd
    cases hr'.symm.trans hr
    rw [hbuilder, hroot] at hbuild
    exact ⟨s', hbuild⟩

/-- Those documents are reported that are there when their turn comes. One that is gone by then is
passed over without a word. -/
theorem Fires.mem_reported (h : Fires b v turns v') (p : Text) :
    p ∈ reported turns ↔ ∃ t ∈ turns, t.job.source = p ∧ t.before.disk.isThere p = true := by
  rw [reported, List.mem_filterMap]
  refine exists_congr fun t => and_congr_right fun ht => ?_
  obtain ⟨-, -, houtcome⟩ := h.spec.2.2.2 t ht
  obtain ⟨hgone, hthere⟩ := t.job.turn_cases t.cancelled t.before
  rw [houtcome]
  constructor
  · intro hmap
    obtain ⟨r, hr, rfl⟩ := Option.map_eq_some_iff.1 hmap
    refine ⟨rfl, ?_⟩
    by_cases hd : t.before.disk.isThere t.job.source = true
    · exact hd
    · cases (hgone (by simpa using hd)).symm.trans hr
  · rintro ⟨rfl, hd⟩
    obtain ⟨r, -, -, hr⟩ := hthere hd
    rw [hr]
    rfl

/-- Whatever is told about turns is about documents that had one. -/
theorem reported_sublist (turns : List Turn) : (reported turns).Sublist (turns.map (·.job.source)) := by
  induction turns with
  | nil => exact .refl _
  | cons t more ih =>
    rw [reported, List.filterMap_cons, List.map_cons]
    cases t.outcome with
    | none => exact .cons _ ih
    | some r => exact .cons_cons _ ih

/-- In every order, the pending documents can take their turns one right after the other. -/
theorem fires_inOrder (clock : Text → Instant) {order : List Text} (h : order.Perm v.watch.pending) :
    Fires b v (v.inOrder b clock order).1 (v.inOrder b clock order).2 := by
  induction order generalizing v with
  | nil =>
    have hnone : v.watch.pending = [] := h.symm.eq_nil
    have hsame : ({ v.watch with pending := [] } : Watch) = v.watch := by rw [← hnone]
    change Fires b v [] { v with watch := { v.watch with pending := [] } }
    rw [hsame]
    exact .done hnone
  | cons source more ih =>
    have hmem : source ∈ v.watch.pending := h.subset List.mem_cons_self
    have hmore : more.Perm (v.watch.pending.erase source) :=
      (h.trans (List.perm_cons_erase hmem)).cons_inv
    exact .turn (clock source) hmem (ih (v := v.take ⟨b, clock source, v.watch.root, source⟩) hmore)

/-- What a builder does when it fires is a firing in the order of the first changes. -/
theorem fire_eq_inOrder (b : Builder) (i : Instant) (hcalm : v.cancelled = false) :
    b.fire i v.watch v.site =
      .ok ({ v.watch with pending := [], armed := false },
        (v.inOrder b (fun _ => i) v.watch.pending).1.filterMap (·.outcome))
      (v.inOrder b (fun _ => i) v.watch.pending).2.site := by
  rw [Vigil.inOrder, hcalm]
  exact Files.bind_eq_ok.2 ⟨_, _, b.rebuild_eq_sweep i _ _ _, rfl⟩

end

/-! ## What a run does -/

section

variable {b : Builder} {v₀ v : Vigil} {log : List Happening}

/-- One more event adds itself to what was noticed since the last firing. -/
theorem recent_noticed (log : List Happening) (e : Event) (directory : Bool) :
    recent (log ++ [.noticed e directory]) = recent log ++ [(e, directory)] := by
  rw [recent, List.foldl_append]
  rfl

/-- A firing starts over: nothing was noticed since. -/
theorem recent_fired (log : List Happening) (turns : List Turn) :
    recent (log ++ [.fired turns]) = [] := by
  rw [recent, List.foldl_append]
  rfl

/-- The pending documents are those that changed since the watch last fired, each of them once, and
where there are any, the watch will fire. -/
structure Vigil.Faithful (root : Text) (log : List Happening) (v : Vigil) : Prop where
  root_eq : v.watch.root = root
  armed : v.watch.pending ≠ [] → v.watch.armed = true
  nodup : v.watch.pending.Nodup
  pending : ∀ p, p ∈ v.watch.pending ↔ Changed log p

/-- **One event** keeps the watch faithful: a document waits exactly when an event since the last
firing was about it. -/
theorem Vigil.Faithful.notice {root : Text} (h : v.Faithful root log) (e : Event) :
    { v with watch := v.watch.notice v.site.disk e }.Faithful root
      (log ++ [Happening.noticed e (e.onDirectory v.site.disk)]) := by
  obtain ⟨hroot, hcases⟩ := notice_cases v.site.disk v.watch e
  have hchanged (p : Text) : Changed (log ++ [.noticed e (e.onDirectory v.site.disk)]) p ↔
      Changed log p ∨ e.path = p ∧ e.counts (e.onDirectory v.site.disk) = true := by
    simp only [Changed, recent_noticed, List.mem_append, List.mem_singleton, or_and_right, exists_or,
      exists_eq_left]
  split at hcases
  · rename_i hcounts
    obtain ⟨hpending, harmed⟩ := hcases
    refine ⟨hroot.trans h.root_eq, fun _ => harmed, ?_, fun p => ?_⟩
    · dsimp only
      rw [hpending]
      exact nodup_await h.nodup
    · dsimp only
      rw [hpending, mem_await, hchanged, h.pending]
      exact or_congr_right ⟨fun heq => ⟨heq.symm, hcounts⟩, fun heq => heq.1.symm⟩
  · rename_i hcounts
    obtain ⟨hpending, harmed⟩ := hcases
    refine ⟨hroot.trans h.root_eq, fun hne => ?_, ?_, fun p => ?_⟩
    · dsimp only at hne ⊢
      rw [hpending] at hne
      rw [harmed]
      exact h.armed hne
    · dsimp only
      rw [hpending]
      exact h.nodup
    · dsimp only
      rw [hpending, hchanged, h.pending]
      exact ⟨.inl, fun hp => hp.elim id fun hp => absurd hp.2 hcounts⟩

/-- Every run keeps the pending documents in step with what happened. The induction is on the run,
with `notice` and `fired` as its two steps. -/
theorem Runs.faithful {root : Text} (h : Runs b v₀ log v) (h₀ : v₀.Faithful root []) :
    v.Faithful root log := by
  induction h with
  | start => exact h₀
  | outside d _ ih => exact ⟨ih.root_eq, ih.armed, ih.nodup, ih.pending⟩
  | cancel _ ih => exact ⟨ih.root_eq, ih.armed, ih.nodup, ih.pending⟩
  | stop _ _ ih => exact ⟨ih.root_eq, ih.armed, ih.nodup, ih.pending⟩
  | notice e _ _ ih => exact ih.notice e
  | fire again _ _ _ hfires ih =>
    obtain ⟨hnone, hroot, -⟩ := hfires.spec
    refine ⟨hroot.trans ih.root_eq, fun hne => absurd hnone hne, ?_, fun p => ?_⟩
    · dsimp only
      rw [hnone]
      exact List.nodup_nil
    · dsimp only
      rw [hnone, Changed, recent_fired]
      simp

/-- At first nothing is pending. -/
theorem faithful_watch {root : Text} {s₀ s : Site} {w : Watch} (h : b.watch root s₀ = .ok w s) :
    Vigil.Faithful root [] ⟨w, s, false, false⟩ := by
  obtain ⟨-, s₁, -, h⟩ := Files.bind_eq_ok.1 h
  obtain ⟨s₂, s₃, -, h⟩ := Files.bind_eq_ok.1 h
  cases hdirs : directories s₂.disk root with
  | error e =>
    rw [hdirs] at h
    cases h
  | ok dirs =>
    rw [hdirs] at h
    obtain ⟨-, s₄, -, h⟩ := Files.bind_eq_ok.1 h
    cases h
    refine ⟨rfl, fun hne => absurd rfl hne, List.nodup_nil, fun p => ?_⟩
    simp [Changed, recent, Watch.enrol]

/-- A change is one of a document. -/
theorem Changed.isSource {p : Text} (h : Changed log p) : isSource p = true := by
  obtain ⟨x, -, rfl, hcounts⟩ := h
  rw [Event.counts, Bool.and_eq_true, Bool.and_eq_true] at hcounts
  exact hcounts.1.1

end

/-! ## Documents that a watch is told about -/

/-- A directory that is the root or below it, by its clean path. -/
def Within (root dir : Text) (above : List Text) : Prop :=
  (∀ name ∈ above, Proper name) ∧
    ofText dir = ⟨(ofText root).rooted, (ofText root).names ++ above⟩ ∧ Files.clean dir = dir

/-- The path of something in a directory that is the root or below it, as a watch is told about it. -/
def Told (root path : Text) : Prop :=
  ∃ dir above name, Within root dir above ∧ Proper name ∧ path = dir ++ slash :: name

section

variable {t : Target} {root dir path name : Text} {above : List Text}

/-- The path of an entry in a watched directory, as names: those of the root, those of the directory
below it, and its own. -/
theorem Within.ofText_eq (h : Within root dir above) (hname : Proper name) :
    ofText (dir ++ slash :: name) =
      ⟨(ofText root).rooted, (ofText root).names ++ (above ++ [name])⟩ := by
  obtain ⟨-, hdir, hclean⟩ := h
  have hne : dir ≠ [] := by
    rw [← hclean]
    exact Files.clean_ne_nil dir
  rw [Files.ofText_append_cons hne, Text.splitAt_of_not_mem hname.2.1, List.foldl_cons,
    List.foldl_nil, Files.Path.push_of_proper hname, hdir]
  simp

/-- Such an entry is seen from the root under the names that stand below it. -/
theorem Within.relative? (h : Within root dir above) (hname : Proper name) :
    Files.relative? root (dir ++ slash :: name) = some (Files.Path.joined (above ++ [name])) :=
  Files.relative?_below (by simp) (h.ofText_eq hname)

/-- What is told about is spelled without going up in the middle. -/
theorem Told.isDirect (h : Told root path) : Files.isDirect path = true := by
  obtain ⟨dir, above, name, ⟨-, -, hclean⟩, hname, rfl⟩ := h
  rw [Files.isDirect_append hname, ← hclean]
  exact Files.isDirect_clean dir

/-- The documents that a watch is told about are told apart by how they are seen from the root,
which is what the cache knows them by. -/
theorem Told.eq_of_relative? {path' : Text} (h : Told root path) (h' : Told root path')
    (hrel : Files.relative? root path = Files.relative? root path') : path = path' := by
  obtain ⟨dir, above, name, hdir, hname, rfl⟩ := h
  obtain ⟨dir', above', name', hdir', hname', rfl⟩ := h'
  rw [hdir.relative? hname, hdir'.relative? hname', Option.some_inj] at hrel
  have hproper {above : List Text} {name : Text} (habove : ∀ n ∈ above, Proper n)
      (hname : Proper name) : ∀ n ∈ above ++ [name], slash ∉ n := by
    intro n hn
    rcases List.mem_append.1 hn with hn | hn
    · exact (habove n hn).2.1
    · rw [List.mem_singleton.1 hn]
      exact hname.2.1
  have hnames := congrArg (Text.splitAt slash) hrel
  rw [Files.Path.joined, Files.Path.joined, Text.splitAt_join (by simp) (hproper hdir.1 hname),
    Text.splitAt_join (by simp) (hproper hdir'.1 hname')] at hnames
  obtain ⟨habove, hlast⟩ := List.append_inj' hnames rfl
  rw [← hdir.2.2, ← hdir'.2.2, Files.clean, Files.clean, hdir.2.1, hdir'.2.1, habove,
    List.singleton_inj.1 hlast]

/-- A path below a root ends in a name that an entry can have. -/
theorem Below.leaf {names : List Text} (h : Below root path names) : Files.Leaf path := by
  obtain ⟨above, hnames, -⟩ := h.rename
  refine ⟨?_, h.2.1 _ (by simp [hnames])⟩
  rw [← h.2.2.2]
  exact Files.isDirect_clean path

/-- The scripts of documents that the watch is told about end in a name, so they can be replaced.
The name is that of the document with the extension of scripts. -/
theorem Told.leaf_path? (h : Told root path) (hs : isSource path = true)
    (hext : slash ∉ t.extension) : ∃ output, t.path? root path = some output ∧ Files.Leaf output := by
  obtain ⟨front, hfront, hproper⟩ := exists_front hs
  have hnew := hproper _ hext
  have hdirect := h.isDirect
  obtain ⟨dir, above, name, hdir, hname, rfl⟩ := h
  have hsplit : Files.splitLast (dir ++ slash :: name) = (dir ++ [slash], name) := by
    have := Files.splitLast_lead (.inr ⟨dir, rfl⟩) hname.2.1
    rwa [List.append_assoc] at this
  rw [hsplit] at hfront
  rw [Target.path?]
  split
  · refine ⟨_, rfl, ?_⟩
    have hstem : Files.stem (dir ++ slash :: name) = dir ++ [slash] ++ front := by
      rw [stem_eq (by rw [hsplit]; exact hfront), hsplit]
    rw [Target.renamed, hstem, List.append_assoc]
    refine ⟨?_, ?_⟩
    · rw [Files.isDirect_append hname] at hdirect
      rw [List.append_assoc, List.singleton_append, Files.isDirect_append hnew]
      exact hdirect
    · rw [Files.splitLast_lead (.inr ⟨dir, rfl⟩) hnew.2.1]
      exact hnew
  · rename_i hout
    have hnames : above ++ [name] = above ++ [front ++ Files.extension (dir ++ slash :: name)] := by
      rw [← hfront]
    have hall : ∀ n ∈ above ++ [name], Proper n := by
      simpa [or_imp, forall_and, hname] using hdir.1
    rw [hdir.relative? hname]
    refine ⟨_, rfl, ((below_renamed_joined ?_ hnames hall hnew).join (by simpa using hout)).leaf⟩
    rw [hsplit]
    exact hfront

end

section

variable {b : Builder} {clock : Text → Instant} {root : Text} {home : List Text}
  {pending : List Text}

/-- Documents that a watch is told about make a scheme when they are apart. What a scheme asks of
each document follows from how the watch spells paths. -/
theorem scheme_of_told (hext : slash ∉ b.target.extension)
    (hsource : ∀ p ∈ pending, isSource p = true) (htold : ∀ p ∈ pending, Told root p)
    (hapart : Apart home (jobsOf b clock root pending)) :
    Scheme home b (jobsOf b clock root pending) where
  toApart := hapart
  builder j hj := by
    obtain ⟨p, -, rfl⟩ := List.mem_map.1 hj
    rfl
  leaf j hj := by
    obtain ⟨p, hp, rfl⟩ := List.mem_map.1 hj
    obtain ⟨output, hpath, hleaf⟩ := (htold p hp).leaf_path? (hsource p hp) hext
    rw [Job.output, hpath]
    exact hleaf
  direct j hj := by
    obtain ⟨p, hp, rfl⟩ := List.mem_map.1 hj
    exact (htold p hp).isDirect
  rels j hj j' hj' hrel := by
    obtain ⟨p, hp, rfl⟩ := List.mem_map.1 hj
    obtain ⟨p', hp', rfl⟩ := List.mem_map.1 hj'
    have hsame {p : Text} (hp : Told root p) :
        Files.relative? root p = some ((Files.relative? root p).getD (Files.base p)) := by
      obtain ⟨dir, above, name, hdir, hname, rfl⟩ := hp
      rw [hdir.relative? hname]
      rfl
    have : Files.relative? root p = Files.relative? root p' := by
      rw [hsame (htold p hp), hsame (htold p' hp')]
      exact congrArg some hrel
    rw [(htold p hp).eq_of_relative? (htold p' hp') this]

/-- Documents that wait are different, and so are the builds of them. -/
theorem nodup_jobsOf (h : pending.Nodup) : (jobsOf b clock root pending).Nodup := by
  rw [jobsOf, List.Nodup, List.pairwise_map]
  exact h.imp fun hne heq => hne (congrArg Job.source heq)

end

/-! ## All of it -/

/-- A watch loses no change and repeats none, in every run. What is pending will be built, for the
watch is armed. Events about other paths, new directories and other events change nothing of that. A
firing gives one turn to each document that changed since the last one; those that are there are
built and reported, once each, and nothing is pending any longer. Every order of turns is possible;
`Builder.fire` takes that of the first changes. Where the pending documents are apart, the order
shows neither in the files nor in the cache. -/
theorem watch_exact {b : Builder} {root : Text} {s₀ s : Site} {w : Watch}
    (hwatch : b.watch root s₀ = .ok w s) {log : List Happening} {v : Vigil}
    (hrun : Runs b ⟨w, s, false, false⟩ log v) :
    (v.watch.pending ≠ [] → v.watch.armed = true) ∧
    (∀ e : Event, isSource e.path = false ∨ (e.newDirectory? v.site.disk).isSome = true ∨
        e.isChange = false →
      (v.watch.notice v.site.disk e).pending = v.watch.pending ∧
        (v.watch.notice v.site.disk e).armed = v.watch.armed) ∧
    (∀ turns v', Fires b v turns v' →
      v'.watch.pending = [] ∧ (reported turns).Nodup ∧
        (∀ p, (∃ t ∈ turns, t.job.source = p) ↔ Changed log p) ∧
        (∀ p, p ∈ reported turns ↔
          Changed log p ∧ ∃ t ∈ turns, t.job.source = p ∧ t.before.disk.isThere p = true) ∧
        ∀ t ∈ turns, ∀ r, t.outcome = some r → ∃ s',
          attempt (b.buildOne t.job.instant t.cancelled root t.job.source) t.before = .ok r s') ∧
    (∀ (clock : Text → Instant) (order : List Text), order.Perm v.watch.pending →
      Fires b v (v.inOrder b clock order).1 (v.inOrder b clock order).2) ∧
    (∀ i : Instant, v.cancelled = false → b.fire i v.watch v.site =
      .ok ({ v.watch with pending := [], armed := false },
          (v.inOrder b (fun _ => i) v.watch.pending).1.filterMap (·.outcome))
        (v.inOrder b (fun _ => i) v.watch.pending).2.site) ∧
    (∀ clock : Text → Instant, slash ∉ b.target.extension →
      v.site.disk.look v.site.disk.home = some none → (∀ p ∈ v.watch.pending, Told root p) →
      Apart v.site.disk.home (jobsOf b clock root v.watch.pending) →
      ∀ order order' : List Text, order.Perm v.watch.pending → order'.Perm v.watch.pending →
        b.Same v.site.disk.home (v.inOrder b clock order).2.site.disk
          (v.inOrder b clock order').2.site.disk) := by
  -- all parts are read off the invariant of the run
  have h := hrun.faithful (faithful_watch hwatch)
  refine ⟨h.armed, fun e he => ?_, fun turns v' hfires => ?_, fun clock order => fires_inOrder clock,
    fun i => fire_eq_inOrder b i, fun clock hext hlook htold hapart order order' horder horder' => ?_⟩
  · have hcases := (notice_cases v.site.disk v.watch e).2
    rwa [if_neg (by rw [counts_eq_false he]; simp)] at hcases
  · obtain ⟨hnone, -, hperm, hturns⟩ := hfires.spec
    -- the turns are those that wait, in some order, and these are the changed ones
    have hmem (p : Text) : (∃ t ∈ turns, t.job.source = p) ↔ Changed log p := by
      rw [← h.pending, ← hperm.mem_iff, List.mem_map]
    refine ⟨hnone, (hperm.nodup_iff.2 h.nodup).sublist (reported_sublist turns), hmem, fun p => ?_,
      fun t ht r hr => ?_⟩
    · rw [hfires.mem_reported, ← hmem]
      exact ⟨fun ⟨t, ht, hsource, hthere⟩ => ⟨⟨t, ht, hsource⟩, t, ht, hsource, hthere⟩, And.right⟩
    · rw [← h.root_eq]
      exact hfires.report ht hr
  · have hsource (p : Text) (hp : p ∈ v.watch.pending) : isSource p = true :=
      ((h.pending p).1 hp).isSource
    -- any two orders are sweeps over one scheme
    have hscheme := scheme_of_told hext hsource htold hapart
    have hsame := hscheme.sweep_perm (nodup_jobsOf h.nodup) (horder.map _) (horder'.map _) rfl hlook
      v.cancelled
    rw [Vigil.inOrder, Vigil.inOrder, h.root_eq]
    exact hsame

namespace Sample

/-- The changed documents, as a watch of the working directory is told about them. -/
def changes : List Text := [Text.lit "./a.md", Text.lit "./b.md"]

/-- A watch of the disk with two documents, where nothing has happened yet. -/
def vigil : Vigil where
  watch := { root := job.root, directories := [job.root] }
  site := ⟨pair [] [], [.watching job.root]⟩

/-- The same watch when the first document was written and the second one has appeared. -/
def awaiting : Vigil :=
  { vigil with watch := { vigil.watch with pending := changes, armed := true } }

/-- The example has a root with two documents, and watching it begins without trouble. -/
theorem watch_pair : job.builder.watch job.root ⟨pair [] [], []⟩ = .ok vigil.watch vigil.site := by
  refine Files.bind_eq_ok.2 ⟨(), ⟨pair [] [], []⟩, ?_, rfl⟩
  rw [Builder.check, validate_job]
  rfl

/-- An event of each document is noticed, and both wait. -/
theorem runs_awaiting : Runs job.builder vigil
    [.noticed { path := Text.lit "./a.md", written := true } false,
      .noticed { path := Text.lit "./b.md", created := true } false] awaiting :=
  (Runs.start.notice { path := Text.lit "./a.md", written := true } rfl).notice
    { path := Text.lit "./b.md", created := true } rfl

/-- The two documents of the example have scripts of their own, so the theorem can be applied to
them. -/
theorem apart_changes : Apart [] (jobsOf job.builder (fun _ => job.instant) job.root changes) where
  moments := by decide
  writes j hj j' hj' p hp q hq hpq := by
    obtain ⟨x, hx, rfl⟩ := List.mem_map.1 hj
    obtain ⟨y, hy, rfl⟩ := List.mem_map.1 hj'
    have hall : ∀ x ∈ changes, ∀ y ∈ changes,
        ∀ p ∈ Job.writes ⟨job.builder, job.instant, job.root, x⟩ [],
        ∀ q ∈ Job.writes ⟨job.builder, job.instant, job.root, y⟩ [], p <+: q → x = y ∧ p = q := by
      decide
    obtain ⟨rfl, hpq⟩ := hall x hx y hy p hp q hq hpq
    exact ⟨rfl, hpq⟩
  working := by decide
  sources := by decide
  caches j hj h hcache := by
    have hh : h = handle := by
      obtain ⟨source, -, rfl⟩ := List.mem_map.1 hj
      cases hcache
      rfl
    rw [hh]
    clear hcache hh h
    revert j
    decide

/-- Both were told about. -/
theorem told_changes : ∀ p ∈ changes, Told job.root p := by
  intro p hp
  have hroot : Within job.root job.root [] := ⟨by simp, rfl, rfl⟩
  simp only [changes, List.mem_cons, List.not_mem_nil, or_false] at hp
  rcases hp with rfl | rfl
  · exact ⟨job.root, [], Text.lit "a.md", hroot, by decide, rfl⟩
  · exact ⟨job.root, [], Text.lit "b.md", hroot, by decide, rfl⟩

/-- Two documents changed: both have their turn when the watch fires, and it does not matter which
of them comes first, though one of them cannot be built. -/
theorem watch_exact_of_pair :
    job.builder.watch job.root ⟨pair [] [], []⟩ = .ok vigil.watch vigil.site ∧
      (∃ log, Runs job.builder vigil log awaiting) ∧ awaiting.watch.armed = true ∧
      (∀ turns v', Fires job.builder awaiting turns v' →
        v'.watch.pending = [] ∧ ∀ p ∈ changes, ∃ t ∈ turns, t.job.source = p) ∧
      job.builder.Same [] (awaiting.inOrder job.builder (fun _ => job.instant) changes).2.site.disk
        (awaiting.inOrder job.builder (fun _ => job.instant) changes.reverse).2.site.disk := by
  obtain ⟨harmed, -, hfires, -, -, horder⟩ := watch_exact watch_pair runs_awaiting
  refine ⟨watch_pair, ⟨_, runs_awaiting⟩, harmed (by decide),
    fun turns v' h => ⟨(hfires turns v' h).1, fun p hp => ?_⟩, ?_⟩
  · refine ((hfires turns v' h).2.2.1 p).2 ?_
    simp only [changes, List.mem_cons, List.not_mem_nil, or_false] at hp
    rcases hp with rfl | rfl
    · exact ⟨_, List.mem_cons_self, rfl, by decide⟩
    · exact ⟨_, List.mem_cons_of_mem _ List.mem_cons_self, rfl, by decide⟩
  · exact horder (fun _ => job.instant) (by decide) rfl told_changes apart_changes _ _ (.refl _)
      (List.reverse_perm _)

end Sample

end NovelScript.Build
