import NovelScript.Build.Builder
import NovelScript.Proofs.Files.Disk

/-!
# Documents built side by side

A crew works on documents at the same time. What one document needs is cut into steps that touch the
disk at most once each: the work may be called off, the document is read, the cache is asked, the
script is made, the cache keeps it, the file of the script is compared and then replaced. A step of
any document may come between two steps of another one.

* **`Job.Moves`** lists what a step can do, and **`advance_moves`** says that it can do nothing else.
* **`drive_buildOne`** says that the steps of one document, one after the other, are `buildOne`.
* **`drive_induction`** and **`buildAll_induction`** say that what every step keeps is kept by a
  document on its own and by documents one after the other: both are ways for a crew to work.
-/

namespace NovelScript.Build

open Files (Disk)

/-! ## Steps -/

/-- A document that is to be built: by whom, when and below which root. -/
structure Job where
  /-- What is the same for all documents of a build. -/
  builder : Builder
  /-- When it is built. -/
  instant : Instant
  /-- The root. -/
  root : Text
  /-- The document. -/
  source : Text

/-- How far a document is. -/
inductive Phase where
  /-- Nothing has happened. -/
  | waiting
  /-- It is going to be built. -/
  | admitted
  /-- Its text was read. -/
  | read (text : Text)
  /-- The cache has no script of it. -/
  | missed (text : Text)
  /-- The script was made. -/
  | made (text script : Text)
  /-- The script is known. -/
  | ready (text script : Text) (cached : Bool)
  /-- The file of the script holds something else. -/
  | differing (text script : Text) (cached : Bool)
  /-- It is built. -/
  | done (text : Text) (r : Result)
  /-- It cannot be built. -/
  | failed (e : Failure)

/-- What a step meets that is not on the disk. -/
structure Conditions where
  /-- Was the work called off? -/
  cancelled : Bool := false
  /-- What the cache says when it refuses. -/
  trouble : Option Cache.Failure := none

namespace Job

/-- The document as seen from the root. -/
def rel (j : Job) : Text :=
  (Files.relative? j.root j.source).getD (Files.base j.source)

/-- The file of the script. -/
def output (j : Job) : Text :=
  (j.builder.target.path? j.root j.source).getD []

/-- The entry of the cache for a script. -/
def entry (j : Job) (text script : Text) : Cache.Entry where
  path := j.rel
  source := sourceFingerprint text
  options := optionsFingerprint j.builder.options
  output := script
  run := j.builder.run
  builtAt := j.instant.now / Cache.second

/-- What is told about the document when it is built. -/
def result (j : Job) (script : Text) (cached written : Bool) : Result :=
  { source := j.source, rel := j.rel, output := j.output, cached, written, size := script.length }

/-- Asks the cache, unless it refuses. -/
def lookUp (j : Job) (c : Conditions) (text : Text) : Building (Option Text) :=
  match j.builder.cache, c.trouble with
  | some _, some e => do
    tell (.unfound j.source e)
    return none
  | _, _ => j.builder.lookUp j.source j.rel text

/-- Gives the script to the cache, unless it refuses. -/
def keep (j : Job) (c : Conditions) (text script : Text) : Building Unit :=
  match j.builder.cache, c.trouble with
  | some _, some e => tell (.unkept j.source e)
  | _, _ => j.builder.keep j.instant j.source j.rel text script

/-- Does the file of the script hold it already? -/
def isThere (j : Job) (script : Text) (d : Disk Content) : Bool :=
  match d.read j.output with
  | .ok c => c.asText == script
  | .error _ => false

/-- Tells that the document is built. -/
def finish (j : Job) (text script : Text) (cached written : Bool) : Building Phase := do
  tell (.built (j.result script cached written))
  return .done text (j.result script cached written)

/-- The next step. -/
def next (j : Job) (c : Conditions) : Phase → Building Phase
  | .waiting =>
    if c.cancelled then throw .cancelled
    else match j.builder.target.path? j.root j.source with
      | none => throw (.unrelated j.root j.source)
      | some _ => return .admitted
  | .admitted => do
    let text ← readSource j.source
    return .read text
  | .read text => do
    match ← j.lookUp c text with
    | some script => return .ready text script true
    | none => return .missed text
  | .missed text =>
    match scriptOf j.builder.options text with
    | .error e => throw (.malformed j.rel e)
    | .ok script => return .made text script
  | .made text script => do
    j.keep c text script
    return .ready text script false
  | .ready text script cached => do
    if j.isThere script (← get).disk then j.finish text script cached false
    else return .differing text script cached
  | .differing text script cached => do
    onDisk (.unwritten j.output)
      (Files.writeAtomic Content.empty j.instant.moment j.builder.backup j.output (.text script))
    j.finish text script cached true
  | .done text r => return .done text r
  | .failed e => return .failed e

/-- What a step can do. -/
inductive Moves (j : Job) (c : Conditions) : Phase → Disk Content → Phase → Disk Content → Prop
  | cancel {d} : c.cancelled = true → Moves j c .waiting d (.failed .cancelled) d
  | refuse {d} : j.builder.target.path? j.root j.source = none →
      Moves j c .waiting d (.failed (.unrelated j.root j.source)) d
  | accept {d} : c.cancelled = false → Moves j c .waiting d .admitted d
  | unread {d e} : d.read j.source = .error e →
      Moves j c .admitted d (.failed (.unread j.source e)) d
  | read {d content} : d.read j.source = .ok content →
      Moves j c .admitted d (.read content.asText) d
  | hit {d h text script} : j.builder.cache = some h →
      h.lookup false j.rel (sourceFingerprint text) (optionsFingerprint j.builder.options) d =
        .ok (some script) →
      Moves j c (.read text) d (.ready text script true) d
  | miss {d text} :
      (∀ h script, j.builder.cache = some h → c.trouble = none →
        h.lookup false j.rel (sourceFingerprint text) (optionsFingerprint j.builder.options) d ≠
          .ok (some script)) →
      Moves j c (.read text) d (.missed text) d
  | malformed {d text e} : scriptOf j.builder.options text = .error e →
      Moves j c (.missed text) d (.failed (.malformed j.rel e)) d
  | make {d text script} : scriptOf j.builder.options text = .ok script →
      Moves j c (.missed text) d (.made text script) d
  | keep {d d' h text script} : j.builder.cache = some h →
      h.store false (j.entry text script) d = .ok d' →
      Moves j c (.made text script) d (.ready text script false) d'
  | forgo {d text script} :
      (∀ h d', j.builder.cache = some h → c.trouble = none →
        h.store false (j.entry text script) d ≠ .ok d') →
      Moves j c (.made text script) d (.ready text script false) d
  | same {d text script cached} : j.isThere script d = true →
      Moves j c (.ready text script cached) d (.done text (j.result script cached false)) d
  | differ {d text script cached} : j.isThere script d = false →
      Moves j c (.ready text script cached) d (.differing text script cached) d
  | write {d d' text script cached} :
      Files.writeAtomic Content.empty j.instant.moment j.builder.backup j.output (.text script) d =
        .ok () d' →
      Moves j c (.differing text script cached) d (.done text (j.result script cached true)) d'
  | unwritten {d d' text script cached e} :
      Files.writeAtomic Content.empty j.instant.moment j.builder.backup j.output (.text script) d =
        .error e d' →
      Moves j c (.differing text script cached) d (.failed (.unwritten j.output e)) d'
  | done {d text r} : Moves j c (.done text r) d (.done text r) d
  | failed {d e} : Moves j c (.failed e) d (.failed e) d

/-- A document that has failed stays so: no step leads out of a failure. -/
theorem Moves.of_failed {j : Job} {c : Conditions} {p' : Phase} {d d' : Disk Content} {e : Failure}
    (h : j.Moves c (.failed e) d p' d') : p' = .failed e := by
  cases h
  rfl

end Job

/-! ## Crews -/

/-- Documents and how far each of them is. -/
structure Crew where
  /-- What all work on. -/
  site : Site
  /-- The documents. -/
  tasks : List (Job × Phase)

namespace Crew

/-- The disk that all work on. -/
def disk (w : Crew) : Disk Content :=
  w.site.disk

/-- A step of the document with this number. -/
def advance (w : Crew) (k : Nat) (c : Conditions) : Crew :=
  match w.tasks[k]? with
  | none => w
  | some (j, p) =>
    match j.next c p w.site with
    | .ok p' s => ⟨s, w.tasks.set k (j, p')⟩
    | .error e s => ⟨s, w.tasks.set k (j, .failed e)⟩

end Crew

/-! ## What a step can do -/

/-- The text of a document, case by case: it is what the file holds, and a file that cannot be read
ends the build of the document and touches nothing. -/
theorem readSource_eq (source : Text) (s : Site) :
    readSource source s =
      match s.disk.read source with
      | .ok c => .ok c.asText s
      | .error e => .error (.unread source e) s := by
  change (match s.disk.read source with
    | .ok c => (pure c.asText : Building Text)
    | .error e => throw (Failure.unread source e)) s = _
  cases s.disk.read source <;> rfl

/-- Work on the disk of a site, case by case. What it has done to the disk is kept even when it
fails. -/
theorem onDisk_eq {ε β : Type} (wrap : ε → Failure) (w : Disk.Work Content ε β) (s : Site) :
    onDisk wrap w s =
      match w s.disk with
      | .ok b d => .ok b { s with disk := d }
      | .error e d => .error (wrap e) { s with disk := d } := by
  cases h : w s.disk <;> rw [onDisk, h]

namespace Job

variable {j : Job} {c : Conditions}

/-- Asking the cache, case by case: without a cache, called off, or answered with a hit, a miss or a
failure. A failure counts as a miss, because a build does not depend on its cache. -/
theorem lookUp_eq (j : Job) (c : Conditions) (text : Text) (s : Site) :
    j.lookUp c text s =
      match j.builder.cache, c.trouble with
      | none, _ => .ok none s
      | some _, some e => .ok none { s with notes := s.notes ++ [.unfound j.source e] }
      | some h, none =>
        match h.lookup false j.rel (sourceFingerprint text) (optionsFingerprint j.builder.options)
            s.disk with
        | .ok found => .ok found s
        | .error e => .ok none { s with notes := s.notes ++ [.unfound j.source e] } := by
  rw [lookUp]
  cases hh : j.builder.cache with
  | none =>
    dsimp only
    rw [Builder.lookUp, hh]
    rfl
  | some h =>
    cases c.trouble with
    | some e => rfl
    | none =>
      dsimp only
      rw [Builder.lookUp, hh]
      change (match h.lookup false j.rel (sourceFingerprint text)
          (optionsFingerprint j.builder.options) s.disk with
        | .ok found => (pure found : Building (Option Text))
        | .error e => tell (.unfound j.source e) >>= fun _ => pure none) s = _
      cases h.lookup false j.rel (sourceFingerprint text) (optionsFingerprint j.builder.options)
        s.disk <;> rfl

/-- Giving a script to the cache, case by case. A failure is passed over here as well, so that a
script is written even when it cannot be kept. -/
theorem keep_eq (j : Job) (c : Conditions) (text script : Text) (s : Site) :
    j.keep c text script s =
      match j.builder.cache, c.trouble with
      | none, _ => .ok () s
      | some _, some e => .ok () { s with notes := s.notes ++ [.unkept j.source e] }
      | some h, none =>
        match h.store false (j.entry text script) s.disk with
        | .ok d => .ok () { s with disk := d }
        | .error e => .ok () { s with notes := s.notes ++ [.unkept j.source e] } := by
  rw [keep]
  cases hh : j.builder.cache with
  | none =>
    dsimp only
    rw [Builder.keep, hh]
    rfl
  | some h =>
    cases c.trouble with
    | some e => rfl
    | none =>
      dsimp only
      rw [Builder.keep, hh]
      change (match h.store false (j.entry text script) s.disk with
        | .ok d => (modify fun s : Site => { s with disk := d } : Building Unit)
        | .error e => tell (.unkept j.source e)) s = _
      cases h.store false (j.entry text script) s.disk <;> rfl

/-- What asking the cache can give, in the form in which the steps of documents need it: a hit with
its entry, or nothing. It leaves the disk alone in both cases. -/
theorem lookUp_cases (j : Job) (c : Conditions) (text : Text) (s : Site) :
    (∃ h script, j.lookUp c text s = .ok (some script) s ∧ j.builder.cache = some h ∧
      h.lookup false j.rel (sourceFingerprint text) (optionsFingerprint j.builder.options) s.disk =
        .ok (some script)) ∨
    ∃ s', j.lookUp c text s = .ok none s' ∧ s'.disk = s.disk ∧
      ∀ h script, j.builder.cache = some h → c.trouble = none →
        h.lookup false j.rel (sourceFingerprint text) (optionsFingerprint j.builder.options) s.disk ≠
          .ok (some script) := by
  rw [lookUp_eq]
  split
  · rename_i hh
    exact .inr ⟨s, rfl, rfl, by simp [hh]⟩
  · rename_i ht
    exact .inr ⟨_, rfl, rfl, by simp [ht]⟩
  · rename_i h hh ht
    split
    · rename_i found hl
      cases found with
      | some script => exact .inl ⟨h, script, rfl, hh, hl⟩
      | none =>
        refine .inr ⟨s, rfl, rfl, fun h' script hh' _ => ?_⟩
        cases hh.symm.trans hh'
        simp [hl]
    · rename_i e hl
      refine .inr ⟨_, rfl, rfl, fun h' script hh' _ => ?_⟩
      cases hh.symm.trans hh'
      simp [hl]

/-- A script that the cache has is taken from there. -/
theorem next_of_hit {h : Cache.Handle} {text script : Text} {s : Site}
    (hcache : j.builder.cache = some h) (htrouble : c.trouble = none)
    (hfound : h.lookup false j.rel (sourceFingerprint text) (optionsFingerprint j.builder.options)
      s.disk = .ok (some script)) :
    j.next c (.read text) s = .ok (.ready text script true) s := by
  have hlook : j.lookUp c text s = .ok (some script) s := by
    rw [lookUp_eq, hcache, htrouble]
    dsimp only
    rw [hfound]
  exact Files.bind_eq_ok.2 ⟨_, _, hlook, rfl⟩

/-- A text has its script. -/
theorem next_of_script {text script : Text} {s : Site}
    (h : scriptOf j.builder.options text = .ok script) :
    j.next c (.missed text) s = .ok (.made text script) s := by
  rw [next, h]
  rfl

/-- A text that has no script is malformed. -/
theorem next_of_no_script {text : Text} {x : Script.PassError} {s : Site}
    (h : scriptOf j.builder.options text = .error x) :
    j.next c (.missed text) s = .error (.malformed j.rel x) s := by
  rw [next, h]
  rfl

/-- What giving a script to the cache can do: the cache takes it and its file changes, or nothing
changes at all. -/
theorem keep_cases (j : Job) (c : Conditions) (text script : Text) (s : Site) :
    (∃ h s', j.keep c text script s = .ok () s' ∧ j.builder.cache = some h ∧
      h.store false (j.entry text script) s.disk = .ok s'.disk) ∨
    ∃ s', j.keep c text script s = .ok () s' ∧ s'.disk = s.disk ∧
      ∀ h d, j.builder.cache = some h → c.trouble = none →
        h.store false (j.entry text script) s.disk ≠ .ok d := by
  rw [keep_eq]
  split
  · rename_i hh
    exact .inr ⟨s, rfl, rfl, by simp [hh]⟩
  · rename_i ht
    exact .inr ⟨_, rfl, rfl, by simp [ht]⟩
  · rename_i h hh ht
    split
    · rename_i d hd
      exact .inl ⟨h, _, rfl, hh, hd⟩
    · rename_i e he
      refine .inr ⟨_, rfl, rfl, fun h' d hh' _ => ?_⟩
      cases hh.symm.trans hh'
      simp [he]

/-- A step does one of the things that a step can do. The proof takes the phases in turn, and within
each of them what the step asks the disk or the cache; `Moves` has one case for every leaf.
Everything else about steps is read off `Moves`, and `next` is not opened again. -/
theorem next_moves (j : Job) (c : Conditions) (p : Phase) (s : Site) :
    (∃ p' s', j.next c p s = .ok p' s' ∧ j.Moves c p s.disk p' s'.disk) ∨
      ∃ e s', j.next c p s = .error e s' ∧ j.Moves c p s.disk (.failed e) s'.disk := by
  cases p with
  | waiting =>
    rw [next]
    split
    · rename_i hc
      exact .inr ⟨_, s, rfl, .cancel hc⟩
    · rename_i hc
      cases hp : j.builder.target.path? j.root j.source with
      | none => exact .inr ⟨_, s, rfl, .refuse hp⟩
      | some output => exact .inl ⟨_, s, rfl, .accept (by simpa using hc)⟩
  | admitted =>
    cases hr : s.disk.read j.source with
    | error e =>
      refine .inr ⟨_, s, Files.bind_eq_error.2 (.inl ?_), .unread hr⟩
      rw [readSource_eq, hr]
    | ok content =>
      refine .inl ⟨_, s, Files.bind_eq_ok.2 ⟨content.asText, s, ?_, rfl⟩, .read hr⟩
      rw [readSource_eq, hr]
  -- the cache answers with a hit, or with anything else, which counts as a miss
  | read text =>
    rcases lookUp_cases j c text s with ⟨h, script, hl, hh, hfound⟩ | ⟨s', hl, hd, hnone⟩
    · exact .inl ⟨_, s, Files.bind_eq_ok.2 ⟨_, _, hl, rfl⟩, .hit hh hfound⟩
    · exact .inl ⟨_, s', Files.bind_eq_ok.2 ⟨_, _, hl, rfl⟩, by rw [hd]; exact .miss hnone⟩
  | missed text =>
    rw [next]
    cases hs : scriptOf j.builder.options text with
    | error e => exact .inr ⟨_, s, rfl, .malformed hs⟩
    | ok script => exact .inl ⟨_, s, rfl, .make hs⟩
  -- whether the cache takes the script or not, the next phase is the same
  | made text script =>
    rcases keep_cases j c text script s with ⟨h, s', hk, hh, hstore⟩ | ⟨s', hk, hd, hnone⟩
    · exact .inl ⟨_, s', Files.bind_eq_ok.2 ⟨_, _, hk, rfl⟩, .keep hh hstore⟩
    · exact .inl ⟨_, s', Files.bind_eq_ok.2 ⟨_, _, hk, rfl⟩, by rw [hd]; exact .forgo hnone⟩
  | ready text script cached =>
    rw [next]
    cases ht : j.isThere script s.disk with
    | true =>
      have hmove : j.Moves c (.ready text script cached) s.disk
          (.done text (j.result script cached false)) s.disk := .same ht
      refine .inl ⟨_, Site.mk s.disk (s.notes ++ [.built (j.result script cached false)]),
        Files.bind_eq_ok.2 ⟨s, s, rfl, ?_⟩, hmove⟩
      rw [if_pos ht]
      rfl
    | false =>
      refine .inl ⟨_, s, Files.bind_eq_ok.2 ⟨s, s, rfl, ?_⟩, .differ ht⟩
      rw [if_neg (by simp [ht])]
      rfl
  -- the disk of a failed write is kept: part of the work may be done
  | differing text script cached =>
    rw [next]
    cases hw : Files.writeAtomic Content.empty j.instant.moment j.builder.backup j.output
        (.text script) s.disk with
    | ok u d =>
      refine .inl ⟨_, _, Files.bind_eq_ok.2 ⟨u, { s with disk := d }, ?_, rfl⟩, .write hw⟩
      rw [onDisk_eq, hw]
    | error e d =>
      refine .inr ⟨_, { s with disk := d }, Files.bind_eq_error.2 (.inl ?_), .unwritten hw⟩
      rw [onDisk_eq, hw]
  | done text r => exact .inl ⟨_, s, rfl, .done⟩
  | failed e => exact .inl ⟨_, s, rfl, .failed⟩

end Job

namespace Crew

/-- A step changes the phase of its own document and the disk as a step can. -/
theorem advance_moves {w : Crew} {k : Nat} {j : Job} {p : Phase} (c : Conditions)
    (h : w.tasks[k]? = some (j, p)) :
    ∃ p', j.Moves c p w.disk p' (w.advance k c).disk ∧
      (w.advance k c).tasks = w.tasks.set k (j, p') ∧
      (w.advance k c).tasks[k]? = some (j, p') := by
  have hset (p' : Phase) : (w.tasks.set k (j, p'))[k]? = some (j, p') :=
    List.getElem?_set_self (List.getElem?_eq_some_iff.1 h).1
  rw [advance, h]
  dsimp only
  rcases j.next_moves c p w.site with ⟨p', s', hn, hm⟩ | ⟨e, s', hn, hm⟩
  · rw [hn]
    exact ⟨p', hm, rfl, hset p'⟩
  · rw [hn]
    exact ⟨.failed e, hm, rfl, hset _⟩

/-- A number that is not that of a document means no step. -/
theorem advance_eq_self {w : Crew} {k : Nat} {c : Conditions} (h : w.tasks[k]? = none) :
    w.advance k c = w := by
  rw [advance, h]

/-- What a step does to the list of documents: nothing, or one of them moves. -/
theorem advance_cases (w : Crew) (k : Nat) (c : Conditions) :
    (w.tasks[k]? = none ∧ w.advance k c = w) ∨
      ∃ j p p', w.tasks[k]? = some (j, p) ∧ j.Moves c p w.disk p' (w.advance k c).disk ∧
        (w.advance k c).tasks[k]? = some (j, p') ∧
        ∀ n, n ≠ k → (w.advance k c).tasks[n]? = w.tasks[n]? := by
  cases h : w.tasks[k]? with
  | none => exact .inl ⟨rfl, advance_eq_self h⟩
  | some task =>
    obtain ⟨p', hmoves, htasks, hk⟩ := advance_moves (j := task.1) (p := task.2) c h
    refine .inr ⟨task.1, task.2, p', rfl, hmoves, hk, fun n hn => ?_⟩
    rw [htasks, List.getElem?_set_ne (Ne.symm hn)]

end Crew

/-! ## One document after the other -/

namespace Job

/-- Steps of one document, one after the other. -/
def drive (j : Job) (c : Conditions) : Nat → Phase → Building Phase
  | 0, p => return p
  | n + 1, p => j.next c p >>= j.drive c n

variable {j : Job} {c : Conditions} {n : Nat} {s s' : Site} {p p' : Phase}

/-- A step that succeeds is followed by the steps behind it. -/
theorem drive_ok (h : j.next c p s = .ok p' s') : j.drive c (n + 1) p s = j.drive c n p' s' := by
  change EStateM.bind (j.next c p) (j.drive c n) s = _
  rw [EStateM.bind, h]

/-- A step that fails is the last one. -/
theorem drive_error {e : Failure} (h : j.next c p s = .error e s') :
    j.drive c (n + 1) p s = .error e s' := by
  change EStateM.bind (j.next c p) (j.drive c n) s = _
  rw [EStateM.bind, h]

/-- Steps are made one after the other: so many and then so many more are so many together. -/
theorem drive_add {m : Nat} (h : j.drive c m p s = .ok p' s') :
    j.drive c (m + n) p s = j.drive c n p' s' := by
  induction m generalizing p s with
  | zero =>
    cases h
    rw [Nat.zero_add]
  | succ m ih =>
    rw [Nat.succ_add]
    cases hn : j.next c p s with
    | ok p₁ s₁ =>
      rw [drive_ok hn] at h ⊢
      exact ih h
    | error e s₁ =>
      rw [drive_error hn] at h
      cases h

/-- A document that is built takes no more steps, whatever number of them is left. -/
theorem drive_done (text : Text) (r : Result) : j.drive c n (.done text r) s = .ok (.done text r) s := by
  induction n with
  | zero => rfl
  | succ n ih => exact ih

/-- The site with one more thing that happened. -/
def told (s : Site) (note : Note) : Site :=
  { s with notes := s.notes ++ [note] }

/-- A script is written unless its file holds it already. -/
theorem settle_eq (j : Job) (script : Text) (s : Site) :
    j.builder.settle j.instant j.output script s =
      (if j.isThere script s.disk then (pure false : Building Bool)
      else onDisk (.unwritten j.output) (Files.writeAtomic Content.empty j.instant.moment
        j.builder.backup j.output (.text script)) >>= fun _ => pure true) s :=
  rfl

/-- A document whose script is known is compared and written: its last steps, taken together, are
`Builder.settle` and what is told behind it. -/
theorem drive_ready (text script : Text) (cached : Bool) :
    (∀ written s', j.builder.settle j.instant j.output script s = .ok written s' →
      j.drive c (n + 2) (.ready text script cached) s =
        .ok (.done text (j.result script cached written))
          (told s' (.built (j.result script cached written)))) ∧
    ∀ e s', j.builder.settle j.instant j.output script s = .error e s' →
      j.drive c (n + 2) (.ready text script cached) s = .error e s' := by
  have hnext : j.next c (.ready text script cached) s =
      (if j.isThere script s.disk then j.finish text script cached false
      else pure (.differing text script cached)) s := rfl
  rw [settle_eq]
  by_cases ht : j.isThere script s.disk = true
  · rw [if_pos ht] at hnext ⊢
    refine ⟨fun written s' h => ?_, fun e s' h => (nomatch h)⟩
    cases h
    rw [drive_ok hnext, drive_done]
    rfl
  · rw [if_neg ht] at hnext ⊢
    rw [drive_ok hnext]
    refine ⟨fun written s' h => ?_, fun e s' h => ?_⟩
    · obtain ⟨u, s₁, hw, hp⟩ := Files.bind_eq_ok.1 h
      cases hp
      have hstep : j.next c (.differing text script cached) s =
          .ok (.done text (j.result script cached true))
            (told s' (.built (j.result script cached true))) :=
        Files.bind_eq_ok.2 ⟨u, s', hw, rfl⟩
      rw [drive_ok hstep, drive_done]
    · rcases Files.bind_eq_error.1 h with hw | ⟨u, s₁, hw, hp⟩
      · exact drive_error (Files.bind_eq_error.2 (.inl hw))
      · cases hp

/-- How a document comes to its script, when the cache does not refuse: the cache is asked, the
script is made if it has none, and the cache is given what was made. -/
theorem produce_eq (hc : c.trouble = none) (text : Text) :
    j.builder.produce j.instant j.source j.rel text =
      j.lookUp c text >>= fun found =>
        match found with
        | some script => pure (script, true)
        | none =>
          match scriptOf j.builder.options text with
          | .error e => throw (.malformed j.rel e)
          | .ok script => j.keep c text script >>= fun _ => pure (script, false) := by
  have hlook : j.lookUp c text = j.builder.lookUp j.source j.rel text := by
    rw [lookUp, hc]
    cases j.builder.cache <;> rfl
  have hkeep (script : Text) :
      j.keep c text script = j.builder.keep j.instant j.source j.rel text script := by
    rw [keep, hc]
    cases j.builder.cache <;> rfl
  rw [hlook, funext hkeep]
  rfl

/-- A document whose text is known gets its script from the cache or from the text. The steps up to
the script are, taken together, `Builder.produce`. -/
theorem drive_read (hc : c.trouble = none) (text : Text) :
    (∀ script cached s', j.builder.produce j.instant j.source j.rel text s = .ok (script, cached) s' →
      ∃ m, j.drive c (n + 5) (.read text) s = j.drive c (m + 2) (.ready text script cached) s') ∧
    ∀ e s', j.builder.produce j.instant j.source j.rel text s = .error e s' →
      j.drive c (n + 5) (.read text) s = .error e s' := by
  rw [produce_eq hc]
  rcases lookUp_cases j c text s with ⟨h, script, hl, -, -⟩ | ⟨s₁, hl, -, -⟩
  -- a hit is one step, so four of the five steps are left
  · have hstep : j.next c (.read text) s = .ok (.ready text script true) s :=
      Files.bind_eq_ok.2 ⟨_, _, hl, rfl⟩
    rw [drive_ok hstep]
    refine ⟨fun script' cached s' h => ?_, fun e s' h => ?_⟩
    · obtain ⟨found, s₁, hf, hp⟩ := Files.bind_eq_ok.1 h
      cases hl.symm.trans hf
      cases hp
      exact ⟨n + 2, rfl⟩
    · rcases Files.bind_eq_error.1 h with hf | ⟨found, s₁, hf, hp⟩
      · cases hl.symm.trans hf
      · cases hl.symm.trans hf
        cases hp
  · have hstep : j.next c (.read text) s = .ok (.missed text) s₁ :=
      Files.bind_eq_ok.2 ⟨_, _, hl, rfl⟩
    rw [drive_ok hstep]
    -- past the cache: what is left is to make the script
    have hrest {β : Type} {g : Option Text → Building β} {x : EStateM.Result Failure Site β}
        (h : (j.lookUp c text >>= g) s = x) : g none s₁ = x := by
      rw [← h]
      change _ = EStateM.bind (j.lookUp c text) g s
      rw [EStateM.bind, hl]
    cases hs : scriptOf j.builder.options text with
    | error e =>
      rw [drive_error (next_of_no_script hs)]
      refine ⟨fun script cached s' h => ?_, fun e' s' h => ?_⟩
      · have := hrest h
        dsimp only at this
        cases this
      · have := hrest h
        dsimp only at this
        cases this
        rfl
    | ok script =>
      obtain ⟨s₂, hk⟩ : ∃ s₂, j.keep c text script s₁ = .ok () s₂ := by
        rcases keep_cases j c text script s₁ with ⟨-, s₂, hk, -⟩ | ⟨s₂, hk, -⟩
        · exact ⟨s₂, hk⟩
        · exact ⟨s₂, hk⟩
      have hkept : j.next c (.made text script) s₁ = .ok (.ready text script false) s₂ :=
        Files.bind_eq_ok.2 ⟨_, _, hk, rfl⟩
      rw [drive_ok (next_of_script hs), drive_ok hkept]
      refine ⟨fun script' cached s' h => ?_, fun e' s' h => ?_⟩
      · have hp := hrest h
        dsimp only at hp
        obtain ⟨u, s₃, hk', hp⟩ := Files.bind_eq_ok.1 hp
        cases hk.symm.trans hk'
        cases hp
        exact ⟨n, rfl⟩
      · have hp := hrest h
        dsimp only at hp
        rcases Files.bind_eq_error.1 hp with hk' | ⟨u, s₃, hk', hp⟩
        · cases hk.symm.trans hk'
        · cases hp

/-- A build of one document, part by part. -/
theorem buildOne_eq (j : Job) (cancelled : Bool) :
    j.builder.buildOne j.instant cancelled j.root j.source =
      if cancelled then throw .cancelled
      else match j.builder.target.path? j.root j.source with
        | none => throw (.unrelated j.root j.source)
        | some output =>
          readSource j.source >>= fun text =>
            j.builder.produce j.instant j.source j.rel text >>= fun x =>
              j.builder.settle j.instant output x.1 >>= fun written =>
                (do
                  tell (.built ⟨j.source, j.rel, output, x.2, written, x.1.length⟩)
                  return ⟨j.source, j.rel, output, x.2, written, x.1.length⟩) := by
  rw [Builder.buildOne]
  cases cancelled <;> rfl

/-- **The steps of a document, one after the other, are a build of it**, whether it ends well or
not. So a program that builds the documents in turn is one of the ways in which a crew can work, and
what holds of every crew holds of it. -/
theorem drive_buildOne (j : Job) (cancelled : Bool) (s : Site) :
    (∀ r s', j.builder.buildOne j.instant cancelled j.root j.source s = .ok r s' →
      ∃ text, j.drive { cancelled } 7 .waiting s = .ok (.done text r) s') ∧
    ∀ e s', j.builder.buildOne j.instant cancelled j.root j.source s = .error e s' →
      j.drive { cancelled } 7 .waiting s = .error e s' := by
  rw [buildOne_eq]
  cases cancelled with
  -- called off before it begins, a document fails at its first step
  | true =>
    refine ⟨fun r s' h => (nomatch h), fun e s' h => ?_⟩
    cases h
    exact drive_error (n := 6) rfl
  | false =>
    rw [if_neg (by simp)]
    cases hp : j.builder.target.path? j.root j.source with
    | none =>
      have hfail : j.next {} .waiting s = .error (.unrelated j.root j.source) s := by
        rw [next, if_neg (by simp), hp]
        rfl
      refine ⟨fun r s' h => (nomatch h), fun e s' h => ?_⟩
      cases h
      exact drive_error (n := 6) hfail
    | some output =>
      have hout : j.output = output := by rw [Job.output, hp]; rfl
      have haccept : j.next {} .waiting s = .ok .admitted s := by
        rw [next, if_neg (by simp), hp]
        rfl
      dsimp only
      rw [drive_ok (n := 6) haccept, ← hout]
      refine ⟨fun r s' h => ?_, fun e s' h => ?_⟩
      -- three parts, each of which is some steps: reading, coming to a script, writing
      · obtain ⟨text, s₁, hread, h⟩ := Files.bind_eq_ok.1 h
        obtain ⟨⟨script, cached⟩, s₂, hprod, h⟩ := Files.bind_eq_ok.1 h
        obtain ⟨written, s₃, hset, h⟩ := Files.bind_eq_ok.1 h
        cases h
        have hstep : j.next {} .admitted s = .ok (.read text) s₁ :=
          Files.bind_eq_ok.2 ⟨text, s₁, hread, rfl⟩
        obtain ⟨m, hm⟩ := (drive_read (c := {}) (n := 0) rfl text).1 script cached s₂ hprod
        rw [drive_ok hstep, hm, (drive_ready text script cached).1 written s₃ hset]
        exact ⟨text, rfl⟩
      -- the failure is that of the first of the three parts that fails
      · rcases Files.bind_eq_error.1 h with hread | ⟨text, s₁, hread, h⟩
        · exact drive_error (Files.bind_eq_error.2 (.inl hread))
        have hstep : j.next {} .admitted s = .ok (.read text) s₁ :=
          Files.bind_eq_ok.2 ⟨text, s₁, hread, rfl⟩
        rw [drive_ok hstep]
        rcases Files.bind_eq_error.1 h with hprod | ⟨⟨script, cached⟩, s₂, hprod, h⟩
        · exact (drive_read (c := {}) (n := 0) rfl text).2 e s' hprod
        obtain ⟨m, hm⟩ := (drive_read (c := {}) (n := 0) rfl text).1 script cached s₂ hprod
        rw [hm]
        rcases Files.bind_eq_error.1 h with hset | ⟨written, s₃, hset, h⟩
        · exact (drive_ready text script cached).2 e s' hset
        · cases h

/-- Steps that build a document are a build of it. -/
theorem buildOne_eq_ok {j : Job} {cancelled : Bool} {text : Text} {r : Result}
    (h : j.drive { cancelled } 7 .waiting s = .ok (.done text r) s') :
    j.builder.buildOne j.instant cancelled j.root j.source s = .ok r s' := by
  obtain ⟨hok, herror⟩ := drive_buildOne j cancelled s
  cases hb : j.builder.buildOne j.instant cancelled j.root j.source s with
  | ok r₁ s₁ =>
    obtain ⟨text₁, hdrive⟩ := hok r₁ s₁ hb
    cases hdrive.symm.trans h
    rfl
  | error e s₁ => cases (herror e s₁ hb).symm.trans h

/-- Steps that end in a failure are a build that fails for the same cause. With `buildOne_eq_ok` the
steps of a document and the build of it are two views of one thing. -/
theorem buildOne_eq_error {j : Job} {cancelled : Bool} {e : Failure}
    (h : j.drive { cancelled } 7 .waiting s = .error e s') :
    j.builder.buildOne j.instant cancelled j.root j.source s = .error e s' := by
  obtain ⟨hok, herror⟩ := drive_buildOne j cancelled s
  cases hb : j.builder.buildOne j.instant cancelled j.root j.source s with
  | ok r₁ s₁ =>
    obtain ⟨text₁, hdrive⟩ := hok r₁ s₁ hb
    cases hdrive.symm.trans h
  | error e₁ s₁ =>
    cases (herror e₁ s₁ hb).symm.trans h
    rfl

end Job

/-! ## Documents one after the other -/

/-- What is told about a document that is built. -/
def Phase.result? : Phase → Option Result
  | .done _ r => some r
  | _ => none

namespace Crew

/-- The documents of a build, before anything has happened. -/
def tasksOf (b : Builder) (clock : Text → Instant) (root : Text) (sources : List Text) :
    List (Job × Phase) :=
  sources.map fun source => (⟨b, clock source, root, source⟩, .waiting)

variable {R : Crew → Prop}

/-- What a step of one document does to the crew: the site is what the step makes of it, and of the
documents only this one changes. -/
theorem advance_eq {w : Crew} {k : Nat} {j : Job} {p : Phase} (h : w.tasks[k]? = some (j, p))
    (c : Conditions) :
    w.advance k c =
      match j.next c p w.site with
      | .ok p' s => ⟨s, w.tasks.set k (j, p')⟩
      | .error e s => ⟨s, w.tasks.set k (j, .failed e)⟩ := by
  rw [advance, h]

/-- A property that steps keep is kept when one document makes several steps. The induction is on
the number of steps, and the document may be anywhere among the others. -/
theorem drive_induction {k : Nat} {c : Conditions} (hstep : ∀ w, R w → R (w.advance k c)) {w : Crew}
    {j : Job} {p : Phase} (hw : R w) (h : w.tasks[k]? = some (j, p)) (n : Nat) :
    (∀ p' s', j.drive c n p w.site = .ok p' s' → R ⟨s', w.tasks.set k (j, p')⟩) ∧
      ∀ e s', j.drive c n p w.site = .error e s' → R ⟨s', w.tasks.set k (j, .failed e)⟩ := by
  induction n generalizing w p with
  | zero =>
    refine ⟨fun p' s' hd => ?_, fun e s' hd => (nomatch hd)⟩
    cases hd
    have hsame : w.tasks.set k (j, p) = w.tasks := by
      obtain ⟨hk, hget⟩ := List.getElem?_eq_some_iff.1 h
      rw [← hget, List.set_getElem_self]
    rw [hsame]
    exact hw
  | succ n ih =>
    have hnext := hstep w hw
    rw [advance_eq h] at hnext
    have hlt : k < w.tasks.length := (List.getElem?_eq_some_iff.1 h).1
    cases hn : j.next c p w.site with
    | ok p₁ s₁ =>
      rw [hn] at hnext
      have hk : (w.tasks.set k (j, p₁))[k]? = some (j, p₁) := List.getElem?_set_self hlt
      have := ih hnext hk
      rw [Job.drive_ok hn]
      simpa [List.set_set] using this
    | error e s₁ =>
      rw [hn] at hnext
      rw [Job.drive_error hn]
      refine ⟨fun p' s' hd => (nomatch hd), fun e' s' hd => ?_⟩
      cases hd
      exact hnext

/-- A property that steps keep is kept when documents are built one after the other. The induction
is on the documents that are left; those in front of them stay as they are, built or not, and are
carried along. -/
theorem buildAll_induction {cancelled : Bool} (hstep : ∀ w k, R w → R (w.advance k { cancelled }))
    (b : Builder) (i : Instant) (root : Text) (sources : List Text) (before : List (Job × Phase))
    (s : Site) (hw : R ⟨s, before ++ tasksOf b (fun _ => i) root sources⟩) :
    (∀ rs s', b.buildAll i cancelled root sources s = .ok rs s' →
      ∃ after, R ⟨s', before ++ after⟩ ∧
        after.map (·.1) = (tasksOf b (fun _ => i) root sources).map (·.1) ∧
        after.map (·.2.result?) = rs.map some) ∧
    ∀ e s', b.buildAll i cancelled root sources s = .error e s' →
      ∃ after, R ⟨s', before ++ after⟩ ∧
        after.map (·.1) = (tasksOf b (fun _ => i) root sources).map (·.1) ∧
        (∃ task ∈ after, task.2 = .failed e) ∧
        ∀ task ∈ after, ∀ e', task.2 = .failed e' → e' = e := by
  induction sources generalizing before s with
  | nil =>
    refine ⟨fun rs s' h => ?_, fun e s' h => (nomatch h)⟩
    cases h
    exact ⟨[], hw, rfl, rfl⟩
  | cons source more ih =>
    -- the document whose turn it is stands behind those that had theirs
    have hk : (before ++ tasksOf b (fun _ => i) root (source :: more))[before.length]? =
        some (⟨b, i, root, source⟩, .waiting) := by
      simp [tasksOf]
    have hset (p : Phase) :
        (before ++ tasksOf b (fun _ => i) root (source :: more)).set before.length
            (⟨b, i, root, source⟩, p) =
          before ++ [(⟨b, i, root, source⟩, p)] ++ tasksOf b (fun _ => i) root more := by
      simp [tasksOf]
    -- seven steps are enough for any document
    obtain ⟨hdone, hfailed⟩ := drive_induction (fun w => hstep w before.length) hw hk 7
    obtain ⟨hok, herror⟩ := Job.drive_buildOne ⟨b, i, root, source⟩ cancelled s
    have hfirst {r : Result} {s₁ : Site} (h : b.buildOne i cancelled root source s = .ok r s₁) :
        ∃ text, R ⟨s₁, before ++ [(⟨b, i, root, source⟩, .done text r)] ++
          tasksOf b (fun _ => i) root more⟩ := by
      obtain ⟨text, htext⟩ := hok r s₁ h
      exact ⟨text, hset _ ▸ hdone _ _ htext⟩
    refine ⟨fun rs s' h => ?_, fun e s' h => ?_⟩
    · obtain ⟨r, s₁, hr, h⟩ := Files.bind_eq_ok.1 h
      obtain ⟨rest, s₂, hrest, h⟩ := Files.bind_eq_ok.1 h
      cases h
      obtain ⟨text, htext⟩ := hfirst hr
      obtain ⟨after, hR, hjobs, hres⟩ := (ih _ s₁ htext).1 rest s' hrest
      refine ⟨(⟨b, i, root, source⟩, .done text r) :: after, by simpa using hR, ?_, ?_⟩
      · rw [List.map_cons, hjobs]
        rfl
      · rw [List.map_cons, hres]
        rfl
    · rcases Files.bind_eq_error.1 h with hr | ⟨r, s₁, hr, h⟩
      · -- this document fails, and those behind it wait
        refine ⟨(⟨b, i, root, source⟩, .failed e) :: tasksOf b (fun _ => i) root more, ?_, rfl,
          ⟨_, List.mem_cons_self, rfl⟩, fun task ht e' he' => ?_⟩
        · have := hset _ ▸ hfailed e s' (herror e s' hr)
          simpa using this
        · rcases List.mem_cons.1 ht with rfl | ht
          · cases he'
            rfl
          · obtain ⟨_, -, rfl⟩ := List.mem_map.1 ht
            cases he'
      · rcases Files.bind_eq_error.1 h with hrest | ⟨rest, s₂, hrest, h⟩
        · obtain ⟨text, htext⟩ := hfirst hr
          obtain ⟨after, hR, hjobs, ⟨task, ht, hte⟩, honly⟩ := (ih _ s₁ htext).2 e s' hrest
          refine ⟨(⟨b, i, root, source⟩, .done text r) :: after, by simpa using hR, ?_,
            ⟨task, List.mem_cons_of_mem _ ht, hte⟩, fun t ht' e' he' => ?_⟩
          · rw [List.map_cons, hjobs]
            rfl
          · rcases List.mem_cons.1 ht' with rfl | ht'
            · cases he'
            · exact honly t ht' e' he'
        · cases h

end Crew

/-! ## A file and a directory -/

namespace Builder

variable {b : Builder} {s : Site}

/-- Options that mean one thing pass the check, which touches nothing. -/
theorem check_eq (h : b.options.validate = .ok ()) (s : Site) : b.check s = .ok () s := by
  rw [check, h]
  rfl

/-- Options that could mean two things are refused before anything else is done. -/
theorem check_eq_error {p : Options.Problem} (h : b.options.validate = .error p) (s : Site) :
    b.check s = .error (.options p) s := by
  rw [check, h]
  rfl

/-- A file is built under options that are not refused, or not at all. -/
theorem buildFile_cases (b : Builder) (i : Instant) (cancelled : Bool) (source : Text) (s : Site) :
    b.options.validate = .ok () ∨ ∃ p, b.buildFile i cancelled source s = .error (.options p) s := by
  cases h : b.options.validate with
  | ok u => exact .inl rfl
  | error p =>
    refine .inr ⟨p, ?_⟩
    change EStateM.bind b.check _ s = _
    rw [EStateM.bind, check_eq_error h]

/-- Looking at the site gives the site and changes nothing; the rewriting form of it. -/
theorem get_eq (s : Site) : (get : Building Site) s = .ok s s := rfl

/-- The build of a directory under options that are not refused: its documents are found, and built
one after the other. -/
theorem buildDirectory_of_valid (hvalid : b.options.validate = .ok ()) (i : Instant)
    (cancelled : Bool) (root : Text) (s : Site) :
    b.buildDirectory i cancelled root s =
      match discover s.disk root with
      | .error x => .error (.undiscovered root x) s
      | .ok sources =>
        match b.buildAll i cancelled root sources s with
        | .ok rs s' => .ok rs (Job.told s' (.finished root rs))
        | .error e s' => .error e (Job.told s' (.failed root e)) := by
  rw [buildDirectory]
  change EStateM.bind b.check _ s = _
  rw [EStateM.bind, check_eq hvalid]
  change EStateM.bind get _ s = _
  rw [EStateM.bind, get_eq]
  dsimp only
  cases discover s.disk root with
  | error x => rfl
  | ok sources =>
    change EStateM.bind (EStateM.tryCatch _ _) _ s = _
    delta EStateM.tryCatch
    have hall : (b.means i).buildAll b i cancelled root sources = b.buildAll i cancelled root sources :=
      rfl
    cases hb : b.buildAll i cancelled root sources s with
    | ok rs s' =>
      simp only [bind, EStateM.bind, hall, hb]
      rfl
    | error e s' =>
      simp only [bind, EStateM.bind, hall, hb]
      rfl

/-- A directory whose documents cannot be found is not built. -/
theorem buildDirectory_undiscovered {root : Text} {x : Files.DiskError}
    (hvalid : b.options.validate = .ok ()) (h : discover s.disk root = .error x) (i : Instant)
    (cancelled : Bool) : b.buildDirectory i cancelled root s = .error (.undiscovered root x) s := by
  rw [buildDirectory_of_valid hvalid, h]

/-- A directory is built under options that are not refused and once its documents are found, or not
at all. -/
theorem buildDirectory_cases (b : Builder) (i : Instant) (cancelled : Bool) (root : Text) (s : Site) :
    (b.options.validate = .ok () ∧ ∃ sources, discover s.disk root = .ok sources) ∨
      ∃ e, b.buildDirectory i cancelled root s = .error e s := by
  cases h : b.options.validate with
  | error p =>
    refine .inr ⟨.options p, ?_⟩
    change EStateM.bind b.check _ s = _
    rw [EStateM.bind, check_eq_error h]
  | ok u =>
    cases hfound : discover s.disk root with
    | ok sources => exact .inl ⟨rfl, sources, rfl⟩
    | error e => exact .inr ⟨_, buildDirectory_undiscovered h hfound i cancelled⟩

/-- Options that are not refused do not show in the build of a file. -/
theorem buildFile_eq (hvalid : b.options.validate = .ok ()) (i : Instant) (cancelled : Bool)
    (source : Text) :
    b.buildFile i cancelled source s = b.buildOne i cancelled (Files.directory source) source s := by
  rw [buildFile]
  change EStateM.bind b.check _ s = _
  rw [EStateM.bind, check_eq hvalid]
  rfl

/-- The build of a directory, once its documents are found. -/
theorem buildDirectory_eq {root : Text} {sources : List Text} (hvalid : b.options.validate = .ok ())
    (hfound : discover s.disk root = .ok sources) (i : Instant) (cancelled : Bool) :
    b.buildDirectory i cancelled root s =
      match b.buildAll i cancelled root sources s with
      | .ok rs s' => .ok rs (Job.told s' (.finished root rs))
      | .error e s' => .error e (Job.told s' (.failed root e)) := by
  rw [buildDirectory_of_valid hvalid, hfound]

end Builder

end NovelScript.Build
