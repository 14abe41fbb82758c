import Mathlib
import NovelScript.Proofs.Build.Crew
import NovelScript.Proofs.Build.Digest
import NovelScript.Proofs.Build.Fingerprint
import NovelScript.Proofs.Cache.Handle
import NovelScript.Proofs.Files.Atomic

/-!
# A cache does not show in what is built

An entry of the cache is found by the path of a document as seen from a root and by two fingerprints.
The path alone says little: documents below different roots may share it, and their texts and the
options may change between builds. An entry is correct when its fingerprints are those of a text and
of options whose script it holds (`Correct`). That is all that has to be kept.

* **`Job.Moves.sound`** says that a step of a document keeps every entry correct, and that a script
  that a document gets from the cache is that of a text and options with the same fingerprints.
* **`Step`** lists what may happen to documents, caches and files, and **`Step.sound`** says that all
  of it keeps the invariant.
* **`leads_buildFile`** and **`leads_buildDirectory`** say that a call of the builder is a run of
  such steps.
* **`cache_transparent`** concludes: as long as no two texts of a run share a digest, a document that
  is built has the script of the text that was read.
-/

namespace NovelScript.Build

open Files (Disk)

/-! ## Correct entries -/

/-- The entry holds the script of a text under options, and both were among the inputs of the
digest. -/
def Correct (hashed : List Text) (e : Cache.Entry) : Prop :=
  ∃ text o, text ∈ hashed ∧ optionsRecord o ∈ hashed ∧ e.source = sourceFingerprint text ∧
    e.options = optionsFingerprint o ∧ scriptOf o text = .ok e.output

/-- No two of the texts share a digest. -/
def NoCollisions (hashed : List Text) : Prop :=
  ∀ a ∈ hashed, ∀ b ∈ hashed, digest a = digest b → a = b

/-- Fewer texts have fewer collisions. A run digests more and more texts, and the assumption is made
about those at its end. -/
theorem NoCollisions.mono {hashed hashed' : List Text} (hsub : hashed ⊆ hashed')
    (h : NoCollisions hashed') : NoCollisions hashed :=
  fun a ha b hb => h a (hsub ha) b (hsub hb)

/-- Texts whose digests are different do not collide. It is how the assumption about digests is met
by the texts of an example. -/
theorem noCollisions_of_nodup {hashed : List Text} (h : (hashed.map digest).Nodup) :
    NoCollisions hashed := by
  induction hashed with
  | nil => exact fun a ha => (nomatch ha)
  | cons text more ih =>
    rw [List.map_cons, List.nodup_cons] at h
    have hne {b : Text} (hb : b ∈ more) : digest text ≠ digest b := fun heq =>
      h.1 (heq ▸ List.mem_map_of_mem hb)
    intro a ha b hb heq
    rcases List.mem_cons.1 ha with rfl | ha'
    · rcases List.mem_cons.1 hb with rfl | hb'
      · rfl
      · exact absurd heq (hne hb')
    · rcases List.mem_cons.1 hb with rfl | hb'
      · exact absurd heq.symm (hne ha')
      · exact ih h.2 a ha' b hb' heq

/-- An entry stays correct when more is digested. -/
theorem Correct.mono {hashed hashed' : List Text} (hsub : hashed ⊆ hashed') {e : Cache.Entry}
    (h : Correct hashed e) : Correct hashed' e := by
  obtain ⟨text, o, htext, ho, h⟩ := h
  exact ⟨text, o, hsub htext, hsub ho, h⟩

/-- A correct entry with the fingerprints of a text and of options holds their script. -/
theorem Correct.scriptOf_eq {hashed : List Text} {e : Cache.Entry} (h : Correct hashed e)
    (hdigest : NoCollisions hashed) {text : Text} {o : Options} (htext : text ∈ hashed)
    (ho : optionsRecord o ∈ hashed) (hsource : e.source = sourceFingerprint text)
    (hoptions : e.options = optionsFingerprint o) : scriptOf o text = .ok e.output := by
  obtain ⟨text', o', htext', ho', hsource', hoptions', hscript⟩ := h
  have htexts : text = text' := hdigest _ htext _ htext' (hsource.symm.trans hsource')
  have hrecords : optionsRecord o = optionsRecord o' :=
    hdigest _ ho _ ho' (hoptions.symm.trans hoptions')
  rw [htexts, scriptOf_congr hrecords, hscript]

/-! ## Steps of a document -/

namespace Phase

/-- What is digested for a document when it gets this far. -/
def inputs (j : Job) : Phase → List Text
  | .read text => [text, optionsRecord j.builder.options]
  | _ => []

/-- The script of the document, where it is known, is that of a correct entry with its
fingerprints. -/
def Sound (hashed : List Text) (j : Job) : Phase → Prop
  | .read text | .missed text => text ∈ hashed ∧ optionsRecord j.builder.options ∈ hashed
  | .made text script | .ready text script _ | .differing text script _ =>
    text ∈ hashed ∧ optionsRecord j.builder.options ∈ hashed ∧ Correct hashed (j.entry text script)
  | _ => True

/-- What is known of a document on its way stays known when more is digested. With `Correct.mono` it
is what the steps of the other documents ask for. -/
theorem Sound.mono {hashed hashed' : List Text} (hsub : hashed ⊆ hashed') {j : Job} {p : Phase}
    (h : p.Sound hashed j) : p.Sound hashed' j := by
  cases p with
  | read text => exact ⟨hsub h.1, hsub h.2⟩
  | missed text => exact ⟨hsub h.1, hsub h.2⟩
  | made text script => exact ⟨hsub h.1, hsub h.2.1, h.2.2.mono hsub⟩
  | ready text script cached => exact ⟨hsub h.1, hsub h.2.1, h.2.2.mono hsub⟩
  | differing text script cached => exact ⟨hsub h.1, hsub h.2.1, h.2.2.mono hsub⟩
  | waiting => trivial
  | admitted => trivial
  | done text r => trivial
  | failed e => trivial

end Phase

namespace Job

variable {j : Job} {c : Conditions} {p p' : Phase} {d d' : Disk Content} {hashed : List Text}

/-- What the replacement of a file brings to the disk is no cache. -/
theorem entries_writeAtomic {P : Cache.Entry → Prop} {m : Files.Moment} {backup : Bool}
    {output script : Text} (hd : Cache.Entries P d) :
    (∀ u d', Files.writeAtomic Content.empty m backup output (.text script) d = .ok u d' →
      Cache.Entries P d') ∧
    ∀ e d', Files.writeAtomic Content.empty m backup output (.text script) d = .error e d' →
      Cache.Entries P d' := by
  have hnew : ∀ db, Content.database db ∈ [Content.text script, Content.empty] →
      ∀ e ∈ db.entries, P e := by
    intro db hdb
    simp [Content.empty] at hdb
  have hkeeps := Files.keeps_writeAtomic Content.empty m backup output (.text script) d
  exact ⟨fun u d' h => hd.brings (hkeeps.1 u d' h) hnew, fun e d' h => hd.brings (hkeeps.2 e d' h) hnew⟩

/-- A step keeps all entries correct and gets scripts from correct entries only. The only step that
brings an entry is the one that has just made the script of a text, and this is what a correct entry
is. -/
theorem Moves.sound (h : j.Moves c p d p' d') (hp : p.Sound hashed j)
    (hd : Cache.Entries (Correct hashed) d) :
    p'.Sound (p'.inputs j ++ hashed) j ∧ Cache.Entries (Correct hashed) d' := by
  cases h with
  | cancel => exact ⟨trivial, hd⟩
  | refuse => exact ⟨trivial, hd⟩
  | accept => exact ⟨trivial, hd⟩
  | unread => exact ⟨trivial, hd⟩
  | read => exact ⟨by simp [Phase.Sound, Phase.inputs], hd⟩
  | hit hcache hlookup =>
    obtain ⟨e, ⟨text', o', htext', ho', hs', hscript⟩, -, hsource, hoptions, rfl⟩ := hd.lookup hlookup
    -- the entry that was found may be that of another run; what it says is the same
    exact ⟨⟨hp.1, hp.2, text', o', htext', ho', hsource.symm.trans hs',
      hoptions.symm.trans hscript.1, hscript.2⟩, hd⟩
  | miss => exact ⟨hp, hd⟩
  | malformed => exact ⟨trivial, hd⟩
  | make hscript => exact ⟨⟨hp.1, hp.2, _, _, hp.1, hp.2, rfl, rfl, hscript⟩, hd⟩
  | keep hcache hstore => exact ⟨hp, hd.store hp.2.2 hstore⟩
  | forgo => exact ⟨hp, hd⟩
  | same => exact ⟨trivial, hd⟩
  | differ => exact ⟨hp, hd⟩
  | write hwrite => exact ⟨trivial, (entries_writeAtomic hd).1 _ _ hwrite⟩
  | unwritten hwrite => exact ⟨trivial, (entries_writeAtomic hd).2 _ _ hwrite⟩
  | done => exact ⟨trivial, hd⟩
  | failed => exact ⟨trivial, hd⟩

/-- The document has the script of its text, in its file and in what is told about it. -/
structure IsBuilt (j : Job) (d : Disk Content) (text script : Text) (r : Result) : Prop where
  scriptOf_eq : scriptOf j.builder.options text = .ok script
  result_eq : r = j.result script r.cached r.written
  read_eq : ∃ content, d.read r.output = .ok content ∧ content.asText = script

/-- A step that builds a document leaves its script in its file: it was there already, or it has
just been written. -/
theorem Moves.isBuilt {text : Text} {r : Result} (h : j.Moves c p d (.done text r) d')
    (hnew : p ≠ .done text r) (hp : p.Sound hashed j) (hdigest : NoCollisions hashed)
    (hsalt : Files.slash ∉ j.instant.moment.salt) : ∃ script, j.IsBuilt d' text script r := by
  have hscript {text script : Text} (h : text ∈ hashed ∧ optionsRecord j.builder.options ∈ hashed ∧
      Correct hashed (j.entry text script)) : scriptOf j.builder.options text = .ok script :=
    h.2.2.scriptOf_eq hdigest h.1 h.2.1 rfl rfl
  cases h with
  | @same _ _ script cached hthere =>
    rw [isThere] at hthere
    split at hthere
    · rename_i content hread
      exact ⟨script, hscript hp, rfl, content, hread, by simpa using hthere⟩
    · cases hthere
  | @write _ _ _ script cached hwrite =>
    obtain ⟨-, hread, -⟩ := Files.writeAtomic_ok hsalt hwrite
    exact ⟨script, hscript hp, rfl, .text script, hread, rfl⟩
  | done => exact absurd rfl hnew

/-- A document that is malformed has a text without a script. -/
theorem Moves.malformed_cases {rel : Text} {e : Script.PassError}
    (h : j.Moves c p d (.failed (.malformed rel e)) d') :
    p = .failed (.malformed rel e) ∨
      ∃ text, p = .missed text ∧ scriptOf j.builder.options text = .error e := by
  cases h with
  | @malformed _ text _ hscript => exact .inr ⟨text, rfl, hscript⟩
  | failed => exact .inl rfl

/-- A document that is built is left alone, and so is the disk. -/
theorem Moves.of_done {text : Text} {r : Result} (h : j.Moves c (.done text r) d p' d') : d' = d := by
  cases h
  rfl

/-- Nothing happens to the disk before a document is read. -/
theorem Moves.unread_cases (h : j.Moves c p d p' d') (hp' : p' = .waiting ∨ p' = .admitted) :
    p = .waiting ∧ d' = d := by
  rcases hp' with rfl | rfl
  · cases h
  · cases h
    exact ⟨rfl, rfl⟩

end Job

/-! ## Runs -/

/-- Documents that are built on a disk, and everything that was digested so far. -/
structure World where
  /-- The documents and the disk. -/
  crew : Crew
  /-- What was digested. -/
  hashed : List Text

/-- The world with another disk. -/
def World.onto (w : World) (d : Disk Content) : World :=
  { w with crew.site.disk := d }

/-- What may happen. -/
inductive Step : World → World → Prop
  /-- Files and directories change in any way that brings no cache that was not there. -/
  | edit {w : World} {d : Disk Content} :
      (∀ db, Content.database db ∈ d.contents → Content.database db ∈ w.crew.disk.contents) →
      Step w (w.onto d)
  /-- A cache is opened, or cannot be opened. -/
  | opened {w : World} {d : Disk Content} {cancelled : Bool} {path : Text} :
      (∃ h, Cache.openFile cancelled path w.crew.disk = .ok h d) ∨
        (∃ e, Cache.openFile cancelled path w.crew.disk = .error e d) →
      Step w (w.onto d)
  /-- A cache keeps an entry with the script of a text. -/
  | stored {w : World} {d : Disk Content} {h : Cache.Handle} {e : Cache.Entry} {text : Text}
      {o : Options} :
      e.source = sourceFingerprint text → e.options = optionsFingerprint o →
      scriptOf o text = .ok e.output → h.store false e w.crew.disk = .ok d →
      Step w { w.onto d with hashed := text :: optionsRecord o :: w.hashed }
  /-- A cache forgets old entries. -/
  | pruned {w : World} {d : Disk Content} {h : Cache.Handle} {cutoff : Int} {n : Nat} :
      h.prune false cutoff w.crew.disk = .ok (d, n) → Step w (w.onto d)
  /-- A document is to be built. -/
  | started {w : World} {j : Job} :
      j.builder.options.validate = .ok () → Files.slash ∉ j.instant.moment.salt →
      Step w { w with crew.tasks := w.crew.tasks ++ [(j, .waiting)] }
  /-- A document gets one step further. The work may have been called off, and its cache may refuse
  what it is asked. -/
  | worked {w : World} {k : Nat} {j : Job} {p : Phase} {c : Conditions} :
      (w.crew.advance k c).tasks[k]? = some (j, p) →
      Step w ⟨w.crew.advance k c, p.inputs j ++ w.hashed⟩

/-- What was digested stays. -/
theorem Step.hashed_subset {w w' : World} (h : Step w w') : w.hashed ⊆ w'.hashed := by
  cases h with
  | edit => exact List.Subset.refl _
  | opened => exact List.Subset.refl _
  | @stored d h e text o =>
    exact List.subset_cons_of_subset text (List.subset_cons_self (optionsRecord o) _)
  | pruned => exact List.Subset.refl _
  | started => exact List.Subset.refl _
  | worked => exact List.subset_append_right _ _

/-- A step of a document that does not fail is something that may happen. -/
theorem Step.next {w : World} {k : Nat} {j : Job} {p p' : Phase} {c : Conditions} {s : Site}
    (hk : w.crew.tasks[k]? = some (j, p)) (h : j.next c p w.crew.site = .ok p' s) :
    Step w ⟨⟨s, w.crew.tasks.set k (j, p')⟩, p'.inputs j ++ w.hashed⟩ := by
  have hadvance : w.crew.advance k c = ⟨s, w.crew.tasks.set k (j, p')⟩ := by
    rw [Crew.advance_eq hk, h]
  have hlt : k < w.crew.tasks.length := (List.getElem?_eq_some_iff.1 hk).1
  have hk' : (w.crew.advance k c).tasks[k]? = some (j, p') := by
    rw [hadvance]
    exact List.getElem?_set_self hlt
  exact hadvance ▸ Step.worked hk'

/-- Any number of things happens. -/
inductive Leads (w : World) : World → Prop
  | refl : Leads w w
  | step {w₁ w₂ : World} : Leads w w₁ → Step w₁ w₂ → Leads w w₂

/-- What every run keeps: all entries are correct, and so are the scripts of documents that are not
built yet. -/
structure World.Sound (w : World) : Prop where
  entries : Cache.Entries (Correct w.hashed) w.crew.disk
  phases : ∀ task ∈ w.crew.tasks, task.2.Sound w.hashed task.1
  salts : ∀ task ∈ w.crew.tasks, Files.slash ∉ task.1.instant.moment.salt

/-- A change of the disk that keeps entries correct. -/
theorem World.Sound.onto {w : World} (hw : w.Sound) {d : Disk Content}
    (hd : Cache.Entries (Correct w.hashed) d) : (w.onto d).Sound :=
  ⟨hd, hw.phases, hw.salts⟩

/-- More inputs of the digest do not matter. -/
theorem World.Sound.mono {w : World} (hw : w.Sound) {hashed : List Text} (hsub : w.hashed ⊆ hashed) :
    World.Sound { w with hashed } where
  entries := hw.entries.mono fun _ => Correct.mono hsub
  phases task ht := (hw.phases task ht).mono hsub
  salts := hw.salts

/-- A step of a crew keeps what every run keeps: `Moves.sound` for the document that takes the step,
and `Sound.mono` for all others. -/
theorem World.Sound.advance {w : World} (hw : w.Sound) {k : Nat} {c : Conditions} {j : Job} {p : Phase}
    (hk : (w.crew.advance k c).tasks[k]? = some (j, p)) :
    World.Sound ⟨w.crew.advance k c, p.inputs j ++ w.hashed⟩ := by
  have hsub : w.hashed ⊆ p.inputs j ++ w.hashed := List.subset_append_right _ _
  rcases w.crew.advance_cases k c with ⟨hnone, hself⟩ | ⟨j₀, p₀, p', hold, hmoves, hnew, hothers⟩
  · rw [hself] at hk ⊢
    exact hw.mono hsub
  · cases hnew.symm.trans hk
    have hmem := List.mem_of_getElem? hold
    obtain ⟨hp, hd⟩ := hmoves.sound (hw.phases _ hmem) hw.entries
    -- the documents are the old ones but for the one that moved
    have htask (task : Job × Phase) (ht : task ∈ (w.crew.advance k c).tasks) :
        task ∈ w.crew.tasks ∨ task = (j, p) := by
      obtain ⟨n, hn⟩ := List.mem_iff_getElem?.1 ht
      rcases Decidable.em (n = k) with rfl | hne
      · exact .inr (Option.some_inj.1 (hn.symm.trans hk))
      · exact .inl (List.mem_of_getElem? (hothers n hne ▸ hn))
    refine ⟨hd.mono fun _ => Correct.mono hsub, fun task ht => ?_, fun task ht => ?_⟩
    · rcases htask task ht with ht | rfl
      · exact (hw.phases task ht).mono hsub
      · exact hp
    · rcases htask task ht with ht | rfl
      · exact hw.salts task ht
      · exact hw.salts (j, p₀) hmem

/-- Whatever happens keeps the invariant, be it a step of a document, a change that somebody else
makes to the disk, or a command about the cache. -/
theorem Step.sound {w w' : World} (h : Step w w') (hw : w.Sound) : w'.Sound := by
  cases h with
  | edit hd => exact hw.onto fun db hdb => hw.entries db (hd db hdb)
  | @opened d cancelled path hopen =>
    have hkeeps := Cache.Entries.keeps_openFile (P := Correct w.hashed) cancelled path w.crew.disk
    rcases hopen with ⟨h, hopen⟩ | ⟨e, hopen⟩
    · exact hw.onto (hkeeps.1 h d hopen hw.entries)
    · exact hw.onto (hkeeps.2 e d hopen hw.entries)
  | @stored d h e text o hsource hoptions hscript hstore =>
    have hw' := hw.mono (List.subset_cons_of_subset text (List.subset_cons_self (optionsRecord o) _))
    exact hw'.onto (hw'.entries.store ⟨text, o, by simp, by simp, hsource, hoptions, hscript⟩ hstore)
  | pruned hprune => exact hw.onto (hw.entries.prune hprune)
  | @started j _ hsalt =>
    refine ⟨hw.entries, fun task ht => ?_, fun task ht => ?_⟩
    · rcases List.mem_append.1 ht with ht | ht
      · exact hw.phases task ht
      · rw [List.mem_singleton.1 ht]
        trivial
    · rcases List.mem_append.1 ht with ht | ht
      · exact hw.salts task ht
      · rw [List.mem_singleton.1 ht]
        exact hsalt
  | worked hk => exact hw.advance hk

/-- **The invariant holds after every run**, by induction on the run. -/
theorem Leads.sound {w w' : World} (h : Leads w w') (hw : w.Sound) : w'.Sound := by
  induction h with
  | refl => exact hw
  | step _ hstep ih => exact hstep.sound ih

/-! ## What happens to one document -/

/-- What can happen to a document: it is new, or nothing happens to it, or it makes a step. By these
three cases a claim about one document is carried through a run of many. -/
theorem Step.task {w w' : World} (h : Step w w') {k : Nat} {j : Job} {p' : Phase}
    (hk' : w'.crew.tasks[k]? = some (j, p')) :
    p' = .waiting ∨ w.crew.tasks[k]? = some (j, p') ∨
      ∃ p c, w.crew.tasks[k]? = some (j, p) ∧ j.Moves c p w.crew.disk p' w'.crew.disk := by
  cases h with
  | edit => exact .inr (.inl hk')
  | opened => exact .inr (.inl hk')
  | stored => exact .inr (.inl hk')
  | pruned => exact .inr (.inl hk')
  | started =>
    rcases Nat.lt_or_ge k w.crew.tasks.length with hlt | hge
    · rw [List.getElem?_append_left hlt] at hk'
      exact .inr (.inl hk')
    · rw [List.getElem?_append_right hge] at hk'
      cases List.mem_singleton.1 (List.mem_of_getElem? hk')
      exact .inl rfl
  | @worked m j₁ p₁ c hm =>
    rcases w.crew.advance_cases m c with ⟨-, hself⟩ | ⟨j₀, p₀, p, hold, hmoves, hnew, hothers⟩
    · exact .inr (.inl (hself ▸ hk'))
    · rcases Decidable.em (k = m) with rfl | hne
      · cases hnew.symm.trans hk'
        exact .inr (.inr ⟨p₀, c, hold, hmoves⟩)
      · exact .inr (.inl (hothers k hne ▸ hk'))

/-- The text that a document was found to have. -/
def Phase.text? : Phase → Option Text
  | .read text | .missed text | .made text _ | .ready text _ _ | .differing text _ _ | .done text _ =>
    some text
  | .waiting | .admitted | .failed _ => none

/-- A document keeps its text from the step on that reads it. No later step reads the file again, so
what the file holds by then does not matter. -/
theorem Job.Moves.text?_eq {j : Job} {c : Conditions} {p p' : Phase} {d d' : Disk Content}
    (h : j.Moves c p d p' d') {text : Text} (ht : p'.text? = some text) :
    p.text? = some text ∨
      p = .admitted ∧ p' = .read text ∧ ∃ content, d.read j.source = .ok content ∧
        content.asText = text := by
  cases h with
  | @read _ content hread =>
    cases ht
    exact .inr ⟨rfl, rfl, content, hread, rfl⟩
  | hit => exact .inl ht
  | miss => exact .inl ht
  | make => exact .inl ht
  | keep => exact .inl ht
  | forgo => exact .inl ht
  | same => exact .inl ht
  | differ => exact .inl ht
  | write => exact .inl ht
  | done => exact .inl ht
  | cancel => cases ht
  | refuse => cases ht
  | accept => cases ht
  | unread => cases ht
  | malformed => cases ht
  | unwritten => cases ht
  | failed => cases ht

/-- On the way from `start` to `w` the document was read, and this was its text. -/
def WasRead (start w : World) (k : Nat) (j : Job) (text : Text) : Prop :=
  ∃ w₁ w₂ content, Leads start w₁ ∧ Step w₁ w₂ ∧ Leads w₂ w ∧
    w₁.crew.tasks[k]? = some (j, .admitted) ∧ w₂.crew.tasks[k]? = some (j, .read text) ∧
    w₁.crew.disk.read j.source = .ok content ∧ content.asText = text

/-- What was read stays read, whatever happens afterwards. -/
theorem WasRead.step {start w w' : World} {k : Nat} {j : Job} {text : Text}
    (h : WasRead start w k j text) (hstep : Step w w') : WasRead start w' k j text := by
  obtain ⟨w₁, w₂, content, h₁, h₂, h₃, h⟩ := h
  exact ⟨w₁, w₂, content, h₁, h₂, h₃.step hstep, h⟩

/-- The text of a document is one that was read. -/
theorem Leads.wasRead {start w : World} (hidle : start.crew.tasks = []) (h : Leads start w) {k : Nat}
    {j : Job} {p : Phase} (hk : w.crew.tasks[k]? = some (j, p)) {text : Text}
    (ht : p.text? = some text) : WasRead start w k j text := by
  induction h generalizing p with
  | refl =>
    rw [hidle] at hk
    cases hk
  | @step w₁ w₂ hrun hstep ih =>
    rcases hstep.task hk with rfl | hold | ⟨p₀, c, hold, hmoves⟩
    · cases ht
    · exact (ih hold ht).step hstep
    · rcases hmoves.text?_eq ht with ht | ⟨rfl, rfl, content, hread, htext⟩
      · exact (ih hold ht).step hstep
      · exact ⟨w₁, w₂, content, hrun, hstep, .refl, hold, hk, hread, htext⟩

/-! ## Calls -/

/-- The steps of a document are something that may happen. -/
theorem Leads.advance {w₀ w : World} (h : Leads w₀ w) (k : Nat) (c : Conditions) :
    ∃ hashed, Leads w₀ ⟨w.crew.advance k c, hashed⟩ := by
  rcases w.crew.advance_cases k c with ⟨-, hself⟩ | ⟨j, p, p', -, -, hk, -⟩
  · exact ⟨w.hashed, by rw [hself]; exact h⟩
  · exact ⟨_, h.step (.worked hk)⟩

/-- Documents may be taken up at any time. -/
theorem Leads.start {w₀ w : World} (h : Leads w₀ w) {b : Builder} {i : Instant} {root : Text}
    (hvalid : b.options.validate = .ok ()) (hsalt : Files.slash ∉ i.moment.salt)
    (sources : List Text) :
    Leads w₀ { w with
      crew.tasks := w.crew.tasks ++ Crew.tasksOf b (fun _ => i) root sources } := by
  induction sources generalizing w with
  | nil => simpa [Crew.tasksOf] using h
  | cons source more ih =>
    have hfirst := h.step (.started (j := ⟨b, i, root, source⟩) hvalid hsalt)
    simpa [Crew.tasksOf] using ih hfirst

/-- A call for a directory is a run, and so what holds after every run holds after the call. The
call may be refused before it begins; then the run is an empty one. -/
theorem leads_buildDirectory (w : World) (b : Builder) {i : Instant}
    (hsalt : Files.slash ∉ i.moment.salt) (cancelled : Bool) (root : Text) :
    (∀ rs s', b.buildDirectory i cancelled root w.crew.site = .ok rs s' →
      ∃ w' after, Leads w w' ∧ w'.crew.disk = s'.disk ∧ w'.crew.tasks = w.crew.tasks ++ after ∧
        after.map (·.2.result?) = rs.map some) ∧
    ∀ e s', b.buildDirectory i cancelled root w.crew.site = .error e s' →
      ∃ w', Leads w w' ∧ w'.crew.disk = s'.disk := by
  rcases Builder.buildDirectory_cases b i cancelled root w.crew.site with
    ⟨hvalid, sources, hfound⟩ | ⟨e, hrefused⟩
  · rw [Builder.buildDirectory_eq hvalid hfound]
    have hstart : ∃ hashed, Leads w ⟨⟨w.crew.site,
        w.crew.tasks ++ Crew.tasksOf b (fun _ => i) root sources⟩, hashed⟩ :=
      ⟨_, Leads.refl.start hvalid hsalt sources⟩
    have hsteps (cr : Crew) (k : Nat) (h : ∃ hashed, Leads w ⟨cr, hashed⟩) :
        ∃ hashed, Leads w ⟨cr.advance k { cancelled }, hashed⟩ := by
      obtain ⟨hashed, h⟩ := h
      exact h.advance k _
    obtain ⟨hok, herror⟩ := Crew.buildAll_induction hsteps b i root sources w.crew.tasks w.crew.site
      hstart
    refine ⟨fun rs s' h => ?_, fun e s' h => ?_⟩
    · cases hb : b.buildAll i cancelled root sources w.crew.site with
      | error e s₁ => simp [hb] at h
      | ok rs₁ s₁ =>
        rw [hb] at h
        cases h
        obtain ⟨after, ⟨hashed, hleads⟩, -, hresults⟩ := hok _ _ hb
        exact ⟨_, after, hleads, rfl, rfl, hresults⟩
    · cases hb : b.buildAll i cancelled root sources w.crew.site with
      | ok rs₁ s₁ => simp [hb] at h
      | error e₁ s₁ =>
        rw [hb] at h
        cases h
        obtain ⟨after, ⟨hashed, hleads⟩, -⟩ := herror _ _ hb
        exact ⟨_, hleads, rfl⟩
  · rw [hrefused]
    exact ⟨fun rs s' h => (nomatch h), fun e s' h => by cases h; exact ⟨w, .refl, rfl⟩⟩

/-- How a document `j` that is built on its own from `w` on has got on. -/
structure Course (w : World) (j : Job) (p : Phase) (w' : World) : Prop where
  leads : Leads w w'
  tasks : w'.crew.tasks = w.crew.tasks ++ [(j, p)]
  disk : p = .waiting ∨ p = .admitted → w'.crew.disk = w.crew.disk
  text : ∀ text, p.text? = some text →
    ∃ content, w.crew.disk.read j.source = .ok content ∧ content.asText = text
  built : ∀ text r, p = .done text r → w.Sound → NoCollisions w'.hashed →
    ∃ script, j.IsBuilt w'.crew.disk text script r
  malformed : ∀ rel e, p = .failed (.malformed rel e) →
    ∃ content, w.crew.disk.read j.source = .ok content ∧
      scriptOf j.builder.options content.asText = .error e

/-- One more step of a document that is built on its own. What is said of the course is that the
text was read from the file and that the result belongs to it. -/
theorem Course.advance {w w₁ : World} {j : Job} {p : Phase} (h : Course w j p w₁) (c : Conditions) :
    ∃ p' hashed, Course w j p' ⟨w₁.crew.advance w.crew.tasks.length c, hashed⟩ := by
  have hk : w₁.crew.tasks[w.crew.tasks.length]? = some (j, p) := by simp [h.tasks]
  obtain ⟨p', hmoves, htasks, hk'⟩ := Crew.advance_moves c hk
  have htasks' : (w₁.crew.advance w.crew.tasks.length c).tasks = w.crew.tasks ++ [(j, p')] := by
    simp [htasks, h.tasks]
  have hleads := h.leads.step (.worked hk')
  refine ⟨p', _, hleads, htasks', ?_, ?_, ?_, ?_⟩
  · intro hp'
    obtain ⟨hp, hdisk⟩ := hmoves.unread_cases hp'
    exact hdisk.trans (h.disk (.inl hp))
  · intro text ht
    rcases hmoves.text?_eq ht with ht | ⟨rfl, rfl, content, hread, htext⟩
    · exact h.text text ht
    · rw [h.disk (.inr rfl)] at hread
      exact ⟨content, hread, htext⟩
  · rintro text r rfl hw hdigest
    rcases Classical.em (p = .done text r) with rfl | hne
    · have hdisk : (w₁.crew.advance w.crew.tasks.length c).disk = w₁.crew.disk := hmoves.of_done
      rw [hdisk]
      exact h.built text r rfl hw hdigest
    · have hw₁ := h.leads.sound hw
      have hmem := List.mem_of_getElem? hk
      exact hmoves.isBuilt hne (hw₁.phases _ hmem) hdigest (hw₁.salts _ hmem)
  · rintro rel e rfl
    rcases hmoves.malformed_cases with rfl | ⟨text, rfl, hscript⟩
    · exact h.malformed rel e rfl
    · obtain ⟨content, hread, rfl⟩ := h.text text rfl
      exact ⟨content, hread, hscript⟩

/-- A call for a file is a run, and it builds the text that the file had when the document was
read. -/
theorem leads_buildFile (w : World) (b : Builder) {i : Instant}
    (hsalt : Files.slash ∉ i.moment.salt) (cancelled : Bool) (source : Text) :
    (∀ r s', b.buildFile i cancelled source w.crew.site = .ok r s' →
      ∃ w' content, Leads w w' ∧ w'.crew.disk = s'.disk ∧ w.crew.disk.read source = .ok content ∧
        (w.Sound → NoCollisions w'.hashed → ∃ script,
          Job.IsBuilt ⟨b, i, Files.directory source, source⟩ s'.disk content.asText script r)) ∧
    ∀ e s', b.buildFile i cancelled source w.crew.site = .error e s' →
      ∃ w', Leads w w' ∧ w'.crew.disk = s'.disk ∧
        ∀ rel x, e = .malformed rel x → ∃ content, w.crew.disk.read source = .ok content ∧
          scriptOf b.options content.asText = .error x := by
  rcases Builder.buildFile_cases b i cancelled source w.crew.site with hvalid | ⟨p, hrefused⟩
  · rw [Builder.buildFile_eq hvalid]
    let j : Job := ⟨b, i, Files.directory source, source⟩
    obtain ⟨hok, herror⟩ := Job.drive_buildOne j cancelled w.crew.site
    -- the call puts its document behind all that are on their way already
    have hstart : ∃ p hashed, Course w j p ⟨⟨w.crew.site, w.crew.tasks ++ [(j, .waiting)]⟩, hashed⟩ :=
      ⟨.waiting, w.hashed, Leads.refl.step (.started hvalid hsalt), rfl, fun _ => rfl,
        fun _ h => (nomatch h), fun _ _ h => (nomatch h), fun _ _ h => (nomatch h)⟩
    have hk : (w.crew.tasks ++ [(j, Phase.waiting)])[w.crew.tasks.length]? = some (j, .waiting) := by
      simp
    have hset (p : Phase) : (w.crew.tasks ++ [(j, Phase.waiting)]).set w.crew.tasks.length (j, p) =
        w.crew.tasks ++ [(j, p)] := by simp
    -- what is known of the course is kept by each of the seven steps
    obtain ⟨hdone, hfailed⟩ := Crew.drive_induction (c := { cancelled })
      (R := fun cr => ∃ p hashed, Course w j p ⟨cr, hashed⟩) (fun cr ⟨p, hashed, h⟩ => h.advance _)
      hstart hk 7
    refine ⟨fun r s' h => ?_, fun e s' h => ?_⟩
    · obtain ⟨text, hdrive⟩ := hok r s' h
      obtain ⟨p, hashed, hcourse⟩ := hdone _ _ hdrive
      have hp : p = .done text r := by
        have := (hset _).symm.trans hcourse.tasks
        simpa using this.symm
      obtain ⟨content, hread, htext⟩ := hcourse.text text (by rw [hp]; rfl)
      refine ⟨_, content, hcourse.leads, rfl, hread, fun hw hdigest => ?_⟩
      rw [htext]
      exact hcourse.built text r hp hw hdigest
    · obtain ⟨p, hashed, hcourse⟩ := hfailed _ _ (herror e s' h)
      have hp : p = .failed e := by
        have := (hset _).symm.trans hcourse.tasks
        simpa using this.symm
      refine ⟨_, hcourse.leads, rfl, fun rel x he => ?_⟩
      exact hcourse.malformed rel x (hp.trans (congrArg _ he))
  · rw [hrefused]
    refine ⟨fun r s' h => (nomatch h), fun e s' h => ?_⟩
    cases h
    exact ⟨w, .refl, rfl, fun _ _ h => (nomatch h)⟩

/-! ## The cache does not show -/

/-- A world without entries in its caches and without documents is sound. -/
theorem World.sound_of_empty {w : World} (hempty : Cache.Entries (fun _ => False) w.crew.disk)
    (hidle : w.crew.tasks = []) : w.Sound where
  entries := hempty.mono fun _ h => h.elim
  phases task ht := by simp [hidle] at ht
  salts task ht := by simp [hidle] at ht

/-- Without a cache, the script of a document is that of its text. -/
theorem Builder.produce_of_no_cache {b : Builder} (hcache : b.cache = none) {i : Instant}
    {source rel text script : Text} (h : scriptOf b.options text = .ok script) (s : Site) :
    b.produce i source rel text s = .ok (script, false) s := by
  have hlook : b.lookUp source rel text s = .ok none s := by
    rw [Builder.lookUp, hcache]
    rfl
  have hkeep : b.keep i source rel text script s = .ok () s := by
    rw [Builder.keep, hcache]
    rfl
  refine Files.bind_eq_ok.2 ⟨none, s, hlook, ?_⟩
  dsimp only
  rw [h]
  exact Files.bind_eq_ok.2 ⟨(), s, hkeep, rfl⟩

/-- Caches that are empty at first do not show in what is built, whatever happens: documents change,
are built by builders with any options, targets and roots, one after the other or side by side, and
caches are opened, filled, cut and fail. A document that is built at some step has the script of the
text that was read for it, in its file and in what is told about it, and a document is malformed only
if that text is. A call for a file does the same with the text that the file had, and a call for a
directory is a run like all others. -/
theorem cache_transparent {start w : World}
    (hempty : Cache.Entries (fun _ => False) start.crew.disk) (hidle : start.crew.tasks = [])
    (hrun : Leads start w) :
    (∀ w' k j p, Step w w' → NoCollisions w'.hashed → w'.crew.tasks[k]? = some (j, p) →
      w.crew.tasks[k]? ≠ some (j, p) →
      (∀ text r, p = .done text r → WasRead start w k j text ∧
        ∃ script, j.IsBuilt w'.crew.disk text script r ∧
          ∀ s, { j.builder with cache := none }.produce j.instant j.source j.rel text s =
            .ok (script, false) s) ∧
      ∀ rel e, p = .failed (.malformed rel e) →
        ∃ text, WasRead start w k j text ∧ scriptOf j.builder.options text = .error e) ∧
    (∀ (b : Builder) (i : Instant) cancelled source, Files.slash ∉ i.moment.salt →
      (∀ r s', b.buildFile i cancelled source w.crew.site = .ok r s' →
        ∃ w' content, Leads w w' ∧ w'.crew.disk = s'.disk ∧ w.crew.disk.read source = .ok content ∧
          (NoCollisions w'.hashed → ∃ script,
            Job.IsBuilt ⟨b, i, Files.directory source, source⟩ s'.disk content.asText script r)) ∧
      ∀ e s', b.buildFile i cancelled source w.crew.site = .error e s' →
        ∃ w', Leads w w' ∧ w'.crew.disk = s'.disk ∧
          ∀ rel x, e = .malformed rel x → ∃ content, w.crew.disk.read source = .ok content ∧
            scriptOf b.options content.asText = .error x) ∧
    ∀ (b : Builder) (i : Instant) cancelled root, Files.slash ∉ i.moment.salt →
      (∀ rs s', b.buildDirectory i cancelled root w.crew.site = .ok rs s' →
        ∃ w' after, Leads w w' ∧ w'.crew.disk = s'.disk ∧ w'.crew.tasks = w.crew.tasks ++ after ∧
          after.map (·.2.result?) = rs.map some) ∧
      ∀ e s', b.buildDirectory i cancelled root w.crew.site = .error e s' →
        ∃ w', Leads w w' ∧ w'.crew.disk = s'.disk := by
  have hw : w.Sound := hrun.sound (World.sound_of_empty hempty hidle)
  refine ⟨fun w' k j p hstep hdigest hk hnew => ?_, fun b i cancelled source hsalt => ?_,
    fun b i cancelled root hsalt => leads_buildDirectory w b hsalt cancelled root⟩
  -- only the step of the document itself can have brought it here
  · rcases hstep.task hk with rfl | hold | ⟨p₀, c, hold, hmoves⟩
    · exact ⟨fun _ _ h => (nomatch h), fun _ _ h => (nomatch h)⟩
    · exact absurd hold hnew
    have hmem := List.mem_of_getElem? hold
    refine ⟨fun text r hp => ?_, fun rel e hp => ?_⟩
    · subst hp
      have hne : p₀ ≠ .done text r := fun h => hnew (h ▸ hold)
      -- it had its text before this step, from the one read of its file
      have htext : p₀.text? = some text := by
        rcases hmoves.text?_eq rfl with ht | ⟨-, h, -⟩
        · exact ht
        · cases h
      obtain ⟨script, hbuilt⟩ := hmoves.isBuilt hne ((hw.phases _ hmem).mono hstep.hashed_subset)
        hdigest (hw.salts _ hmem)
      exact ⟨hrun.wasRead hidle hold htext, script, hbuilt,
        Builder.produce_of_no_cache rfl hbuilt.scriptOf_eq⟩
    · subst hp
      rcases hmoves.malformed_cases with rfl | ⟨text, rfl, hscript⟩
      · exact absurd hold hnew
      · exact ⟨text, hrun.wasRead hidle hold rfl, hscript⟩
  · obtain ⟨hok, herror⟩ := leads_buildFile w b hsalt cancelled source
    refine ⟨fun r s' h => ?_, herror⟩
    obtain ⟨w', content, hleads, hdisk, hread, hbuilt⟩ := hok r s' h
    exact ⟨w', content, hleads, hdisk, hread, hbuilt hw⟩

/-! ## An example -/

namespace Sample

/-- A document. -/
def text : Text := Text.lit "# a\n"

/-- Its script. -/
def script : Text := Text.lit "label a:\n"

/-- A document without a script: an item of a list that starts with a quote. -/
def broken : Text := Text.lit "- > a\n"

/-- The usual options without a cast. -/
def options : Options := { Options.default with characters := none }

/-- A cache. -/
def handle : Cache.Handle := { path := Text.lit "c" }

/-- A disk with the document and the cache. -/
def disk (table : Cache.Table) : Disk Content where
  root := .directory [(Text.lit "a.md", .file (.text text)),
    (Text.lit "c", .file (.database { builds := some { table, hasRuns := true } }))]

/-- The document is to be built with the cache. -/
def job : Job where
  builder := { options, cache := some handle }
  instant := { now := 0, moment := ⟨Text.lit "0", Text.lit "1"⟩ }
  root := Text.lit "."
  source := Text.lit "a.md"

/-- Nothing has happened. -/
def start : World := ⟨⟨⟨disk [], []⟩, []⟩, []⟩

/-- The disk once the cache has the script. -/
def site : Site := ⟨disk [job.entry text script], []⟩

/-- The cache of the example is empty at first. -/
theorem entries_start : Cache.Entries (fun _ => False) start.crew.disk := by
  intro db hdb e he
  simp [start, Crew.disk, disk, Disk.contents, Files.Entry.contents, Files.Entry.contentsOf] at hdb
  simp [hdb, Cache.Database.entries] at he

/-- The example's document has a script. -/
theorem scriptOf_text : scriptOf options text = .ok script := by cbv

/-- The document of the example is taken up. -/
theorem next_waiting : job.next {} .waiting site = .ok .admitted site := rfl

/-- Taken up, it is read, and what is read is the text of the example. -/
theorem next_admitted : job.next {} .admitted site = .ok (.read text) site := rfl

/-- Its script is found in the cache, where the entry of the example is. -/
theorem next_read : job.next {} (.read text) site = .ok (.ready text script true) site :=
  Job.next_of_hit rfl rfl (Cache.Handle.lookup_eq_ok.2
    ⟨⟨[job.entry text script], true⟩, rfl, by simp [Cache.Table.lookup, Job.entry, job]⟩)

/-- The script is compared with the file that it belongs to, which is not there yet, and so it is
written. -/
theorem next_ready :
    job.next {} (.ready text script true) site = .ok (.differing text script true) site := rfl

/-- Both documents and the options have digests of their own. -/
theorem noCollisions : NoCollisions [text, broken, optionsRecord options] := by
  have hrecord : optionsRecord options =
      Text.lit "delim=\" - \"\nignore=\"\\\\\"\ncall=\"%\"\njump=\"=\"\n" := by cbv
  refine noCollisions_of_nodup ?_
  rw [hrecord]
  simp only [List.map_cons, List.map_nil, digest_eq]
  decide +kernel

/-- An entry is kept, and a document with its fingerprints is then built from the cache. -/
theorem cache_transparent_of_hit :
    ∃ w w' : World, Leads start w ∧ Step w w' ∧ NoCollisions w'.hashed ∧
      w.crew.tasks = [(job, .differing text script true)] ∧
      w'.crew.tasks = [(job, .done text (job.result script true true))] ∧
      ∃ script', job.IsBuilt w'.crew.disk text script' (job.result script true true) := by
  have hvalid : options.validate = .ok () := by cbv
  have hsalt : Files.slash ∉ job.instant.moment.salt := by decide
  have hkeep : handle.store false (job.entry text script) start.crew.disk = .ok site.disk := rfl
  obtain ⟨s, hwrite⟩ : ∃ s, job.next {} (.differing text script true) site =
      .ok (.done text (job.result script true true)) s := ⟨_, rfl⟩
  have hkept := (Leads.refl (w := start)).step (.stored rfl rfl scriptOf_text hkeep)
  have hstarted := hkept.step (.started (j := job) hvalid hsalt)
  have hadmitted := hstarted.step (.next (k := 0) rfl next_waiting)
  have hread := hadmitted.step (.next (k := 0) rfl next_admitted)
  have hready := hread.step (.next (k := 0) rfl next_read)
  have hdiffering := hready.step (.next (k := 0) rfl next_ready)
  have hlast := Step.next (k := 0) (w := ⟨⟨site, [(job, .differing text script true)]⟩,
    [text, optionsRecord options, text, optionsRecord options]⟩) rfl hwrite
  have hdigest : NoCollisions [text, optionsRecord options, text, optionsRecord options] :=
    noCollisions.mono (by simp)
  have hsteps := (cache_transparent entries_start rfl hdiffering).1 _ 0 job _ hlast hdigest rfl
    (by intro h; cases h)
  obtain ⟨-, script', hbuilt, -⟩ := hsteps.1 _ _ rfl
  exact ⟨_, _, hdiffering, hlast, hdigest, rfl, rfl, script', hbuilt⟩

end Sample

end NovelScript.Build
