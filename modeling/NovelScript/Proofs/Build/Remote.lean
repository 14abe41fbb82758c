import NovelScript.Build.Remote
import NovelScript.Proofs.Build.Transparency
import NovelScript.Proofs.Cache.Refinement

/-!
# A server does not show in what is built

A build with a cache on a server is compared with the same build without any cache. As long as the
rows of the server are correct, that is, as long as each holds the script of a text and of options
with the fingerprints of the row (`Correct`), both go the same way: what they give differs only in
where the script came from, and they leave the same disk. What the server refuses is told and does
not matter.

* `Follows` says of two pieces of work that they go the same way. Work in parts is compared part by
  part (`Follows.bind`).
* **`Job.follows_buildOne`** is the step: the build of a document with a server follows the build
  without a cache, and keeps the rows correct.
* **`play_perform`** is the run: documents are built, files change, and others ask the server for
  anything, to keep correct entries and to forget old ones among them.

Nothing is assumed of the server but that its statements mean what they say
(`Cache.Server.KeepsTable`); it need not answer any of them. As with a cache in a file, no two texts
of the run may share a digest.
-/

namespace NovelScript.Build

open Files (Disk)

/-! ## Work that goes the same way -/

section

variable {τ υ ε α β γ δ : Type} {R S : τ → υ → Prop} {Q : α → β → Prop} {Q' : γ → δ → Prop}

/-- From states that `R` relates, both pieces of work come to values that `Q` relates, or both fail
and say the same, and then `S` relates the states. -/
def Follows (R : τ → υ → Prop) (Q : α → β → Prop) (S : τ → υ → Prop) (w : EStateM ε τ α)
    (v : EStateM ε υ β) : Prop :=
  ∀ t u, R t u → (∃ a t' b u', w t = .ok a t' ∧ v u = .ok b u' ∧ Q a b ∧ S t' u') ∨
    ∃ e t' u', w t = .error e t' ∧ v u = .error e u' ∧ S t' u'

/-- Work in two parts is compared part by part. The first parts may need more of the states that
they start in than is kept from then on. -/
theorem Follows.bind {w : EStateM ε τ α} {v : EStateM ε υ β} {f : α → EStateM ε τ γ}
    {g : β → EStateM ε υ δ} (hw : Follows R Q S w v)
    (hf : ∀ a b, Q a b → Follows S Q' S (f a) (g b)) : Follows R Q' S (w >>= f) (v >>= g) := by
  intro t u htu
  rcases hw t u htu with ⟨a, t₁, b, u₁, ht, hu, hab, h₁⟩ | ⟨e, t₁, u₁, ht, hu, h₁⟩
  · rcases hf a b hab t₁ u₁ h₁ with ⟨c, t₂, d, u₂, ht₂, hu₂, hcd, h₂⟩ | ⟨e, t₂, u₂, ht₂, hu₂, h₂⟩
    · exact .inl ⟨c, t₂, d, u₂, Files.bind_eq_ok.2 ⟨a, t₁, ht, ht₂⟩,
        Files.bind_eq_ok.2 ⟨b, u₁, hu, hu₂⟩, hcd, h₂⟩
    · exact .inr ⟨e, t₂, u₂, Files.bind_eq_error.2 (.inr ⟨a, t₁, ht, ht₂⟩),
        Files.bind_eq_error.2 (.inr ⟨b, u₁, hu, hu₂⟩), h₂⟩
  · exact .inr ⟨e, t₁, u₁, Files.bind_eq_error.2 (.inl ht), Files.bind_eq_error.2 (.inl hu), h₁⟩

/-- Values that are related need no work, and nothing is touched. -/
theorem Follows.pure {a : α} {b : β} (h : Q a b) :
    Follows R Q R (pure a : EStateM ε τ α) (pure b : EStateM ε υ β) :=
  fun t u htu => .inl ⟨a, t, b, u, rfl, rfl, h, htu⟩

/-- Work that fails for one and the same cause fails the same way. -/
theorem Follows.throw (e : ε) :
    Follows R Q R (throw e : EStateM ε τ α) (throw e : EStateM ε υ β) :=
  fun t u htu => .inr ⟨e, t, u, rfl, rfl, htu⟩

/-- What is known of the states at the start may be more than is needed. -/
theorem Follows.mono {R' : τ → υ → Prop} {w : EStateM ε τ α} {v : EStateM ε υ β}
    (h : Follows R Q S w v) (hR : ∀ t u, R' t u → R t u) : Follows R' Q S w v :=
  fun t u htu => h t u (hR t u htu)

end

/-! ## Work that looks at the disk only -/

/-- The sites have the same disk. What was told may differ. -/
def SameDisk (s u : Site) : Prop :=
  s.disk = u.disk

/-- What is told does not show, neither to what goes on nor on the disk. -/
theorem follows_tell (m n : Note) :
    Follows SameDisk (fun _ _ => True) SameDisk (tell m) (tell n) :=
  fun _ _ hsu => .inl ⟨(), _, (), _, rfl, rfl, trivial, hsu⟩

/-- Sites with the same disk are seen as such. -/
theorem follows_get : Follows SameDisk SameDisk SameDisk (get : Building Site) get :=
  fun s u hsu => .inl ⟨s, s, u, u, rfl, rfl, hsu, hsu⟩

/-- Work on the disk of a site starts from the disk alone and ends with a disk. -/
theorem follows_onDisk {ε β : Type} (wrap : ε → Failure) (w : Disk.Work Content ε β) :
    Follows SameDisk (· = ·) SameDisk (onDisk wrap w) (onDisk wrap w) := by
  intro s u hsu
  rw [onDisk_eq, onDisk_eq, hsu]
  cases w u.disk with
  | ok b d => exact .inl ⟨_, _, _, _, rfl, rfl, rfl, rfl⟩
  | error e d => exact .inr ⟨_, _, _, rfl, rfl, rfl⟩

/-- A document has the same text on both sites. -/
theorem follows_readSource (source : Text) :
    Follows SameDisk (· = ·) SameDisk (readSource source) (readSource source) := by
  intro s u hsu
  rw [readSource_eq, readSource_eq, hsu]
  cases u.disk.read source with
  | ok c => exact .inl ⟨_, _, _, _, rfl, rfl, rfl, hsu⟩
  | error e => exact .inr ⟨_, _, _, rfl, rfl, hsu⟩

/-- A script is there already on both sites or on none, and it is written to the same disk. -/
theorem follows_settle (b : Builder) (i : Instant) (output script : Text) :
    Follows SameDisk (· = ·) SameDisk (b.settle i output script) (b.settle i output script) := by
  unfold Builder.settle
  refine follows_get.bind fun s u hsu => ?_
  rw [show s.disk = u.disk from hsu]
  dsimp only
  split_ifs
  · exact .pure rfl
  · refine (follows_onDisk _ _).bind fun _ _ _ => ?_
    exact .pure rfl

/-! ## Builds with a server -/

section

variable {σ : Type} {s : Cache.Server σ} {table : σ → Cache.Table} {Sure : Cache.Step → Prop}
  {hashed : List Text}

/-- The rows of a table are correct. -/
def AllCorrect (hashed : List Text) (t : Cache.Table) : Prop :=
  ∀ e ∈ t, Correct hashed e

/-- The site of a build with a server has the same disk as a site, and the rows of the server are
correct. -/
def Accords (table : σ → Cache.Table) (hashed : List Text) (t : Remote σ) (u : Site) : Prop :=
  SameDisk t.site u ∧ AllCorrect hashed (table t.server)

/-- Work that looks at the disk only may be done beside a server. -/
theorem Follows.onSite {α : Type} {Q : α → α → Prop} {w v : Building α}
    (h : Follows SameDisk Q SameDisk w v) :
    Follows (Accords table hashed) Q (Accords table hashed) (Remote.onSite w) v := by
  rintro t u ⟨hdisk, hrows⟩
  unfold Remote.onSite
  rcases h t.site u hdisk with ⟨a, s', b, u', hw, hv, hab, hsu⟩ | ⟨e, s', u', hw, hv, hsu⟩
  · rw [hw]
    exact .inl ⟨a, _, b, u', rfl, hv, hab, hsu, hrows⟩
  · rw [hw]
    exact .inr ⟨e, _, u', rfl, hv, hsu, hrows⟩

/-- **What anyone asks of a server keeps its rows correct**, when only correct entries are offered:
nothing but an offer brings a row, and whatever is refused brings none. -/
theorem allCorrect_perform (hs : s.KeepsTable table Sure) (step : Cache.Step)
    (hstep : ∀ e, step.Keeps e → Correct hashed e) {st : σ}
    (hrows : AllCorrect hashed (table st)) :
    AllCorrect hashed (table ((s.service.perform step).after st)) := by
  have hserves := Cache.serves_server hs
  have hsame (st' : σ) (h : some (table st') = some (table st)) :
      AllCorrect hashed (table st') := by
    rwa [Option.some_inj.1 h]
  cases step with
  | store now o =>
    cases ho : Text.isBlank o.path with
    | true =>
      have hblank : s.service.perform (.store now o) st = .error .noPath st :=
        hserves.blank st now ho
      rwa [Cache.Work.after, hblank]
    | false =>
      refine (hserves.store rfl now ho).after (fun _ st' hafter => ?_) hsame
      rw [Option.some_inj.1 hafter]
      intro e he
      rcases Cache.Table.mem_store he with rfl | he
      · exact hstep _ rfl
      · exact hrows e he
  | prune cutoff =>
    refine ((hserves.prune rfl cutoff).imp fun _ _ h => h.2).forget.after (fun _ st' hafter => ?_)
      hsame
    rw [Option.some_inj.1 hafter]
    exact fun e he => hrows e (List.mem_of_mem_filter he)
  | lookup path source options =>
    exact ((hserves.lookup rfl path source options).imp fun _ _ h => h.2).forget.after
      (fun _ => hsame) hsame
  | stats => exact ((hserves.stats rfl).imp fun _ _ h => h.1).forget.after (fun _ => hsame) hsame

/-- What is found on a server for a document is the script of its text, when the rows are correct. A
server that refuses the question has found nothing. -/
theorem lookUp_remote (hs : s.KeepsTable table Sure) (hdigest : NoCollisions hashed) {b : Builder}
    {text : Text} (htext : text ∈ hashed) (ho : optionsRecord b.options ∈ hashed) (i : Instant)
    (source rel : Text) {t : Remote σ} {u : Site} (htu : Accords table hashed t u) :
    ∃ found t', (b.remoteMeans s i).lookUp source rel text t = .ok found t' ∧
      Accords table hashed t' u ∧
      ∀ script, found = some script → scriptOf b.options text = .ok script := by
  obtain ⟨hdisk, hrows⟩ := htu
  obtain ⟨hok, herror⟩ := ((Cache.serves_server hs).lookup rfl rel
    (sourceFingerprint text) (optionsFingerprint b.options)).1 _ rfl
  cases hlook : s.lookup rel (sourceFingerprint text) (optionsFingerprint b.options) t.server with
  | ok found st' =>
    obtain ⟨hfound, hsame⟩ := hok found st' hlook
    have hserver : Remote.onServer (s.lookup rel (sourceFingerprint text)
        (optionsFingerprint b.options)) t = .ok (.ok found) { t with server := st' } := by
      unfold Remote.onServer
      rw [hlook]
    refine ⟨_, _, Files.bind_eq_ok.2 ⟨_, _, hserver, rfl⟩, ⟨hdisk, ?_⟩, fun script hscript => ?_⟩
    · rwa [Option.some_inj.1 hsame]
    · obtain ⟨e, he, -, hsource, hoptions, rfl⟩ := Cache.Table.exists_of_lookup (hfound ▸ hscript)
      exact (hrows e he).scriptOf_eq hdigest htext ho hsource hoptions
  | error e st' =>
    have hserver : Remote.onServer (s.lookup rel (sourceFingerprint text)
        (optionsFingerprint b.options)) t = .ok (.error e) { t with server := st' } := by
      unfold Remote.onServer
      rw [hlook]
    refine ⟨none, _, Files.bind_eq_ok.2 ⟨_, _, hserver, rfl⟩, ⟨hdisk, ?_⟩, fun _ h => nomatch h⟩
    rwa [Option.some_inj.1 (herror e st' hlook)]

/-- A script that was made of the text brings a correct row to the server, or none. A server that
refuses to keep the row has changed nothing, by what is assumed about it, and the build goes on as
if it had. -/
theorem keep_remote (hs : s.KeepsTable table Sure) {b : Builder} {text script : Text}
    (htext : text ∈ hashed) (ho : optionsRecord b.options ∈ hashed)
    (hscript : scriptOf b.options text = .ok script) (i : Instant) (source rel : Text)
    {t : Remote σ} {u : Site} (htu : Accords table hashed t u) :
    ∃ t', (b.remoteMeans s i).keep source rel text script t = .ok () t' ∧
      Accords table hashed t' u := by
  obtain ⟨hdisk, hrows⟩ := htu
  let o : Cache.Offer :=
    { path := rel, source := sourceFingerprint text, options := optionsFingerprint b.options
      output := script, run := b.run }
  have hafter : AllCorrect hashed (table ((s.keep i.now o).after t.server)) := by
    refine allCorrect_perform hs (.store i.now o) ?_ hrows
    rintro e rfl
    exact ⟨text, b.options, htext, ho, rfl, rfl, hscript⟩
  unfold Cache.Work.after at hafter
  cases hkeep : s.keep i.now o t.server with
  | ok a st' =>
    have hserver : Remote.onServer (s.keep i.now o) t = .ok (.ok ()) { t with server := st' } := by
      unfold Remote.onServer
      rw [hkeep]
    rw [hkeep] at hafter
    exact ⟨_, Files.bind_eq_ok.2 ⟨_, _, hserver, rfl⟩, hdisk, hafter⟩
  | error e st' =>
    have hserver : Remote.onServer (s.keep i.now o) t = .ok (.error e) { t with server := st' } := by
      unfold Remote.onServer
      rw [hkeep]
    rw [hkeep] at hafter
    exact ⟨_, Files.bind_eq_ok.2 ⟨_, _, hserver, rfl⟩, hdisk, hafter⟩

/-- **A document gets the same script with a server and without a cache**, or is malformed with both:
what is found is what would have been made. -/
theorem follows_produce (hs : s.KeepsTable table Sure) (hdigest : NoCollisions hashed) (b : Builder)
    {text : Text} (htext : text ∈ hashed) (ho : optionsRecord b.options ∈ hashed) (i : Instant)
    (source rel : Text) :
    Follows (Accords table hashed) (fun x y => y = (x.1, false)) (Accords table hashed)
      ((b.remoteMeans s i).produce b source rel text)
      ({ b with cache := none }.produce i source rel text) := by
  intro t u htu
  obtain ⟨found, t₁, hlook, h₁, hfound⟩ := lookUp_remote hs hdigest htext ho i source rel htu
  unfold Means.produce
  cases hscript : scriptOf b.options text with
  | ok script =>
    have halone := @Builder.produce_of_no_cache { b with cache := none } rfl i source rel text script
      hscript u
    cases found with
    | some script' =>
      cases hscript.symm.trans (hfound script' rfl)
      exact .inl ⟨(script, true), t₁, _, u, Files.bind_eq_ok.2 ⟨_, _, hlook, rfl⟩, halone, rfl, h₁⟩
    | none =>
      obtain ⟨t₂, hkeep, h₂⟩ := keep_remote hs htext ho hscript i source rel h₁
      exact .inl ⟨(script, false), t₂, _, u, Files.bind_eq_ok.2 ⟨_, _, hlook,
        Files.bind_eq_ok.2 ⟨_, _, hkeep, rfl⟩⟩, halone, rfl, h₂⟩
  | error e =>
    cases found with
    | some script' => cases hscript.symm.trans (hfound script' rfl)
    | none =>
      have halone : { b with cache := none }.produce i source rel text u =
          .error (.malformed rel e) u := by
        refine Files.bind_eq_error.2 (.inr ⟨none, u, rfl, ?_⟩)
        dsimp only
        rw [hscript]
        rfl
      exact .inr ⟨.malformed rel e, t₁, u, Files.bind_eq_error.2 (.inr ⟨_, _, hlook, rfl⟩), halone, h₁⟩

/-- A document that is read beside a server has the same text, one of those that may be digested.
Reading does not ask the server for anything. -/
theorem follows_readSource_remote (source : Text) :
    Follows
      (fun t u => Accords table hashed t u ∧
        ∀ c, u.disk.read source = .ok c → Content.asText c ∈ hashed)
      (fun text text' => text = text' ∧ text ∈ hashed) (Accords table hashed)
      (Remote.onSite (readSource source)) (readSource source) := by
  rintro t u ⟨htu, hread⟩
  rcases (follows_readSource source).onSite t u htu with
    ⟨text, t', text', u', ht, hu, rfl, h'⟩ | hfailed
  · refine .inl ⟨text, t', text, u', ht, hu, ⟨rfl, ?_⟩, h'⟩
    rw [readSource_eq] at hu
    cases hcontent : u.disk.read source with
    | ok c =>
      rw [hcontent] at hu
      cases hu
      exact hread c hcontent
    | error e =>
      rw [hcontent] at hu
      cases hu
  · exact .inr hfailed

/-- **The build of a document with a server follows the build without a cache.** Both succeed or both
fail and say the same; what is told about the document differs only in where its script came from;
the disk is the same and the rows of the server are correct again. -/
theorem Job.follows_buildOne (hs : s.KeepsTable table Sure) (hdigest : NoCollisions hashed) (j : Job)
    (ho : optionsRecord j.builder.options ∈ hashed) (cancelled : Bool) :
    Follows
      (fun t u => Accords table hashed t u ∧
        ∀ c, u.disk.read j.source = .ok c → Content.asText c ∈ hashed)
      (fun r r' => r' = { r with cached := false }) (Accords table hashed)
      ((j.builder.remoteMeans s j.instant).buildOne j.builder j.instant cancelled j.root j.source)
      ({ j.builder with cache := none }.buildOne j.instant cancelled j.root j.source) := by
  cases cancelled with
  | true => exact (Follows.throw _).mono fun t u h => h.1
  | false =>
    unfold Builder.buildOne Means.buildOne
    cases hpath : j.builder.target.path? j.root j.source with
    | none => exact (Follows.throw _).mono fun t u h => h.1
    | some output =>
      refine (follows_readSource_remote j.source).bind fun text text' ⟨htexts, htext⟩ => ?_
      subst htexts
      refine (follows_produce hs hdigest j.builder htext ho j.instant j.source j.rel).bind
        fun x y hxy => ?_
      subst hxy
      refine (follows_settle j.builder j.instant output x.1).onSite.bind fun written written' h => ?_
      subst h
      refine (follows_tell _ _).onSite.bind fun _ _ _ => ?_
      exact .pure rfl

/-! ## Runs -/

/-- What may happen around a server. -/
inductive Deed where
  /-- A document is built, or its build is called off. -/
  | build (j : Job) (cancelled : Bool)
  /-- Files and directories change in any way. -/
  | edit (d : Disk Content)
  /-- Somebody asks the server for something. -/
  | ask (step : Cache.Step)

/-- What is said when a document is built, and what the work is left with. -/
def outcome {τ : Type} : EStateM.Result Failure τ Result → Option (Except Failure Result) × τ
  | .ok r t => (some (.ok r), t)
  | .error e t => (some (.error e), t)

namespace Deed

/-- What is said and what happens to a site and a server. -/
def perform (s : Cache.Server σ) (t : Remote σ) : Deed → Option (Except Failure Result) × Remote σ
  | .build j cancelled =>
    outcome ((j.builder.remoteMeans s j.instant).buildOne j.builder j.instant cancelled j.root
      j.source t)
  | .edit d => (none, { t with site.disk := d })
  | .ask step => (none, { t with server := (s.service.perform step).after t.server })

/-- What is said and what happens to a site when nobody has a cache. -/
def alone (u : Site) : Deed → Option (Except Failure Result) × Site
  | .build j cancelled =>
    outcome ({ j.builder with cache := none }.buildOne j.instant cancelled j.root j.source u)
  | .edit d => (none, { u with disk := d })
  | .ask _ => (none, u)

/-- The options and the text of a document that is built are among the texts that may be digested,
and what is offered to the server is correct. -/
def Fits (hashed : List Text) (u : Site) : Deed → Prop
  | .build j _ => optionsRecord j.builder.options ∈ hashed ∧
      ∀ c, u.disk.read j.source = .ok c → Content.asText c ∈ hashed
  | .edit _ => True
  | .ask step => ∀ e, step.Keeps e → Correct hashed e

/-- What is said, but for where a script came from. -/
def said (x : Option (Except Failure Result)) : Option (Except Failure Result) :=
  x.map (Except.map fun r => { r with cached := false })

/-- **One deed does the same with a server and without a cache.** This is the step of the induction
over a play; it goes through the deeds one by one, and those which are no builds are the same on
both sides. -/
theorem perform_alone (hs : s.KeepsTable table Sure) (hdigest : NoCollisions hashed) {t : Remote σ}
    {u : Site} (htu : Accords table hashed t u) {deed : Deed} (hfits : deed.Fits hashed u) :
    (deed.alone u).1 = said (deed.perform s t).1 ∧
      Accords table hashed (deed.perform s t).2 (deed.alone u).2 := by
  cases deed with
  | build j cancelled =>
    obtain ⟨ho, hread⟩ := hfits
    have hperform : perform s t (.build j cancelled) =
        outcome ((j.builder.remoteMeans s j.instant).buildOne j.builder j.instant cancelled j.root
          j.source t) := rfl
    have halone : alone u (.build j cancelled) =
        outcome ({ j.builder with cache := none }.buildOne j.instant cancelled j.root j.source u) :=
      rfl
    rw [hperform, halone]
    rcases j.follows_buildOne hs hdigest ho cancelled t u ⟨htu, hread⟩ with
      ⟨r, t', r', u', ht, hu, rfl, h'⟩ | ⟨e, t', u', ht, hu, h'⟩
    · rw [ht, hu]
      exact ⟨rfl, h'⟩
    · rw [ht, hu]
      exact ⟨rfl, h'⟩
  | edit d => exact ⟨rfl, rfl, htu.2⟩
  | ask step => exact ⟨rfl, htu.1, allCorrect_perform hs step hfits htu.2⟩

end Deed

/-- What is said in a row of deeds, and what the last one leaves behind. -/
def play {τ : Type} (f : τ → Deed → Option (Except Failure Result) × τ) (t : τ) :
    List Deed → List (Option (Except Failure Result)) × τ
  | [] => ([], t)
  | deed :: more => ((f t deed).1 :: (play f (f t deed).2 more).1, (play f (f t deed).2 more).2)

/-- All deeds of a row fit to the sites in front of them. -/
def Fitting (hashed : List Text) (u : Site) : List Deed → Prop
  | [] => True
  | deed :: more => deed.Fits hashed u ∧ Fitting hashed (deed.alone u).2 more

/-- **A server does not show in what is built.** Documents are built one after the other, with any
options, targets and roots, files change in between, and others use the server: to keep correct
entries, to forget old ones, to look. With the server everything is said that is said without a
cache, but for where the scripts came from, and the disk is the same at the end. The server may
refuse whatever it is asked. -/
theorem play_perform (hs : s.KeepsTable table Sure) (hdigest : NoCollisions hashed) {t : Remote σ}
    {u : Site} (htu : Accords table hashed t u) {deeds : List Deed}
    (hfitting : Fitting hashed u deeds) :
    (play Deed.alone u deeds).1 = (play (Deed.perform s) t deeds).1.map Deed.said ∧
      (play (Deed.perform s) t deeds).2.site.disk = (play Deed.alone u deeds).2.disk ∧
      AllCorrect hashed (table (play (Deed.perform s) t deeds).2.server) := by
  induction deeds generalizing t u with
  | nil => exact ⟨rfl, htu⟩
  | cons deed more ih =>
    obtain ⟨hfits, hmore⟩ := hfitting
    obtain ⟨hsaid, hbeside⟩ := deed.perform_alone hs hdigest htu hfits
    obtain ⟨hwords, hrest⟩ := ih hbeside hmore
    refine ⟨?_, hrest⟩
    unfold play
    rw [hsaid, hwords, List.map_cons]

end

end NovelScript.Build
