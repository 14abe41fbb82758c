import NovelScript.Proofs.Files.Atomic
import NovelScript.Proofs.Files.Standing

/-!
# Replacing a file on disks that look alike

Whether a file can be replaced, and what the disk is afterwards, depends only on what stands at the
places that are written and on whether files are in the way above them. Directories above may be
there or not: they are made.

* **`Disk.Alike`** says that two disks look alike from some places.
* **`parallel_writeAtomic`** says that a replacement succeeds on both of two such disks or on none,
  and that they look alike again, however it ends.
* **`keeps_spares_writeAtomic`** says what a replacement leaves alone, however it ends.
-/

namespace NovelScript.Files

/-! ## Work side by side -/

section

variable {ε σ β γ : Type} {R S T E : σ → σ → Prop} {x : EStateM ε σ β} {f : β → EStateM ε σ γ}

/-- In states that `R` relates, the work ends well in both with the same result, and `S` relates the
states, or it ends badly in both, and `E` does. -/
def Parallel (R S E : σ → σ → Prop) (x : EStateM ε σ β) : Prop :=
  ∀ s t, R s t → (∃ b s' t', x s = .ok b s' ∧ x t = .ok b t' ∧ S s' t') ∨
    ∃ e s' e' t', x s = .error e s' ∧ x t = .error e' t' ∧ E s' t'

/-- Two runs in a row may be compared part by part: the relation behind the first part is the one in
front of the second. -/
theorem Parallel.bind (hx : Parallel R S E x) (hf : ∀ b, Parallel S T E (f b)) :
    Parallel R T E (x >>= f) := by
  intro s t hst
  rcases hx s t hst with ⟨b, s₁, t₁, hs, ht, hb⟩ | ⟨e, s₁, e', t₁, hs, ht, he⟩
  · rcases hf b s₁ t₁ hb with ⟨c, s₂, t₂, hs₂, ht₂, hc⟩ | ⟨e, s₂, e', t₂, hs₂, ht₂, he⟩
    · exact .inl ⟨c, s₂, t₂, bind_eq_ok.2 ⟨b, s₁, hs, hs₂⟩, bind_eq_ok.2 ⟨b, t₁, ht, ht₂⟩, hc⟩
    · exact .inr ⟨e, s₂, e', t₂, bind_eq_error.2 (.inr ⟨b, s₁, hs, hs₂⟩),
        bind_eq_error.2 (.inr ⟨b, t₁, ht, ht₂⟩), he⟩
  · exact .inr ⟨e, s₁, e', t₁, bind_eq_error.2 (.inl hs), bind_eq_error.2 (.inl ht), he⟩

/-- A value that needs no work is the same on both sides. -/
theorem Parallel.pure (b : β) : Parallel R R E (pure b : EStateM ε σ β) :=
  fun s t hst => .inl ⟨b, s, t, rfl, rfl, hst⟩

/-- A failure with the same cause on both sides leaves them as they were. -/
theorem Parallel.throw (e : ε) : Parallel E S E (throw e : EStateM ε σ β) :=
  fun s t hst => .inr ⟨e, s, e, t, rfl, rfl, hst⟩

/-- What two runs have in common may be asked for more strictly in front and claimed more loosely
behind. -/
theorem Parallel.mono {R' S' E' : σ → σ → Prop} (hx : Parallel R S E x)
    (hR : ∀ s t, R' s t → R s t) (hS : ∀ s t, S s t → S' s t) (hE : ∀ s t, E s t → E' s t) :
    Parallel R' S' E' x := by
  intro s t hst
  rcases hx s t (hR s t hst) with ⟨b, s₁, t₁, hs, ht, hb⟩ | ⟨e, s₁, e', t₁, hs, ht, he⟩
  · exact .inl ⟨b, s₁, t₁, hs, ht, hS _ _ hb⟩
  · exact .inr ⟨e, s₁, e', t₁, hs, ht, hE _ _ he⟩

/-- To name a failure otherwise does not change whether there is one. -/
theorem Parallel.adaptExcept {ε' : Type} (g : ε → ε') (hx : Parallel R S E x) :
    Parallel R S E (x.adaptExcept g) := by
  intro s t hst
  rcases hx s t hst with ⟨b, s₁, t₁, hs, ht, hb⟩ | ⟨e, s₁, e', t₁, hs, ht, he⟩
  · exact .inl ⟨b, s₁, t₁, by rw [EStateM.adaptExcept, hs], by rw [EStateM.adaptExcept, ht], hb⟩
  · exact .inr ⟨_, s₁, _, t₁, by rw [EStateM.adaptExcept, hs], by rw [EStateM.adaptExcept, ht], he⟩

end

/-! ## Paths that end in a name -/

/-- A spelling that goes up only at its start and ends in a name that an entry can have. -/
structure Leaf (path : Text) : Prop where
  direct : isDirect path = true
  proper : Proper (splitLast path).2

/-- A path that ends in a proper name is not spelled like that of a directory, so nothing about a
directory is asked of it. -/
theorem Leaf.plain {path : Text} (h : Leaf path) : isPlain path = true := by
  have hproper := h.proper
  rcases splitLast_cases path with hs | ⟨up, name, hpath, hs⟩
  · rw [hs] at hproper
    exact isPlain_proper hproper
  · rw [hs] at hproper
    have hdirect := h.direct
    rw [hpath, isDirect_append hproper] at hdirect
    rw [hpath]
    exact isPlain_append hproper hdirect

/-- Such a path means the entry of its last name in its directory. -/
theorem Leaf.place {path : Text} (h : Leaf path) (home : List Text) :
    placeOf home path = placeOf home (directory path) ++ [(splitLast path).2] := by
  rw [placeOf_splitLast, enter_of_proper h.proper]

/-- What a name is joined to stands in front of it, whatever the name is. -/
theorem exists_join_eq {a : Text} (ha : a ≠ []) :
    ∃ lead, IsLead lead ∧ ∀ name, Proper name → join a name = lead ++ name := by
  obtain ⟨lead, hlead, hspell⟩ :=
    exists_lead (Path.ofText a).rooted (Path.ofText a).names
  refine ⟨lead, hlead, fun name hname => ?_⟩
  rw [← clean_join ha name, clean, ofText_join ha hname, hspell]

/-- A proper name joined to a path ends it, and can be split off again. -/
theorem leaf_join {a name : Text} (ha : a ≠ []) (hname : Proper name) :
    Leaf (join a name) ∧ (splitLast (join a name)).2 = name := by
  obtain ⟨lead, hlead, hjoin⟩ := exists_join_eq ha
  have hsplit : splitLast (join a name) = (lead, name) := by
    rw [hjoin name hname]
    exact splitLast_lead hlead hname.2.1
  refine ⟨⟨?_, by rwa [hsplit]⟩, by rw [hsplit]⟩
  rw [← clean_join ha name]
  exact isDirect_clean _

section

variable {path : Text} {m : Moment}

/-- The path under which a replacement is prepared ends in a proper name. -/
theorem leaf_temporaryPath (h : Leaf path) (hsalt : slash ∉ m.salt) :
    Leaf (temporaryPath path m.salt) :=
  (leaf_join (directory_ne_nil path) (proper_temporaryName (proper_base h.proper).2.1 hsalt)).1

/-- The path of a copy ends in a proper name as well. The stamp must not bring a slash into it,
which no stamp does. -/
theorem leaf_backupPath (h : Leaf path) (hstamp : slash ∉ m.stamp) :
    Leaf (backupPath path m.stamp) :=
  (leaf_join (backupDirectory_ne_nil _) (proper_copyName (proper_base h.proper).2.1 hstamp)).1

end

/-! ## Disks that look alike -/

namespace Disk

variable {α : Type}

/-- Two disks with the same working directory look alike from the places `ps`: the same stands there
on both, and files are in the way above on both or on none. The directories `dirs` are there on
both. -/
structure Alike (home : List Text) (dirs ps : List (List Text)) (d d' : Disk α) : Prop where
  home_eq : d.home = home
  home_eq' : d'.home = home
  dirs : ∀ p ∈ home :: dirs, d.look p = some none ∧ d'.look p = some none
  standing : ∀ p ∈ ps, d'.stack p = d.stack p
  files : ∀ p ∈ ps, ∀ q, q <+: p → q ≠ p → (d'.fileAt q).isSome = (d.fileAt q).isSome

/-- None of some places is above another one, or above one of the directories or among them. -/
structure Separate (home : List Text) (dirs ps : List (List Text)) : Prop where
  chain : ∀ p ∈ ps, ∀ q ∈ ps, p <+: q → p = q
  dirs : ∀ p ∈ ps, ∀ q ∈ home :: dirs, ¬ p <+: q

section

variable {home : List Text} {dirs ps : List (List Text)} {d d' d₁ : Disk α} {path : Text}

namespace Alike

/-- What two disks have in common at some places does not depend on which one is named first. -/
theorem symm (h : Alike home dirs ps d d') : Alike home dirs ps d' d where
  home_eq := h.home_eq'
  home_eq' := h.home_eq
  dirs p hp := (h.dirs p hp).symm
  standing p hp := (h.standing p hp).symm
  files p hp q hq hne := (h.files p hp q hq hne).symm

/-- Disks that look alike one after the other look alike altogether. -/
theorem trans (h : Alike home dirs ps d d') (h' : Alike home dirs ps d' d₁) :
    Alike home dirs ps d d₁ where
  home_eq := h.home_eq
  home_eq' := h'.home_eq'
  dirs p hp := ⟨(h.dirs p hp).1, (h'.dirs p hp).2⟩
  standing p hp := (h'.standing p hp).trans (h.standing p hp)
  files p hp q hq hne := (h'.files p hp q hq hne).trans (h.files p hp q hq hne)

/-- The working directory is there on every disk that is compared. -/
theorem look_home (h : Alike home dirs ps d d') : d.look d.home = some none := by
  rw [h.home_eq]
  exact (h.dirs home List.mem_cons_self).1

/-- On a disk that is compared, a path leads where it leads from the common working directory. So
both sides work at one and the same place. -/
theorem place_eq (h : Alike home dirs ps d d') (path : Text) : d.place path = placeOf home path := by
  rw [place, h.home_eq]

/-- What stands at the places is the same file, or none. -/
theorem fileAt_eq (h : Alike home dirs ps d d') {p : List Text} (hp : p ∈ ps) (more : List Text) :
    d'.fileAt (p ++ more) = d.fileAt (p ++ more) := by
  rw [fileAt, fileAt, Entry.fileAt, Entry.fileAt, Entry.look, Entry.look, Entry.get?_append,
    Entry.get?_append, get?_eq_of_stack (h.standing p hp)]

/-- A directory less is known to be there. -/
theorem forget {dir : List Text} (h : Alike home (dir :: dirs) ps d d') : Alike home dirs ps d d' where
  home_eq := h.home_eq
  home_eq' := h.home_eq'
  dirs p hp := by
    refine h.dirs p ?_
    rcases List.mem_cons.1 hp with rfl | hp
    · exact List.mem_cons_self
    · exact List.mem_cons_of_mem _ (List.mem_cons_of_mem _ hp)
  standing := h.standing
  files := h.files

/-- The same entry is put at one of the places, and the disks go on looking alike. That the places
are separate is needed here: putting an entry at one of them must not reach another one that lies
below it. -/
theorem put (h : Alike home dirs ps d d') (hsep : Separate home dirs ps) (new : Option (Entry α))
    {dir : List Text} {name : Text} (hdir : dir ∈ home :: dirs) (hp : dir ++ [name] ∈ ps) :
    Alike home dirs ps (d.put new (dir ++ [name])) (d'.put new (dir ++ [name])) where
  home_eq := h.home_eq
  home_eq' := h.home_eq'
  dirs p hmem := by
    have hnot := hsep.dirs _ hp p hmem
    exact ⟨(Entry.look_set_of_not_isPrefix new hnot).trans (h.dirs p hmem).1,
      (Entry.look_set_of_not_isPrefix new hnot).trans (h.dirs p hmem).2⟩
  standing p hmem := by
    by_cases hpre : dir ++ [name] <+: p
    -- of the places only the changed one is at or below it
    · cases hsep.chain _ hp p hmem hpre
      refine (Entry.stack_set_append new name (h.dirs dir hdir).2).trans ?_
      refine Eq.trans ?_ (Entry.stack_set_append new name (h.dirs dir hdir).1).symm
      exact congrArg (fun l => new.toList ++ l.tail) (h.standing _ hp)
    · have hpre' : ¬ p <+: dir ++ [name] := by
        intro hpre'
        cases hsep.chain p hmem _ hp hpre'
        exact hpre (List.prefix_refl _)
      refine (Entry.stack_set_of_apart new hpre hpre').trans ?_
      exact (h.standing p hmem).trans (Entry.stack_set_of_apart new hpre hpre').symm
  files p hmem q hq hne := by
    have hnot : ¬ dir ++ [name] <+: q := by
      intro hpre
      cases hsep.chain _ hp p hmem (hpre.trans hq)
      exact hne (hq.eq_of_length_le hpre.length_le)
    have hd : (d.put new (dir ++ [name])).fileAt q = d.fileAt q :=
      Entry.fileAt_set_of_not_isPrefix new hnot
    have hd' : (d'.put new (dir ++ [name])).fileAt q = d'.fileAt q :=
      Entry.fileAt_set_of_not_isPrefix new hnot
    rw [hd, hd']
    exact h.files p hmem q hq hne

end Alike

/-! ## Operations side by side -/

/-- **One change on both disks.** When it succeeds on one exactly if it succeeds on the other, and
what it leaves is related, then it may stand in a run that is compared. -/
theorem parallel_change {ε : Type} {R S E : Disk α → Disk α → Prop}
    {f : Disk α → Except DiskError (Disk α)} (wrap : DiskError → ε)
    (hok : ∀ d d', R d d' → ((∃ d₁, f d = .ok d₁) ↔ ∃ d₁, f d' = .ok d₁))
    (hS : ∀ d d' d₁ d₁', R d d' → f d = .ok d₁ → f d' = .ok d₁' → S d₁ d₁')
    (hE : ∀ d d', R d d' → E d d') : Parallel R S E (change wrap f) := by
  intro d d' h
  cases hd : f d with
  | ok d₁ =>
    obtain ⟨d₁', hd'⟩ := (hok d d' h).1 ⟨d₁, hd⟩
    exact .inl ⟨(), d₁, d₁', by rw [change, hd], by rw [change, hd'], hS d d' d₁ d₁' h hd hd'⟩
  | error e =>
    cases hd' : f d' with
    | ok d₁' =>
      obtain ⟨d₁, hd₁⟩ := (hok d d' h).2 ⟨d₁', hd'⟩
      cases hd.symm.trans hd₁
    | error e' =>
      exact .inr ⟨_, d, _, d', by rw [change, hd], by rw [change, hd'], hE d d' h⟩

/-- The directory of one of the places is not below any of them. -/
theorem Separate.cons (hsep : Separate home dirs ps) (hleaf : Leaf path)
    (hp : placeOf home path ∈ ps) : Separate home (placeOf home (directory path) :: dirs) ps where
  chain := hsep.chain
  dirs p hmem q hq := by
    rw [hleaf.place] at hp
    rcases List.mem_cons.1 hq with rfl | hq
    · exact hsep.dirs p hmem _ List.mem_cons_self
    · rcases List.mem_cons.1 hq with rfl | hq
      · intro hpre
        cases hsep.chain p hmem _ hp (hpre.trans (List.prefix_append _ _))
        have := hpre.length_le
        rw [List.length_append, List.length_singleton] at this
        omega
      · exact hsep.dirs p hmem q (List.mem_cons_of_mem _ hq)

/-- The directory of one of the places is made, with all above it, on both disks or on none. Whether
this succeeds depends on what stands on the way, and the way is among the places that look alike. -/
theorem parallel_makeAll {ε : Type} (hsep : Separate home dirs ps) (wrap : DiskError → ε)
    (hleaf : Leaf path) (hp : placeOf home path ∈ ps) :
    Parallel (Alike (α := α) home dirs ps) (Alike home (placeOf home (directory path) :: dirs) ps)
      (Alike home dirs ps) (change wrap (·.makeAll (directory path))) := by
  have hsep' := hsep.cons hleaf hp
  have habove : placeOf home (directory path) <+: placeOf home path := by
    rw [hleaf.place]
    exact List.prefix_append _ _
  have hnot {q : List Text} (hq : q ∈ ps) : ¬ q <+: placeOf home (directory path) :=
    hsep'.dirs q hq _ (List.mem_cons_of_mem _ List.mem_cons_self)
  -- whether it can be made is a matter of files on the way, which are the same
  have hmake {d d' : Disk α} (h : Alike home dirs ps d d')
      (hd : ∃ d₁, d.makeAll (directory path) = .ok d₁) : ∃ d₁, d'.makeAll (directory path) = .ok d₁ := by
    obtain ⟨d₁, hd₁⟩ := hd
    obtain ⟨hspelled, hfree, -⟩ := (makeAll_spec h.look_home _).2 d₁ hd₁
    refine (makeAll_spec h.symm.look_home _).1 hspelled fun q hq => ?_
    rw [h.symm.place_eq] at hq
    have hstrict : q ≠ placeOf home path := by
      rintro rfl
      exact hnot hp hq
    have hsame := h.files _ hp q (hq.trans habove) hstrict
    rw [hfree q (by rw [h.place_eq]; exact hq)] at hsame
    simpa using hsame
  refine parallel_change wrap (fun d d' h => ⟨hmake h, hmake h.symm⟩) ?_ fun d d' h => h
  intro d d' d₁ d₁' h hd₁ hd₁'
  -- made on both, and nothing else has changed on either
  obtain ⟨hhome, hfiles⟩ := makeAll_ok hd₁
  obtain ⟨hhome', hfiles'⟩ := makeAll_ok hd₁'
  obtain ⟨-, -, hdir, hstacks⟩ := (makeAll_spec h.look_home _).2 d₁ hd₁
  obtain ⟨-, -, hdir', hstacks'⟩ := (makeAll_spec h.symm.look_home _).2 d₁' hd₁'
  rw [h.place_eq] at hdir hstacks
  rw [h.symm.place_eq] at hdir' hstacks'
  refine ⟨hhome.trans h.home_eq, hhome'.trans h.home_eq', fun q hq => ?_, fun q hq => ?_,
    fun q hq r hr hrq => ?_⟩
  · have hold (hq : q ∈ home :: dirs) : d₁.look q = some none ∧ d₁'.look q = some none :=
      ⟨look_makeAll hd₁ (h.dirs q hq).1, look_makeAll hd₁' (h.dirs q hq).2⟩
    rcases List.mem_cons.1 hq with rfl | hq
    · exact hold List.mem_cons_self
    · rcases List.mem_cons.1 hq with rfl | hq
      · exact ⟨hdir, hdir'⟩
      · exact hold (List.mem_cons_of_mem _ hq)
  · rw [hstacks q (hnot hq), hstacks' q (hnot hq)]
    exact h.standing q hq
  · rw [hfiles, hfiles']
    exact h.files q hq r hr hrq

/-- What stands at one of the places is found on both disks or on none. -/
theorem Alike.find (h : Alike home dirs ps d d') (hleaf : Leaf path) (hp : placeOf home path ∈ ps)
    (e : Entry α) : d'.find path = .ok e ↔ d.find path = .ok e := by
  rw [find_isOk h.look_home hleaf.plain, find_isOk h.symm.look_home hleaf.plain, h.place_eq,
    h.symm.place_eq, get?_eq_of_stack (h.standing _ hp)]

/-- Whether a file is there is the same on disks that look alike at its place. -/
theorem Alike.isThere (h : Alike home dirs ps d d') (hleaf : Leaf path)
    (hp : placeOf home path ∈ ps) : d'.isThere path = d.isThere path := by
  rw [Bool.eq_iff_iff, isThere_iff h.look_home hleaf.plain, isThere_iff h.symm.look_home hleaf.plain,
    h.place_eq, h.symm.place_eq, look_eq_of_stack (h.standing _ hp)]

/-- A file is written at one of the places on both disks or on none, and what is written is the
same. -/
theorem parallel_write {ε : Type} (hsep : Separate home dirs ps) (wrap : DiskError → ε) (c : α)
    (hleaf : Leaf path) (hp : placeOf home path ∈ ps)
    (hdir : placeOf home (directory path) ∈ home :: dirs) :
    Parallel (Alike home dirs ps)
      (fun d d' => Alike home dirs ps d d' ∧ d.find path = .ok (.file c)) (Alike home dirs ps)
      (change wrap (·.write path c)) := by
  have hplace := hleaf.place home
  rw [hplace] at hp
  have hiff {d d' : Disk α} (h : Alike home dirs ps d d') : (∃ d₁, d.write path c = .ok d₁) ↔
      Spelled path ∧ d.look (placeOf home path) ≠ some none := by
    rw [write_isOk h.look_home hleaf.plain, h.place_eq, hplace, List.dropLast_concat,
      (h.dirs _ hdir).1]
    simp
  refine parallel_change wrap (fun d d' h => ?_) ?_ fun d d' h => h
  · rw [hiff h, hiff h.symm, hplace, look_eq_of_stack (h.standing _ hp)]
  · intro d d' d₁ d₁' h hd₁ hd₁'
    have hspelled := ((hiff h).1 ⟨d₁, hd₁⟩).1
    obtain ⟨-, rfl⟩ := write_eq_ok hd₁
    obtain ⟨-, rfl⟩ := write_eq_ok hd₁'
    rw [h.place_eq, h.symm.place_eq, hplace]
    have hafter := h.put hsep (some (.file c)) hdir hp
    refine ⟨hafter, (find_isOk hafter.look_home hleaf.plain).2 ⟨hspelled, ?_⟩⟩
    rw [hafter.place_eq, hplace]
    simpa [Entry.get?, put] using
      Entry.get?_set_append (.file c) (splitLast path).2 (h.dirs _ hdir).1 []

/-- What stands at one of the places is taken away on both disks or on none, since it is the same on
both. -/
theorem Alike.remove (h : Alike home dirs ps d d') (hsep : Separate home dirs ps)
    (hleaf : Leaf path) (hp : placeOf home path ∈ ps)
    (hdir : placeOf home (directory path) ∈ home :: dirs) :
    Alike home dirs ps ((d.remove path).toOption.getD d) ((d'.remove path).toOption.getD d') := by
  have hiff : (∃ d₁, d'.remove path = .ok d₁) ↔ ∃ d₁, d.remove path = .ok d₁ := by
    rw [remove_isOk h.look_home hleaf.plain, remove_isOk h.symm.look_home hleaf.plain, h.place_eq,
      h.symm.place_eq, get?_eq_of_stack (h.standing _ hp)]
  cases hd : d.remove path with
  | ok d₁ =>
    obtain ⟨d₁', hd'⟩ := hiff.2 ⟨d₁, hd⟩
    rw [hd']
    obtain ⟨-, rfl⟩ := remove_eq_ok hd
    obtain ⟨-, rfl⟩ := remove_eq_ok hd'
    rw [h.place_eq, h.symm.place_eq]
    rw [hleaf.place] at hp ⊢
    exact h.put hsep none hdir hp
  | error e =>
    cases hd' : d'.remove path with
    | ok d₁' =>
      obtain ⟨d₁, hd₁⟩ := hiff.1 ⟨d₁', hd'⟩
      cases hd.symm.trans hd₁
    | error e' => exact h

/-! ## Replacements side by side -/

variable {empty : α}

/-- To copy what was found takes the same course on both disks: a file is written, and a directory
cannot be copied. -/
theorem parallel_copyFound {target : Text} (hsep : Separate home dirs ps) (hleaf : Leaf target)
    (hp : placeOf home target ∈ ps) (entry : Entry α) :
    Parallel (Alike home dirs ps) (Alike home dirs ps) (Alike home dirs ps)
      (copyFound empty target entry) := by
  have hsep' := hsep.cons hleaf hp
  have hforget (d d' : Disk α) (h : Alike home (placeOf home (directory target) :: dirs) ps d d') :
      Alike home dirs ps d d' := h.forget
  have hwrite (c : α) := parallel_write hsep' id c hleaf hp
    (List.mem_cons_of_mem _ List.mem_cons_self)
  refine (parallel_makeAll hsep id hleaf hp).bind fun _ => ?_
  cases entry with
  | file content => exact (hwrite content).mono (fun _ _ h => h) (fun _ _ h => h.1.forget) hforget
  | directory es =>
    refine ((hwrite empty).mono (fun _ _ h => h) (fun _ _ h => h.1.forget) hforget).bind fun _ => ?_
    exact Parallel.throw _

/-- Copying one path to another takes the same course on disks that look alike at both places. -/
theorem parallel_copy {source target : Text} (hsep : Separate home dirs ps) (hsource : Leaf source)
    (hps : placeOf home source ∈ ps) (htarget : Leaf target) (hpt : placeOf home target ∈ ps) :
    Parallel (Alike home dirs ps) (Alike home dirs ps) (Alike home dirs ps)
      (copy empty source target) := by
  intro d d' h
  rw [copy_eq, copy_eq]
  cases hd : d.find source with
  | ok entry =>
    rw [(h.find hsource hps entry).2 hd]
    exact parallel_copyFound hsep htarget hpt entry d d' h
  | error c =>
    cases hd' : d'.find source with
    | ok entry => cases hd.symm.trans ((h.find hsource hps entry).1 hd')
    | error c' => exact .inr ⟨_, d, _, d', rfl, rfl, h⟩

/-- **Putting a copy aside** takes the same course on disks that look alike at the place of the file
and of its copy: nothing is there to be copied on either side, or one copy is made on both. -/
theorem parallel_keepBackup {m : Moment} (hsep : Separate home dirs ps) (hleaf : Leaf path)
    (hstamp : slash ∉ m.stamp) (hp : placeOf home path ∈ ps)
    (hpb : placeOf home (backupPath path m.stamp) ∈ ps) :
    Parallel (Alike home dirs ps) (Alike home dirs ps) (Alike home dirs ps)
      (keepBackup empty m path) := by
  intro d d' h
  have heq (d : Disk α) : keepBackup empty m path d =
      if d.isThere path then
        ((copy empty path (backupPath path m.stamp)).adaptExcept (.backup (base path))) d
      else .ok () d := by
    rw [keepBackup]
    change (if d.isThere path then _ else _ : EStateM _ _ _) d = _
    cases d.isThere path <;> rfl
  rw [heq, heq, h.isThere hleaf hp]
  split
  · exact (parallel_copy hsep hleaf hp (leaf_backupPath hleaf hstamp) hpb).adaptExcept _ d d' h
  · exact .inl ⟨(), d, d', rfl, rfl, h⟩

/-- A file is moved to one of the places, in the same directory, on both disks or on none. Only
moves within one directory are compared, because a replacement makes no other one. -/
theorem Alike.rename {temporary : Text} {c : α} (h : Alike home dirs ps d d')
    (hsep : Separate home dirs ps) (htemp : Leaf temporary) (hpt : placeOf home temporary ∈ ps)
    (hleaf : Leaf path) (hp : placeOf home path ∈ ps)
    (hsame : placeOf home (directory temporary) = placeOf home (directory path))
    (hne : placeOf home temporary ≠ placeOf home path)
    (hdir : placeOf home (directory path) ∈ home :: dirs)
    (hfile : d.find temporary = .ok (.file c)) :
    (∃ d₁ d₁', d.rename temporary path = .ok d₁ ∧ d'.rename temporary path = .ok d₁' ∧
      Alike home dirs ps d₁ d₁') ∨
    ∃ e e', d.rename temporary path = .error e ∧ d'.rename temporary path = .error e' := by
  have hapart : ¬ placeOf home temporary <+: placeOf home path := fun hpre =>
    hne (hsep.chain _ hpt _ hp hpre)
  -- the two cases for one of the disks; the other one is in the same case
  have hmoves {d d' : Disk α} (h : Alike home dirs ps d d')
      (hfile : d.find temporary = .ok (.file c)) (hspelled : Spelled path)
      (hno : d.look (placeOf home path) ≠ some none) :=
    rename_isOk h.look_home hleaf.plain hfile hspelled
      (by rw [h.place_eq, hleaf.place, List.dropLast_concat]; exact (h.dirs _ hdir).1)
      (by rwa [h.place_eq]) (by rwa [h.place_eq, h.place_eq])
  have hstays {d d' : Disk α} (h : Alike home dirs ps d d')
      (hnot : ¬ (Spelled path ∧ d.look (placeOf home path) ≠ some none)) :
      ∃ e, d.rename temporary path = .error e := by
    cases hd : d.rename temporary path with
    | error e => exact ⟨e, rfl⟩
    | ok d₁ =>
      obtain ⟨x, p, -, hp, hlook, -⟩ := rename_eq_ok hd
      rw [h.place_eq] at hlook
      exact absurd ⟨spelled_of_locate h.look_home hleaf.plain hp, hlook⟩ hnot
  have hlook := look_eq_of_stack (h.standing _ hp)
  by_cases hgo : Spelled path ∧ d.look (placeOf home path) ≠ some none
  · left
    refine ⟨_, _, hmoves h hfile hgo.1 hgo.2,
      hmoves h.symm ((h.find htemp hpt _).2 hfile) hgo.1 (by rw [hlook]; exact hgo.2), ?_⟩
    -- a move is a file taken away and put down, each at one of the places
    simp only [h.place_eq, h.symm.place_eq]
    rw [htemp.place, hsame] at hpt ⊢
    rw [hleaf.place] at hp ⊢
    exact (h.put hsep none hdir hpt).put hsep _ hdir hp
  · right
    obtain ⟨e, he⟩ := hstays h hgo
    obtain ⟨e', he'⟩ := hstays h.symm (by rw [hlook]; exact hgo)
    exact ⟨e, e', he, he'⟩

/-- **Moving a prepared file into place** takes the same course, and this includes the way out: when
the move fails, the target is removed and the move is made again. -/
theorem parallel_moveIntoPlace {temporary : Text} {c : α} (hsep : Separate home dirs ps)
    (htemp : Leaf temporary) (hpt : placeOf home temporary ∈ ps) (hleaf : Leaf path)
    (hp : placeOf home path ∈ ps)
    (hsame : placeOf home (directory temporary) = placeOf home (directory path))
    (hne : placeOf home temporary ≠ placeOf home path)
    (hdir : placeOf home (directory path) ∈ home :: dirs) :
    Parallel (fun d d' => Alike home dirs ps d d' ∧ d.find temporary = .ok (.file c))
      (Alike home dirs ps) (Alike home dirs ps)
      (moveIntoPlace temporary path : Work α WriteFailure Unit) := by
  rintro d d' ⟨h, hfile⟩
  have hdirt : placeOf home (directory temporary) ∈ home :: dirs := by
    rw [hsame]
    exact hdir
  have hrename {d d' : Disk α} (h : Alike home dirs ps d d')
      (hfile : d.find temporary = .ok (.file c)) :=
    h.rename hsep htemp hpt hleaf hp hsame hne hdir hfile
  rcases hrename h hfile with ⟨d₁, d₁', hd, hd', h₁⟩ | ⟨e, e', hd, hd'⟩
  · exact .inl ⟨(), d₁, d₁', by rw [moveIntoPlace, hd], by rw [moveIntoPlace, hd'], h₁⟩
  -- what stands in the way is taken away
  have h₁ : Alike home dirs ps (if d.isThere path then (d.remove path).toOption.getD d else d)
      (if d'.isThere path then (d'.remove path).toOption.getD d' else d') := by
    rw [h.isThere hleaf hp]
    split
    · exact h.remove hsep hleaf hp hdir
    · exact h
  have hstack : (if d.isThere path then (d.remove path).toOption.getD d else d).stack
      (placeOf home temporary) = d.stack (placeOf home temporary) := by
    split
    · cases hrem : d.remove path with
      | error e => rfl
      | ok d₂ =>
        obtain ⟨-, rfl⟩ := remove_eq_ok hrem
        refine Entry.stack_set_of_apart none ?_ ?_ <;> rw [h.place_eq] <;> intro hpre
        · exact hne (hsep.chain _ hp _ hpt hpre).symm
        · exact hne (hsep.chain _ hpt _ hp hpre)
    · rfl
  obtain ⟨hspelled, hget⟩ := (find_isOk h.look_home htemp.plain).1 hfile
  rw [h.place_eq] at hget
  rw [moveIntoPlace, moveIntoPlace, hd, hd']
  dsimp only
  generalize (if d.isThere path then (d.remove path).toOption.getD d else d) = d₁ at h₁ hstack
  generalize (if d'.isThere path then (d'.remove path).toOption.getD d' else d') = d₁' at h₁
  have hfile₁ : d₁.find temporary = .ok (.file c) :=
    (find_isOk h₁.look_home htemp.plain).2
      ⟨hspelled, by rw [h₁.place_eq, get?_eq_of_stack hstack, hget]⟩
  have hfailed := h₁.remove hsep htemp hpt hdirt
  rw [h₁.isThere hleaf hp]
  by_cases hthere : d₁.isThere path = true
  · rw [if_pos hthere, if_pos hthere]
    exact .inr ⟨_, _, _, _, rfl, rfl, hfailed⟩
  · rw [if_neg hthere, if_neg hthere]
    rcases hrename h₁ hfile₁ with ⟨d₂, d₂', hd₂, hd₂', h₂⟩ | ⟨e₂, e₂', hd₂, hd₂'⟩
    · rw [hd₂, hd₂']
      exact .inl ⟨(), d₂, d₂', rfl, rfl, h₂⟩
    · rw [hd₂, hd₂']
      exact .inr ⟨_, _, _, _, rfl, rfl, hfailed⟩

end

end Disk

open Disk

variable {α : Type} {home : List Text} {ps : List (List Text)} {path : Text} {m : Moment}
  {backup : Bool}

/-- The places that a replacement writes. -/
def writtenBy (home : List Text) (m : Moment) (backup : Bool) (path : Text) : List (List Text) :=
  placeOf home path :: placeOf home (temporaryPath path m.salt) ::
    if backup then [placeOf home (backupPath path m.stamp)] else []

/-- On disks that look alike from the places that are written, a replacement succeeds on both or on
none, and they look alike again. -/
theorem parallel_writeAtomic {empty : α} (hleaf : Leaf path) (hsalt : slash ∉ m.salt)
    (hstamp : slash ∉ m.stamp) (hsep : Separate home [] (writtenBy home m backup path)) (c : α) :
    Parallel (Alike home [] (writtenBy home m backup path))
      (Alike home [] (writtenBy home m backup path)) (Alike home [] (writtenBy home m backup path))
      (writeAtomic empty m backup path c) := by
  have htemp := leaf_temporaryPath hleaf hsalt
  have hp : placeOf home path ∈ writtenBy home m backup path := List.mem_cons_self
  have hpt : placeOf home (temporaryPath path m.salt) ∈ writtenBy home m backup path :=
    List.mem_cons_of_mem _ List.mem_cons_self
  obtain ⟨name, hname, hplace⟩ := placeOf_temporaryPath hsalt home path
  have hsame : placeOf home (directory (temporaryPath path m.salt)) =
      placeOf home (directory path) := by
    have := (htemp.place home).symm.trans hplace
    exact (List.append_inj' this rfl).1
  have hne : placeOf home (temporaryPath path m.salt) ≠ placeOf home path := by
    rw [hplace, hleaf.place]
    simpa using hname
  have hsep' := hsep.cons hleaf hp
  have hdir : placeOf home (directory path) ∈ home :: placeOf home (directory path) :: [] :=
    List.mem_cons_of_mem _ List.mem_cons_self
  have hdirt : placeOf home (directory (temporaryPath path m.salt)) ∈
      home :: placeOf home (directory path) :: [] := by
    rw [hsame]
    exact hdir
  -- the directory of the file is there from the first part on, which the end does not promise
  have hforget (d d' : Disk α)
      (h : Alike home [placeOf home (directory path)] (writtenBy home m backup path) d d') :
      Alike home [] (writtenBy home m backup path) d d' := h.forget
  rw [writeAtomic_eq]
  split
  · exact Parallel.throw _
  -- the four parts in turn: the directory, the copy, the new content, the move
  refine (parallel_makeAll hsep _ hleaf hp).bind fun _ => ?_
  refine Parallel.bind (S := Alike home [placeOf home (directory path)]
    (writtenBy home m backup path)) ?_ fun _ => ?_
  · split
    · rename_i hbackup
      have hpb : placeOf home (backupPath path m.stamp) ∈ writtenBy home m backup path := by
        simp [writtenBy, hbackup]
      exact (parallel_keepBackup hsep' hleaf hstamp hp hpb).mono (fun _ _ h => h) (fun _ _ h => h)
        hforget
    · exact Parallel.pure _
  · refine ((parallel_write hsep' _ c htemp hpt hdirt).mono (fun _ _ h => h)
      (fun _ _ h => h) hforget).bind fun _ => ?_
    exact (parallel_moveIntoPlace hsep' htemp hpt hleaf hp hsame hne hdir).mono (fun _ _ h => h)
      hforget hforget

/-! ## What a replacement leaves alone -/

namespace Disk

/-- What work at the places `ps` leaves alone: what stands neither above nor below them, and files
that are not below them. -/
structure Spared (home : List Text) (ps : List (List Text)) (d d' : Disk α) : Prop where
  home_eq : d'.home = home
  look_home : d'.look home = some none
  standing : ∀ p, (∀ q ∈ ps, ¬ q <+: p ∧ ¬ p <+: q) → d'.stack p = d.stack p
  files : ∀ p, (∀ q ∈ ps, ¬ q <+: p) → d'.fileAt p = d.fileAt p

/-- Where the working directory is there, work at the places `ps` leaves everything else alone. -/
def Spares (home : List Text) (ps : List (List Text)) (d d' : Disk α) : Prop :=
  d.home = home → d.look home = some none → Spared home ps d d'

variable {d d' d₁ : Disk α}

/-- Nothing is touched when nothing is done. -/
theorem Spares.refl (home : List Text) (ps : List (List Text)) (d : Disk α) : Spares home ps d d :=
  fun hhome hlook => ⟨hhome, hlook, fun _ _ => rfl, fun _ _ => rfl⟩

/-- What is left alone twice in a row is left alone. -/
theorem Spares.trans (h : Spares home ps d d') (h' : Spares home ps d' d₁) : Spares home ps d d₁ := by
  intro hhome hlook
  have h := h hhome hlook
  have h' := h' h.home_eq h.look_home
  exact ⟨h'.home_eq, h'.look_home, fun p hp => (h'.standing p hp).trans (h.standing p hp),
    fun p hp => (h'.files p hp).trans (h.files p hp)⟩

/-- A change at one of the places leaves everything at all others alone. -/
theorem Spares.put (hsep : Separate home [] ps) (new : Option (Entry α)) {path : Text}
    (hp : placeOf home path ∈ ps) : Spares home ps d (d.put new (d.place path)) := by
  intro hhome hlook
  rw [place, hhome]
  refine ⟨hhome, ?_, fun p hmem => ?_, fun p hmem => ?_⟩
  · rw [← hlook]
    exact Entry.look_set_of_not_isPrefix new (hsep.dirs _ hp home List.mem_cons_self)
  · exact Entry.stack_set_of_apart new (hmem _ hp).1 (hmem _ hp).2
  · exact Entry.fileAt_set_of_not_isPrefix new (hmem _ hp)

/-- Making the directories on the way to a file brings empty directories and nothing else. -/
theorem spares_makeAll (hleaf : Leaf path) (hp : placeOf home path ∈ ps)
    (h : d.makeAll (directory path) = .ok d') : Spares home ps d d' := by
  intro hhome hlook
  obtain ⟨hsame, hfiles⟩ := makeAll_ok h
  obtain ⟨-, -, -, hstacks⟩ := (makeAll_spec (by rwa [hhome]) _).2 d' h
  refine ⟨hsame.trans hhome, look_makeAll h hlook, fun p hmem => hstacks p fun hpre => ?_,
    fun p _ => hfiles p⟩
  refine (hmem _ hp).2 (hpre.trans ?_)
  rw [hleaf.place, ← hhome]
  exact List.prefix_append _ _

end Disk

section

variable {empty : α}

/-- So making them may stand in a run that is to leave the rest of the disk alone. -/
theorem keeps_spares_makeAll {ε : Type} (wrap : DiskError → ε) (hleaf : Leaf path)
    (hp : placeOf home path ∈ ps) :
    Keeps (Spares (α := α) home ps) (change wrap (·.makeAll (directory path))) :=
  keeps_change (Spares.refl home ps) wrap fun _ _ => spares_makeAll hleaf hp

/-- Writing a file changes its own place. -/
theorem keeps_spares_write {ε : Type} (hsep : Separate home [] ps) (wrap : DiskError → ε)
    (hp : placeOf home path ∈ ps) (c : α) :
    Keeps (Spares home ps) (change wrap (·.write path c)) := by
  refine keeps_change (Spares.refl home ps) wrap fun d d' h => ?_
  rw [(write_eq_ok h).2]
  exact Spares.put hsep _ hp

/-- Copying a file changes the place of the copy. A copy is two writes, first of an empty file, and
a failure may come between them. -/
theorem keeps_spares_copy {source target : Text} (hsep : Separate home [] ps) (htarget : Leaf target)
    (hp : placeOf home target ∈ ps) : Keeps (Spares home ps) (copy empty source target) := by
  have hrefl := Spares.refl (α := α) home ps
  have hfound (entry : Entry α) : Keeps (Spares home ps) (copyFound empty target entry) := by
    refine (keeps_spares_makeAll id htarget hp).bind Spares.trans fun _ => ?_
    cases entry with
    | file content => exact keeps_spares_write hsep id hp content
    | directory es =>
      exact (keeps_spares_write hsep id hp empty).bind Spares.trans fun _ => Keeps.throw hrefl _
  intro d
  rw [copy_eq]
  split
  · refine ⟨fun u d' h => (nomatch h), fun e d' h => ?_⟩
    cases h
    exact hrefl d
  · exact hfound _ d

/-- Moving a file into place changes the two places between which it is moved, also when the target
is removed on the way. -/
theorem keeps_spares_moveIntoPlace {temporary : Text} (hsep : Separate home [] ps)
    (hpt : placeOf home temporary ∈ ps) (hp : placeOf home path ∈ ps) :
    Keeps (Spares home ps) (moveIntoPlace temporary path : Work α WriteFailure Unit) := by
  refine keeps_moveIntoPlace_of (Spares.refl home ps) Spares.trans (fun {d d'} h => ?_)
    fun {d d' p} hmem h => ?_
  · obtain ⟨x, -, -, -, -, -, rfl⟩ := rename_eq_ok h
    exact (Spares.put hsep _ hpt).trans (Spares.put hsep _ hp)
  · obtain ⟨-, rfl⟩ := remove_eq_ok h
    rcases hmem with rfl | rfl
    · exact Spares.put hsep _ hpt
    · exact Spares.put hsep _ hp

/-- However it ends, a replacement leaves everything alone but the places that it writes. It is put
together from the lemmas about its parts by `Keeps.bind`. -/
theorem keeps_spares_writeAtomic (hleaf : Leaf path) (hstamp : slash ∉ m.stamp)
    (hsep : Separate home [] (writtenBy home m backup path)) (c : α) :
    Keeps (Spares home (writtenBy home m backup path)) (writeAtomic empty m backup path c) := by
  have hrefl := Spares.refl (α := α) home (writtenBy home m backup path)
  have hp : placeOf home path ∈ writtenBy home m backup path := List.mem_cons_self
  have hpt : placeOf home (temporaryPath path m.salt) ∈ writtenBy home m backup path :=
    List.mem_cons_of_mem _ List.mem_cons_self
  rw [writeAtomic_eq]
  split
  · exact Keeps.throw hrefl _
  refine (keeps_spares_makeAll _ hleaf hp).bind Spares.trans fun _ => ?_
  refine Keeps.bind Spares.trans ?_ fun _ => ?_
  · split
    · rename_i hbackup
      have hpb : placeOf home (backupPath path m.stamp) ∈ writtenBy home m backup path := by
        simp [writtenBy, hbackup]
      refine (Keeps.get hrefl).bind Spares.trans fun d => ?_
      split
      · exact (keeps_spares_copy hsep (leaf_backupPath hleaf hstamp) hpb).adaptExcept _
      · exact Keeps.pure hrefl _
    · exact Keeps.pure hrefl _
  · refine (keeps_spares_write hsep _ hpt c).bind Spares.trans fun _ => ?_
    exact keeps_spares_moveIntoPlace hsep hpt hp

end

end NovelScript.Files
