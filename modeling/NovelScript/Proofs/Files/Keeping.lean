import NovelScript.Proofs.Files.Restore

/-!
# What the copies of a file keep

A copy is named by the second that the clock on the wall shows when it is made, and is written over an
older one of the same name. So of the replacements at which the clock showed the same only the last
one leaves its copy behind, and what the others took away is kept nowhere. They need not follow each
other within one second: a clock that is put back shows an hour again.

* **`Run.read_copyPath`**: the copy of a replacement holds what it replaced when no later one made a
  copy of the same name. **`copy_eq_iff`**: that is a later one with the same stamp.
* **`Run.old_ne_none`**: from the first replacement on, every one makes a copy.
* **`Replacement.kept_iff`** says of every content whether a copy holds it after a run, and that
  everything is kept when each replacement has a stamp of its own. **`stamp_ne_of_apart`** says when
  it has.
-/

namespace NovelScript.Files

variable {α : Type}

open Disk

/-- Does one of the copies that are listed for a file hold this? -/
def IsKept (path : Text) (c : α) (d : Disk α) : Prop :=
  ∃ names, backups d path = .ok names ∧ ∃ p ∈ names, d.read p = .ok c

section

variable {d : Disk α} {path : Text}

/-- What is listed stands in the directory for copies, under a name that counts as one of a copy of
the file. -/
theorem exists_copy_of_mem {names : List Text} {p : Text} (hhome : d.look d.home = some none)
    (hspelled : Spelled (directory path)) (hnames : backups d path = .ok names) (hp : p ∈ names) :
    ∃ n, d.stack (copiesPlace (d.place (directory path)) ++ [n]) ≠ [] ∧ IsCopyName path n ∧
      p = join (backupDirectory (directory path)) n := by
  have hdir : d.look (d.place (directory path)) = some none := by
    -- the directory for copies was found
    have hlist := hnames
    unfold backups Disk.list at hlist
    dsimp only at hlist
    cases hfind : d.find (backupDirectory (directory path)) with
    | error e =>
      rw [hfind] at hlist
      dsimp only at hlist
      split at hlist
      · cases hlist
        cases hp
      · cases hlist
    | ok e =>
      have hget := get?_of_find hfind
      rw [place_backupDirectory d (directory_ne_nil path)] at hget
      apply Entry.look_of_append (List.cons_ne_nil stateName [Text.lit "backups"])
      rw [← copiesPlace, Entry.look, hget]
      simp
  exact (mem_backups hhome hspelled hdir hnames).1 hp

/-- A content is kept when a copy stands in the directory for copies that counts and holds it. -/
theorem isKept_iff {c : α} (hhome : d.look d.home = some none) (hspelled : Spelled (directory path)) :
    IsKept path c d ↔ ∃ n, d.stack (copiesPlace (d.place (directory path)) ++ [n]) ≠ [] ∧
      IsCopyName path n ∧ d.read (join (backupDirectory (directory path)) n) = .ok c := by
  constructor
  · rintro ⟨names, hnames, p, hp, hread⟩
    obtain ⟨n, hn, hcounts, rfl⟩ := exists_copy_of_mem hhome hspelled hnames hp
    exact ⟨n, hn, hcounts, hread⟩
  · rintro ⟨n, hn, hcounts, hread⟩
    obtain ⟨names, hnames, hmem⟩ := exists_backups_of_stack hhome hspelled hcounts hn
    exact ⟨names, hnames, _, hmem, hread⟩

end

/-- Of the members of a list that have a property there is a last one. -/
theorem exists_last {β : Type} {P : β → Prop} {l : List β} (h : ∃ x ∈ l, P x) :
    ∃ before x after, l = before ++ x :: after ∧ P x ∧ ∀ y ∈ after, ¬ P y := by
  induction l with
  | nil => simp at h
  | cons a l ih =>
    by_cases hl : ∃ x ∈ l, P x
    · obtain ⟨before, x, after, rfl, hx, hafter⟩ := ih hl
      exact ⟨a :: before, x, after, rfl, hx, hafter⟩
    · obtain ⟨x, hx, hP⟩ := h
      rcases List.mem_cons.1 hx with rfl | hx
      · exact ⟨[], x, l, rfl, hP, fun y hy hPy => hl ⟨y, hy, hPy⟩⟩
      · exact absurd ⟨x, hx, hP⟩ hl

namespace Replacement

variable {empty c : α} {path : Text} {r s : Replacement α} {rs before after : List (Replacement α)}
  {d d' : Disk α}

/-- Copies of one file have one name when they have the same stamp. -/
theorem copy_eq_iff (hbase : base r.path = base s.path) : r.copy = s.copy ↔ r.moment.stamp = s.moment.stamp := by
  constructor
  · intro h
    exact (copyName_inj r.not_mem_stamp.2 s.not_mem_stamp.2 h).2
  · intro h
    rw [copy, copy, h, copyName, copyName, backupStart, backupStart, hbase]

/-- Where a clock shows two different seconds, the stamps are different, in years of any length. -/
theorem stamp_ne_of_apart {n m : Nat} (hr : r.time = .ofSeconds n) (hs : s.time = .ofSeconds m)
    (h : n ≠ m) : r.moment.stamp ≠ s.moment.stamp := by
  rw [moment, moment, hr, hs]
  exact fun heq => h (DateTime.stamp_inj heq)

/-! ## Every replacement of a file that is there makes a copy -/

/-- A file that is there is read before it is replaced, and what is read is what the replacement
takes away. It ties the contents that are named in the run to those on the disk. -/
theorem Done.old_eq (h : r.Done empty d d') (hhome : d.look d.home = some none)
    (hfile : d.look (d.place r.path) = some (some c)) : r.old = some c := by
  have hr := h.replaced hhome
  have hthere : d.look (d.place (directory r.path)) = some none := by
    rw [place_of_named d hr.named] at hfile
    apply Entry.look_of_append (List.cons_ne_nil (base r.path) [])
    rw [show d.root.look _ = _ from hfile]
    simp
  have hread : d.read r.path = .ok c := by
    cases hold : r.old with
    | some c' =>
      -- what was read stands in that place
      have hread : d.read r.path = .ok c' := by
        rw [h.old] at hold
        cases hd : d.read r.path with
        | ok x =>
          rw [hd] at hold
          cases hold
          rfl
        | error x =>
          rw [hd] at hold
          cases hold
      have hsame := fileAt_eq_some.1 (fileAt_of_read hread)
      rw [hfile] at hsame
      cases hsame
      exact hread
    | none =>
      -- without a copy nothing changes but the file, so that it was found before as it is after
      rw [hold] at hr
      apply read_eq_ok.2
      refine find_of_dirs hr.home.symm (fun p hp => ?_) (read_eq_ok.1 hr.read) ?_
      · rwa [← hr.look_eq hthere]
        rintro rfl
        rw [hr.look_place] at hp
        cases hp
      · rwa [hr.place_eq]
  rw [h.old, hread]
  rfl

/-- Where the file is there, all replacements of it make copies, since a replaced file is there for
the next one. -/
theorem Run.old_ne_none (h : Run empty rs d d') (hhome : d.look d.home = some none)
    (hon : ∀ r ∈ rs, r.On path) (hfile : d.look (d.place (directory path) ++ [base path]) = some (some c)) :
    ∀ r ∈ rs, r.old ≠ none := by
  induction h generalizing c with
  | nil d => simp
  | @cons r rs d d₁ d' first rest ih =>
    have hr := first.replaced hhome
    obtain ⟨hdir, hbase⟩ := hon r List.mem_cons_self
    have hplace : d.place r.path = d.place (directory path) ++ [base path] := by
      rw [place_of_named d hr.named, hdir, hbase]
    intro s hs
    rcases List.mem_cons.1 hs with rfl | hs
    · rw [first.old_eq hhome (by rwa [hplace])]
      simp
    · have hfile₁ := hr.look_place
      rw [hplace, ← hr.place_eq] at hfile₁
      exact ih (hr.look_home hhome) (fun s hs => hon s (List.mem_cons_of_mem _ hs)) hfile₁ s hs

/-! ## What is kept -/

/-- Is this what a replacement took away that was the last one with its stamp? -/
def LastOfStamp (rs : List (Replacement α)) (c : α) : Prop :=
  ∃ before r after, rs = before ++ r :: after ∧ r.old = some c ∧ ∀ s ∈ after, s.moment.stamp ≠ r.moment.stamp

/-- Did a copy hold this before, and did no replacement make another one of its name? -/
def StillKept (path : Text) (rs : List (Replacement α)) (c : α) (d : Disk α) : Prop :=
  ∃ names, backups d path = .ok names ∧
    ∃ p ∈ names, d.read p = .ok c ∧ ∀ r ∈ rs, r.old ≠ none → r.copyPath ≠ p

section

variable (hrun : Run empty rs d d') (hhome : d.look d.home = some none) (hon : ∀ r ∈ rs, r.On path)

include hrun hhome hon

/-- **The last replacement with its stamp has kept its copy**: whatever else was replaced, the old
content can be read under the name of the copy. -/
theorem isKept_of_lastOfStamp (h : LastOfStamp rs c) : IsKept path c d' := by
  obtain ⟨before, r, after, rfl, hold, hlast⟩ := h
  have hran := hrun.ran hhome fun s hs => (hon s hs).1
  have hr : r ∈ before ++ r :: after := List.mem_append_right before List.mem_cons_self
  obtain ⟨hspelled, -⟩ := hran.there (List.ne_nil_of_mem hr)
  have hread : d'.read r.copyPath = .ok c := by
    apply hrun.read_copyPath hhome (fun s hs => (hon s hs).1.trans (hon r hr).1.symm) hold
    intro s hs _ hname
    have hon' := hon s (List.mem_append_right _ (List.mem_cons_of_mem _ hs))
    exact hlast s hs ((copy_eq_iff (hon'.2.trans (hon r hr).2.symm)).1 hname)
  rw [copyPath_eq (hon r hr).1] at hread
  refine (isKept_iff (hran.look_home hhome) hspelled).2 ⟨r.copy, fun hnil => ?_, ?_, hread⟩
  · obtain ⟨_, _, _, _, _, hhead⟩ := hran.stack_copy hr (by simp [hold])
    rw [← hran.place_eq, hnil] at hhead
    cases hhead
  · exact isCopyName_copy.2 (.inl (hon r hr).2)

/-- The copy that stands at the end under the name of copies of the run is that of the last one of
them. -/
theorem exists_last_of_copy {n : Text} (hn : ∃ r ∈ rs, r.old ≠ none ∧ r.copy = n) :
    ∃ before r after, rs = before ++ r :: after ∧ r.copy = n ∧
      (∃ c, r.old = some c ∧ d'.read r.copyPath = .ok c) ∧ ∀ s ∈ after, s.moment.stamp ≠ r.moment.stamp := by
  obtain ⟨before, r, after, rfl, ⟨hold, hname⟩, hlast⟩ := exists_last hn
  obtain ⟨c, hc⟩ := Option.ne_none_iff_exists'.1 hold
  have hr : r ∈ before ++ r :: after := List.mem_append_right before List.mem_cons_self
  have hread := hrun.read_copyPath hhome (fun s hs => (hon s hs).1.trans (hon r hr).1.symm) hc
    fun s hs hold hname' => hlast s hs ⟨hold, hname'.trans hname⟩
  refine ⟨before, r, after, rfl, hname, ⟨c, hc, hread⟩, fun s hs hstamp => ?_⟩
  have hon' := hon s (List.mem_append_right _ (List.mem_cons_of_mem _ hs))
  refine hlast s hs ⟨?_, ((copy_eq_iff (hon'.2.trans (hon r hr).2.symm)).2 hstamp).trans hname⟩
  -- the file is there from this replacement on
  obtain ⟨d₁, hbefore, hrest⟩ := Run.append_iff.1 hrun
  have hhome₁ := (hbefore.ran hhome fun s hs =>
    (hon s (List.mem_append_left _ hs)).1).look_home hhome
  cases hrest with
  | @cons _ _ _ d₂ _ first hafter =>
    have hreplaced := first.replaced hhome₁
    have hfile := hreplaced.look_place
    rw [place_of_named d₁ hreplaced.named, (hon r hr).1, (hon r hr).2, ← hreplaced.place_eq] at hfile
    exact hafter.old_ne_none (hreplaced.look_home hhome₁) (fun s hs =>
      hon s (List.mem_append_right _ (List.mem_cons_of_mem _ hs))) hfile s hs

/-- Under a name that no replacement of the run gave to its copy, everything is as before. -/
theorem stack_of_not_copied {n : Text} (hnot : ∀ r ∈ rs, r.old ≠ none → r.copy ≠ n) :
    d'.stack (copiesPlace (d'.place (directory path)) ++ [n]) =
      d.stack (copiesPlace (d.place (directory path)) ++ [n]) := by
  have hran := hrun.ran hhome fun s hs => (hon s hs).1
  rw [hran.place_eq]
  rcases hran.copied n with ⟨hsame, -⟩ | ⟨r, hr, c, hc, hname, -⟩
  · exact hsame
  · exact absurd hname (hnot r hr (by simp [hc]))

/-- What is read under the name of a copy is what was read there before, when no replacement of the
run used this name. -/
theorem read_of_not_copied {n : Text} (hn : Proper n)
    (hnot : ∀ r ∈ rs, r.old ≠ none → r.copy ≠ n) :
    d'.read (join (backupDirectory (directory path)) n) = .ok c ↔
      d.read (join (backupDirectory (directory path)) n) = .ok c := by
  have hran := hrun.ran hhome fun s hs => (hon s hs).1
  rw [read_copy_iff (hran.look_home hhome) hn, read_copy_iff hhome hn,
    stack_of_not_copied hrun hhome hon hnot]

/-- The copies of the run are told apart by their names. -/
theorem copyPath_eq_iff (hr : r ∈ rs) {n : Text} (hn : Proper n) :
    r.copyPath = join (backupDirectory (directory path)) n ↔ r.copy = n := by
  have hran := hrun.ran hhome fun s hs => (hon s hs).1
  have hcopy := proper_copyName (hran.named r hr) r.not_mem_stamp.1
  rw [copyPath_eq (hon r hr).1]
  constructor
  · intro h
    have hleaf := (leaf_join (backupDirectory_ne_nil (directory path)) hcopy).2
    have hleaf' := (leaf_join (backupDirectory_ne_nil (directory path)) hn).2
    rw [copy, ← hleaf, ← hleaf']
    exact congrArg (fun p => (splitLast p).2) h
  · rintro rfl
    rfl

section

variable (hproper : ∀ n, d.stack (copiesPlace (d.place (directory path)) ++ [n]) ≠ [] → Proper n)

include hproper

/-- A copy from before the run is still kept when no replacement took its name. -/
theorem isKept_of_stillKept (h : StillKept path rs c d) : IsKept path c d' := by
  obtain ⟨names, hnames, p, hp, hread, hnot⟩ := h
  by_cases hne : rs = []
  · subst hne
    cases hrun
    exact ⟨names, hnames, p, hp, hread⟩
  have hran := hrun.ran hhome fun s hs => (hon s hs).1
  obtain ⟨hspelled, -⟩ := hran.there hne
  obtain ⟨n, hstack, hcounts, rfl⟩ := exists_copy_of_mem hhome hspelled hnames hp
  have hn := hproper n hstack
  have hnot' : ∀ r ∈ rs, r.old ≠ none → r.copy ≠ n := fun r hr hold hname =>
    hnot r hr hold ((copyPath_eq_iff hrun hhome hon hr hn).2 hname)
  refine (isKept_iff (hran.look_home hhome) hspelled).2 ⟨n, ?_, hcounts, ?_⟩
  · rwa [stack_of_not_copied hrun hhome hon hnot']
  · exact (read_of_not_copied hrun hhome hon hn hnot').2 hread

/-- What a copy holds at the end is what the last one with its stamp took away, or the copy was
there before and was not written over. -/
theorem cases_of_isKept (h : IsKept path c d') :
    LastOfStamp rs c ∨ StillKept path rs c d := by
  by_cases hne : rs = []
  · subst hne
    cases hrun
    obtain ⟨names, hnames, p, hp, hread⟩ := h
    exact .inr ⟨names, hnames, p, hp, hread, fun r hr => absurd hr List.not_mem_nil⟩
  have hran := hrun.ran hhome fun s hs => (hon s hs).1
  obtain ⟨hspelled, -⟩ := hran.there hne
  obtain ⟨n, hstack, hcounts, hread⟩ := (isKept_iff (hran.look_home hhome) hspelled).1 h
  by_cases hn : ∃ r ∈ rs, r.old ≠ none ∧ r.copy = n
  · obtain ⟨before, r, after, rfl, rfl, ⟨c', hc', hread'⟩, hlast⟩ :=
      exists_last_of_copy hrun hhome hon hn
    have hr : r ∈ before ++ r :: after := List.mem_append_right before List.mem_cons_self
    rw [copyPath_eq (hon r hr).1, hread] at hread'
    cases hread'
    exact .inl ⟨before, r, after, rfl, hc', hlast⟩
  · have hnot : ∀ r ∈ rs, r.old ≠ none → r.copy ≠ n := fun r hr hold hname =>
      hn ⟨r, hr, hold, hname⟩
    rw [stack_of_not_copied hrun hhome hon hnot] at hstack
    have hn := hproper n hstack
    have hread := (read_of_not_copied hrun hhome hon hn hnot).1 hread
    obtain ⟨names, hnames, hmem⟩ := exists_backups_of_stack hhome hspelled hcounts hstack
    refine .inr ⟨names, hnames, _, hmem, hread, fun r hr hold => ?_⟩
    rw [Ne, copyPath_eq_iff hrun hhome hon hr hn]
    exact hnot r hr hold

end

/-- **What the copies of a file keep.** A file is replaced again and again, at any times, with a copy
kept each time. At the end a content is held by a copy that is listed exactly when

* a replacement took it away that was the last one with its stamp, or
* it was held by a copy before that was not written over.

So everything is kept when each replacement has a stamp of its own. -/
theorem kept_iff (hproper : ∀ n,
      d.stack (copiesPlace (d.place (directory path)) ++ [n]) ≠ [] → Proper n) :
    (∀ c, IsKept path c d' ↔ LastOfStamp rs c ∨ StillKept path rs c d) ∧
      (rs.Pairwise (·.moment.stamp ≠ ·.moment.stamp) → ∀ r ∈ rs, ∀ c, r.old = some c → IsKept path c d') := by
  refine ⟨fun c => ⟨cases_of_isKept hrun hhome hon hproper, ?_⟩, fun hstamps r hr c hc => ?_⟩
  · rintro (hlast | hstill)
    · exact isKept_of_lastOfStamp hrun hhome hon hlast
    · exact isKept_of_stillKept hrun hhome hon hproper hstill
  · obtain ⟨before, after, rfl⟩ := List.append_of_mem hr
    refine isKept_of_lastOfStamp hrun hhome hon ⟨before, r, after, rfl, hc, fun s hs => ?_⟩
    exact (List.rel_of_pairwise_cons (List.pairwise_append.1 hstamps).2.1 hs).symm

end

/-- A file is written three times, at seconds that the clock on the wall shows. -/
def threeWrites (second : Nat → Nat) : List (Replacement Nat) :=
  [⟨Text.lit "a", .ofSeconds (second 0), Text.lit "x", 1, none⟩,
    ⟨Text.lit "a", .ofSeconds (second 1), Text.lit "y", 2, some 1⟩,
    ⟨Text.lit "a", .ofSeconds (second 2), Text.lit "z", 3, some 2⟩]

/-- The file and its copies. -/
def keepingCopies (copies : List (Text × Entry Nat)) : Disk Nat :=
  ⟨.directory [(Text.lit "a", .file 3), (stateName, .directory [(Text.lit "backups",
    .directory copies)])], []⟩

/-- The first of the three writes makes the file and no copy. -/
theorem done_first : Done 0 ⟨Text.lit "a", .ofSeconds 0, Text.lit "x", 1, none⟩ bare
    ⟨.directory [(Text.lit "a", .file 1)], []⟩ :=
  ⟨by decide, by decide, by decide, by rfl⟩

/-- In three seconds the three writes are a run, and what is left are two copies. -/
theorem run_threeWrites : Run 0 (threeWrites id) bare (keepingCopies
    [(Text.lit "a.19700101-000001.bak", .file 1), (Text.lit "a.19700101-000002.bak", .file 2)]) :=
  .cons done_first (.cons ⟨by decide, by decide, by rfl, by rfl⟩
    (.cons ⟨by decide, by decide, by rfl, by rfl⟩ (.nil _)))

/-- With a second for each, everything is kept. -/
theorem kept_of_seconds : IsKept (Text.lit "a") 1 (keepingCopies
      [(Text.lit "a.19700101-000001.bak", .file 1), (Text.lit "a.19700101-000002.bak", .file 2)]) ∧
    IsKept (Text.lit "a") 2 (keepingCopies
      [(Text.lit "a.19700101-000001.bak", .file 1), (Text.lit "a.19700101-000002.bak", .file 2)]) := by
  have hstack (n : Text) : bare.stack (copiesPlace (bare.place (directory (Text.lit "a"))) ++ [n]) = [] := by
    rfl
  have hpath : ∀ r ∈ threeWrites id, r.path = Text.lit "a" := by decide
  have hon : ∀ r ∈ threeWrites id, r.On (Text.lit "a") := fun r hr =>
    ⟨by rw [hpath r hr], by rw [hpath r hr]⟩
  have hkept := (kept_iff run_threeWrites (by rfl) hon (fun n hn => absurd (hstack n) hn)).2
    (by decide)
  exact ⟨hkept ⟨Text.lit "a", .ofSeconds 1, Text.lit "y", 2, some 1⟩ (by simp [threeWrites]) 1 rfl,
    hkept ⟨Text.lit "a", .ofSeconds 2, Text.lit "z", 3, some 2⟩ (by simp [threeWrites]) 2 rfl⟩

/-- In one second the second copy is written over the first one, and what that held is lost. -/
theorem lost_in_one_second :
    Run 0 (threeWrites fun _ => 0) bare (keepingCopies [(Text.lit "a.19700101-000000.bak", .file 2)]) ∧
      (threeWrites fun _ => 0).Pairwise (·.time = ·.time) ∧
      (∀ r ∈ threeWrites fun _ => 0, r.path = Text.lit "a") ∧
      (∃ r ∈ threeWrites fun _ => 0, r.old = some 1) ∧
      ¬ IsKept (Text.lit "a") 1 (keepingCopies [(Text.lit "a.19700101-000000.bak", .file 2)]) := by
  refine ⟨?_, by decide, by decide, ⟨_, List.mem_cons_of_mem _ List.mem_cons_self, rfl⟩, ?_⟩
  · exact .cons done_first (.cons ⟨by decide, by decide, by rfl, by rfl⟩
      (.cons ⟨by decide, by decide, by rfl, by rfl⟩ (.nil _)))
  · rintro ⟨names, hnames, p, hp, hread⟩
    have hfind : (keepingCopies [(Text.lit "a.19700101-000000.bak", .file 2)]).find
        (backupDirectory (directory (Text.lit "a"))) =
        .ok (.directory [(Text.lit "a.19700101-000000.bak", .file 2)]) := by rfl
    have hall : backups (keepingCopies [(Text.lit "a.19700101-000000.bak", .file 2)]) (Text.lit "a") =
        .ok [Text.lit ".mdrpy/backups/a.19700101-000000.bak"] :=
      backups_of_find hfind (by decide) (by decide)
    cases hnames.symm.trans hall
    cases List.mem_singleton.1 hp
    cases hread

end Replacement

end NovelScript.Files
