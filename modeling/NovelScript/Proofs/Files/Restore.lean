import NovelScript.Proofs.Files.Backups

/-!
# Undoing the last replacement

What is put back is the copy whose name sorts last. Stamps are written so that they sort like the
times they show, and a copy is not touched once it is made, so that in most runs the last copy is the
one of the last replacement. It need not be: the clock on the wall may have been put back in between,
and then the stamps of later copies sort before those of earlier ones.

* **`Restorable.restore`** says that a copy that is newer than all others is put back, and that the
  file is as `Restorable` afterwards as before, so that it can be put back again.
* `LastOf` describes the last replacement of a file in a run, and **`LastOf.restorable`** says that
  its copy is of this kind when the stamps before it are in order.
* **`le_copy_iff`**: the copies of a file sort like their stamps. **`forward_of_advances`**: stamps are
  in order as long as the clock is not put back.
* **`Replacement.undoes_iff`** says when the replacement is undone. The copies of another file sort
  behind those of the file when they are taken for them (`not_le_copy`).
-/

namespace NovelScript.Files

variable {α : Type}

open Disk

/-! ## Replacing a file that is there -/

namespace Disk

variable {d d' : Disk α}

/-- A file can be moved over another one. -/
theorem rename_over_file {source target : Text} {c c' : α} (hsource : d.find source = .ok (.file c))
    (htarget : d.find target = .ok (.file c')) :
    d.rename source target =
      .ok ((d.put none (d.place source)).put (some (.file c)) (d.place target)) := by
  obtain ⟨old, hold, -⟩ := find_eq_ok.1 hsource
  obtain ⟨new, hnew, hfile⟩ := find_eq_ok.1 htarget
  rw [← locate_names hold, ← locate_names hnew, rename, hsource, hold, hnew]
  dsimp only
  rw [hfile]
  rfl

end Disk

section

variable {empty content c : α} {m : Moment} {path : Text} {d : Disk α}

/-- With what a write takes from outside a new file can be made beside the path. -/
structure Usable (d : Disk α) (path : Text) (m : Moment) : Prop where
  stamp : slash ∉ m.stamp
  salt : slash ∉ m.salt
  spelled : Spelled (temporaryPath path m.salt)
  fresh : d.look (d.place (temporaryPath path m.salt)) = none

/-- A file that is there can be replaced. This is the one place where it is proved of every part of
a replacement that it succeeds, from what is spelled and what stands where. -/
theorem writeAtomic_isOk (hhome : d.look d.home = some none) (hblank : Text.isBlank path = false)
    (hnamed : Proper (splitLast path).2) (hspelled : Spelled (directory path))
    (hfind : d.find path = .ok (.file c)) (hm : Usable d path m) :
    ∃ d', writeAtomic empty m false path content d = .ok () d' := by
  have hbase := (proper_base hnamed).2.1
  have hplace := place_of_named d hnamed
  have htemp := place_temporaryPath d hbase hm.salt
  have hplain : isPlain (temporaryPath path m.salt) = true :=
    (leaf_join (directory_ne_nil path) (proper_temporaryName hbase hm.salt)).1.plain
  have hlook : d.look (d.place path) = some (some c) :=
    fileAt_eq_some.1 (fileAt_of_read (read_eq_ok.2 hfind))
  have hthere : d.look (d.place (directory path)) = some none := by
    have hdrop := look_dropLast_of_ne hhome (p := d.place path) (by simp [hlook])
    rwa [hplace, List.dropLast_concat] at hdrop
  -- the directory is there, so making it changes nothing
  have hmake : d.makeAll (directory path) = .ok d := makeAll_of_directory hhome hspelled hthere
  have hdrop : d.look (d.place (temporaryPath path m.salt)).dropLast = some none := by
    rw [htemp, List.dropLast_concat]
    exact hthere
  -- the name for the new content is free and can be spelled
  obtain ⟨d₁, hwrite⟩ := (write_isOk hhome hplain content).2
    ⟨hm.spelled, hdrop, by rw [hm.fresh]; simp⟩
  obtain ⟨-, hput⟩ := write_eq_ok hwrite
  have hhome₁ : d₁.home = d.home := by
    rw [hput]
    rfl
  have hdirs (p : List Text) (hp : d.look p = some none) : d₁.look p = some none :=
    dirs_write hwrite hp
  -- both files are found after the write, so that one can be moved over the other
  have htemp_file : d₁.find (temporaryPath path m.salt) = .ok (.file content) := by
    apply (find_isOk (by rw [hhome₁]; exact hdirs _ hhome) hplain).2
    refine ⟨hm.spelled, ?_⟩
    have hstack : d₁.stack (d.place (temporaryPath path m.salt)) = .file content ::
        (d.stack (d.place (temporaryPath path m.salt))).tail := by
      rw [hput, htemp]
      exact Entry.stack_set_append (some (.file content)) _ hthere
    rw [hput, place_put, ← hput, ← Entry.head?_stack, show d₁.root.stack _ = _ from hstack]
    rfl
  have hfind₁ : d₁.find path = .ok (.file c) := by
    apply find_of_dirs hhome₁ hdirs hfind
    rw [hput, ← hlook]
    apply Entry.look_set_of_not_isPrefix
    rw [htemp, hplace]
    intro hpre
    have hsame := hpre.eq_of_length (by simp)
    rw [List.append_cancel_left_eq, List.singleton_inj] at hsame
    exact temporaryName_ne_base path m.salt hsame
  obtain ⟨d', hren⟩ : ∃ d', d₁.rename (temporaryPath path m.salt) path = .ok d' :=
    ⟨_, rename_over_file htemp_file hfind₁⟩
  refine ⟨d', ?_⟩
  -- the three parts, put together
  rw [writeAtomic_eq, if_neg (by simp [hblank])]
  refine bind_eq_ok.2 ⟨(), d, change_eq_ok.2 hmake, bind_eq_ok.2 ⟨(), d, rfl, ?_⟩⟩
  refine bind_eq_ok.2 ⟨(), d₁, change_eq_ok.2 hwrite, ?_⟩
  rw [moveIntoPlace, hren]

end

/-! ## Putting back the newest copy -/

section

variable {empty c content : α} {m : Moment} {path name : Text} {d d' : Disk α}

/-- What a copy holds is what stands under its name in the directory for copies. -/
theorem read_copy_iff (hhome : d.look d.home = some none) (hname : Proper name) {c : α} :
    d.read (join (backupDirectory (directory path)) name) = .ok c ↔
      Spelled (join (backupDirectory (directory path)) name) ∧
        (d.stack (copiesPlace (d.place (directory path)) ++ [name])).head? = some (.file c) := by
  have hplain : isPlain (join (backupDirectory (directory path)) name) = true :=
    (leaf_join (backupDirectory_ne_nil _) hname).1.plain
  have hplace : d.place (join (backupDirectory (directory path)) name) =
      copiesPlace (d.place (directory path)) ++ [name] := by
    rw [← place_backupDirectory d (directory_ne_nil path)]
    exact placeOf_join (backupDirectory_ne_nil _) hname d.home
  rw [read_eq_ok, find_isOk hhome hplain, hplace, ← Entry.head?_stack]
  rfl

/-- The copy that is put back is the one behind which no other one sorts. -/
theorem getLast?_backups {names : List Text} {latest : Text} (hhome : d.look d.home = some none)
    (hspelled : Spelled (directory path))
    (hdir : d.look (d.place (directory path)) = some none) (h : backups d path = .ok names) :
    names.getLast? = some latest ↔ latest ∈ names ∧ ∀ p ∈ names, Text.le p latest = true := by
  obtain ⟨es, -, rfl⟩ := backups_eq_ok hhome hspelled hdir h
  rw [Text.getLast?_sort]
  simp only [Text.mem_sort]

/-- What a replacement without a copy changes is the file, and nothing else. -/
theorem Replaced.look_eq (h : Replaced m path content none d d')
    (hthere : d.look (d.place (directory path)) = some none) {p : List Text}
    (hp : p ≠ d.place path) : d'.look p = d.look p := by
  by_cases hpre : p <+: d.place (directory path)
  · have hdir : d.look p = some none := by
      obtain ⟨more, hmore⟩ := hpre
      by_cases hnil : more = []
      · rw [← hthere, ← hmore, hnil, List.append_nil]
      · apply Entry.look_of_append hnil
        rw [hmore, show d.root.look _ = _ from hthere]
        simp
    rw [hdir, h.dirs hdir]
  · exact look_eq_of_stack (h.standing p hp hpre fun hkept => absurd rfl hkept)

/-- A file that is there has a copy that is newer than its others. -/
structure Restorable (path name : Text) (c : α) (d : Disk α) : Prop where
  home : d.look d.home = some none
  notBlank : Text.isBlank path = false
  named : Proper (splitLast path).2
  spelled : Spelled (directory path)
  file : ∃ c', d.read path = .ok c'
  proper : Proper name
  counts : IsCopyName path name
  copy : d.read (join (backupDirectory (directory path)) name) = .ok c
  newest : ∀ n, d.stack (copiesPlace (d.place (directory path)) ++ [n]) ≠ [] → IsCopyName path n →
    Text.le (join (backupDirectory (directory path)) n)
      (join (backupDirectory (directory path)) name) = true

namespace Restorable

/-- Where a copy can be restored, the directory of the file is there. -/
theorem there (h : Restorable path name c d) : d.look (d.place (directory path)) = some none := by
  obtain ⟨c', hc'⟩ := h.file
  have hlook := fileAt_eq_some.1 (fileAt_of_read hc')
  have hdrop := look_dropLast_of_ne h.home (p := d.place path) (by simp [hlook])
  rwa [place_of_named d h.named, List.dropLast_concat] at hdrop

/-- Where a copy can be restored, the copy holds its content. -/
theorem look_copy (h : Restorable path name c d) :
    d.look (copiesPlace (d.place (directory path)) ++ [name]) = some (some c) := by
  have hhead := ((read_copy_iff h.home h.proper).1 h.copy).2
  rw [stack, Entry.head?_stack] at hhead
  exact Entry.look_eq_file.2 hhead

/-- The copies can be listed, and the last one is the one that can be restored. -/
theorem latest (h : Restorable path name c d) : ∃ all, backups d path = .ok all ∧
    all.getLast? = some (join (backupDirectory (directory path)) name) := by
  have hstack : d.stack (copiesPlace (d.place (directory path)) ++ [name]) ≠ [] := by
    intro hnil
    have hlook := h.look_copy
    rw [look, Entry.look, Entry.stack_eq_nil.1 hnil] at hlook
    cases hlook
  obtain ⟨all, hall, hmem⟩ := exists_backups_of_stack h.home h.spelled h.counts hstack
  refine ⟨all, hall, (getLast?_backups h.home h.spelled h.there hall).2 ⟨hmem, fun p hp => ?_⟩⟩
  obtain ⟨n, hn, hcounts, rfl⟩ := (mem_backups h.home h.spelled h.there hall).1 hp
  exact h.newest n hn hcounts

/-- After the file was replaced without a copy, the newest copy is the same. -/
theorem of_replaced (h : Restorable path name c d) (hstamp : slash ∉ m.stamp)
    (hr : Replaced m path content none d d') : Restorable path name c d' := by
  have hhome := hr.look_home h.home
  have hstack (n : Text) : d'.stack (copiesPlace (d'.place (directory path)) ++ [n]) =
      d.stack (copiesPlace (d.place (directory path)) ++ [n]) := by
    rw [hr.place_eq]
    exact hr.stack_copies hstamp fun hkept => absurd rfl hkept
  refine ⟨hhome, h.notBlank, h.named, h.spelled, ⟨content, hr.read⟩, h.proper, h.counts, ?_, ?_⟩
  · rw [read_copy_iff hhome h.proper, hstack]
    exact (read_copy_iff h.home h.proper).1 h.copy
  · intro n hn hcounts
    rw [hstack n] at hn
    exact h.newest n hn hcounts

/-- The newest copy is put back, whenever a new file can be made. -/
theorem restore (h : Restorable path name c d) (hm : Usable d path m) (empty : α) :
    ∃ d', restoreLatest empty m path d = .ok (join (backupDirectory (directory path)) name) d' ∧
      Replaced m path c none d d' ∧ Restorable path name c d' := by
  obtain ⟨all, hall, hlatest⟩ := h.latest
  obtain ⟨c', hc'⟩ := h.file
  obtain ⟨d', hwrite⟩ := writeAtomic_isOk h.home h.notBlank h.named h.spelled (read_eq_ok.1 hc') hm
  have hfile : d.look (d.place path) = some (some c') := fileAt_eq_some.1 (fileAt_of_read hc')
  have hr : Replaced m path c none d d' :=
    replaced_of_writeAtomic h.home hm.salt hm.stamp hm.fresh (fun _ => by rw [hfile]; simp) hwrite
  exact ⟨d', restoreLatest_eq_ok.2 ⟨all, c, hall, hlatest, h.copy, hwrite⟩, hr,
    h.of_replaced hm.stamp hr⟩

end Restorable

end

/-! ## After a run of replacements -/

namespace Replacement

variable {empty c : α} {m : Moment} {r : Replacement α} {rs before after : List (Replacement α)}
  {d d' : Disk α}

/-- A run of replacements may be cut in two at any point, and two runs where one ends as the other
begins are one. -/
theorem Run.append_iff {ss : List (Replacement α)} :
    Run empty (rs ++ ss) d d' ↔ ∃ d₁, Run empty rs d d₁ ∧ Run empty ss d₁ d' := by
  induction rs generalizing d with
  | nil =>
    constructor
    · intro h
      exact ⟨d, .nil d, h⟩
    · rintro ⟨d₁, hnil, h⟩
      cases hnil
      exact h
  | cons r rs ih =>
    constructor
    · intro h
      cases h with
      | cons first rest =>
        obtain ⟨d₂, hrs, hss⟩ := ih.1 rest
        exact ⟨d₂, .cons first hrs, hss⟩
    · rintro ⟨d₂, hrs, hss⟩
      cases hrs with
      | cons first rest => exact .cons first (ih.2 ⟨d₂, rest, hss⟩)

/-- The copy of a replacement holds what it replaced, unless a later replacement made a copy of the
same name. -/
theorem Run.read_copyPath (h : Run empty (before ++ r :: after) d d')
    (hhome : d.look d.home = some none)
    (hdir : ∀ s ∈ before ++ r :: after, directory s.path = directory r.path) (hold : r.old = some c)
    (hlast : ∀ s ∈ after, s.old ≠ none → s.copy ≠ r.copy) : d'.read r.copyPath = .ok c := by
  obtain ⟨d₁, hbefore, hrest⟩ := Run.append_iff.1 h
  have hhome₁ := (hbefore.ran hhome fun s hs =>
    hdir s (List.mem_append_left _ hs)).look_home hhome
  cases hrest with
  | @cons _ _ _ d₂ _ first hrun =>
    have hr := first.replaced hhome₁
    have hhome₂ := hr.look_home hhome₁
    have hafter := hrun.ran hhome₂ fun s hs =>
      hdir s (List.mem_append_right _ (List.mem_cons_of_mem _ hs))
    have hcopied := hr.copied c hold
    have hproper := proper_copyName hr.slash_not_mem r.not_mem_stamp.1
    refine (read_copy_iff (hafter.look_home hhome₂) hproper).2 ⟨hcopied.spelled, ?_⟩
    have hstack := hcopied.stack
    rw [place_backupPath d₁ hr.slash_not_mem r.not_mem_stamp.1, ← hr.place_eq] at hstack
    rcases hafter.copied r.copy with ⟨hsame, -⟩ | ⟨s, hs, c', hc', hname, -⟩
    · rw [hafter.place_eq, ← copy, hsame, copy, hstack, List.head?_cons]
    · exact absurd hname (hlast s hs (by simp [hc']))

/-- A file that is there after a run was there before, or it was written by the run: in a place that
was replaced, or as a copy. -/
theorem Run.files (h : Run empty rs d d') (hhome : d.look d.home = some none) {p : List Text}
    (hp : d'.fileAt p ≠ none) : d.fileAt p ≠ none ∨
      ∃ r ∈ rs, p = d.place r.path ∨ r.old ≠ none ∧ p = d.place r.copyPath := by
  induction h with
  | nil d => exact .inl hp
  | @cons r rs d d₁ d' first rest ih =>
    have hr := first.replaced hhome
    have hhome₁ := hr.look_home hhome
    rcases ih hhome₁ hp with hfile | ⟨s, hs, hmade⟩
    · by_cases hmade : p = d.place r.path ∨ r.old ≠ none ∧ p = d.place r.copyPath
      · exact .inr ⟨r, List.mem_cons_self, hmade⟩
      · rw [not_or, not_and] at hmade
        rw [hr.files p hmade.1 hmade.2] at hfile
        exact .inl hfile
    · rw [hr.place_eq, hr.place_eq] at hmade
      exact .inr ⟨s, List.mem_cons_of_mem _ hs, hmade⟩

/-- Where a file stands in the directory there is one after the run, since a replacement ends with a
file in the place of the old one. -/
theorem Run.keeps_file {dir name : Text} (h : Run empty rs d d') (hhome : d.look d.home = some none)
    (hdir : ∀ r ∈ rs, directory r.path = dir) {c : α}
    (hfile : d.look (d.place dir ++ [name]) = some (some c)) :
    ∃ c', d'.look (d.place dir ++ [name]) = some (some c') := by
  induction h generalizing c with
  | nil d => exact ⟨c, hfile⟩
  | @cons r rs d d₁ d' first rest ih =>
    have hr := first.replaced hhome
    have hhome₁ := hr.look_home hhome
    have hstill : ∃ c', d₁.look (d.place dir ++ [name]) = some (some c') := by
      by_cases hpath : d.place dir ++ [name] = d.place r.path
      · rw [hpath]
        exact ⟨r.content, hr.look_place⟩
      · refine ⟨c, fileAt_eq_some.1 ?_⟩
        rw [hr.files _ hpath fun _ hcopy => ?_, fileAt_eq_some.2 hfile]
        rw [place_backupPath d hr.slash_not_mem r.not_mem_stamp.1,
          hdir r List.mem_cons_self] at hcopy
        exact copiesPlace_concat_ne _ _ _ hcopy.symm
    obtain ⟨c', hc'⟩ := hstill
    rw [← hr.place_eq] at hc' ⊢
    exact ih hhome₁ (fun s hs => hdir s (List.mem_cons_of_mem _ hs)) hc'

/-- Copies are ordered as their names are. -/
theorem le_copyPath_iff {s : Replacement α} (hr : slash ∉ base r.path) (hs : slash ∉ base s.path)
    (hdir : directory s.path = directory r.path) :
    Text.le s.copyPath r.copyPath = Text.le s.copy r.copy := by
  obtain ⟨lead, -, hjoin⟩ := exists_join_eq (backupDirectory_ne_nil (directory r.path))
  rw [copyPath_eq hdir, copyPath_eq rfl, hjoin s.copy (proper_copyName hs s.not_mem_stamp.1),
    hjoin r.copy (proper_copyName hr r.not_mem_stamp.1), Text.le_append_left]

/-- Copies of one file are ordered as the stamps in their names. -/
theorem le_copy_iff {s : Replacement α} (hbase : base s.path = base r.path) :
    Text.le s.copy r.copy = Text.le s.moment.stamp r.moment.stamp := by
  rw [copy, copy, copyName_eq, copyName_eq, hbase, Text.le_append_left, ← List.singleton_append,
    ← List.singleton_append (l := r.moment.stamp ++ _), Text.le_append_left]
  exact DateTime.le_stamp_append s.time r.time (Text.lit "bak")

/-- A copy whose name is that of another file up to its ending sorts behind all copies of that
file: where it has the ending, they have a stamp, and a stamp begins with a digit. -/
theorem not_le_copy {s : Replacement α} (hbase : base r.path = base s.path ++ point :: s.moment.stamp) :
    Text.le s.copy r.copy = false := by
  obtain ⟨b, rest, hstamp, hdigit⟩ := DateTime.exists_stamp_eq r.time
  have hcopy : s.copy = base r.path ++ [point] ++ (0x62 :: Text.lit "ak") := by
    have hbak : Text.lit "bak" = 0x62 :: Text.lit "ak" := by decide
    rw [copy, copyName_eq, hbase, hbak]
    simp
  have hcopy' : r.copy = base r.path ++ [point] ++ (b :: (rest ++ point :: Text.lit "bak")) := by
    rw [copy, copyName_eq, moment, hstamp]
    simp
  rw [hcopy, hcopy', Text.le_append_left]
  have hb := (Text.toNat_of_isDigit hdigit).2
  have hletter : (0x62 : UInt8).toNat = 98 := rfl
  have hlt : ¬ (0x62 : UInt8) < b := by
    rw [UInt8.lt_iff_toNat_lt]
    omega
  have hne : (0x62 : UInt8) ≠ b := by
    rintro rfl
    omega
  simp [Text.le, hlt, hne]

/-- The stamps of a run do not go back. -/
def Forward (rs : List (Replacement α)) : Prop :=
  rs.Pairwise fun s t => Text.le s.moment.stamp t.moment.stamp = true

/-- One clock shows the times of two replacements, in years with four digits, and is not put back in
between. -/
def Advances (s t : Replacement α) : Prop :=
  ∃ n m, n ≤ m ∧ m < 253402300800 ∧ s.time = .ofSeconds n ∧ t.time = .ofSeconds m

/-- **Stamps do not go back when the clock does not**: they are written so that they sort like the
times they show. The clock on a wall is put back when its zone changes, and then this says nothing. -/
theorem forward_of_advances (h : rs.Pairwise Advances) : Forward rs := by
  apply h.imp
  rintro s t ⟨n, m, hle, hyear, hs, ht⟩
  rw [moment, moment, hs, ht]
  rcases Nat.lt_or_eq_of_le hle with hlt | rfl
  · have htotal := Text.le_total (DateTime.ofSeconds n).stamp (DateTime.ofSeconds m).stamp
    rwa [DateTime.stamp_lt hlt hyear, Bool.or_false] at htotal
  · exact Text.le_refl _

/-- No replacement of a run makes a copy whose name is that of the file up to its ending. -/
def Unmistaken (path : Text) (rs : List (Replacement α)) : Prop :=
  ∀ s ∈ rs, s.old ≠ none → base path ≠ base s.path ++ point :: s.moment.stamp

/-- The stamps of the copies of the file that were made before a replacement are not behind its
own. -/
def InOrder (before : List (Replacement α)) (r : Replacement α) : Prop :=
  ∀ s ∈ before, s.On r.path → s.old ≠ none → Text.le s.moment.stamp r.moment.stamp = true

/-- The last replacement of a file in a run in its directory, where no other name goes on from that
of the file behind a point and no copy has such a name before. The run may take place at any
times. -/
structure LastOf (empty : α) (before : List (Replacement α)) (r : Replacement α)
    (after : List (Replacement α)) (c : α) (d d' : Disk α) : Prop where
  home : d.look d.home = some none
  start : ∀ n, backupStart r.path <+: n →
    d.look (copiesPlace (d.place (directory r.path)) ++ [n]) = none
  run : Run empty (before ++ r :: after) d d'
  dir : ∀ s ∈ before ++ r :: after, directory s.path = directory r.path
  others : ∀ s ∈ before ++ r :: after,
    base s.path ≠ base r.path → ¬ backupStart r.path <+: base s.path
  old : r.old = some c
  last : ∀ s ∈ after, s.On r.path → s.old = none

namespace LastOf

/-- The replacement that is looked at is one of the run. -/
theorem mem : r ∈ before ++ r :: after :=
  List.mem_append_right before List.mem_cons_self

/-- A run whose last replacement of a file is known is a run, and leaves what a run leaves. -/
theorem ran (h : LastOf empty before r after c d d') :
    Ran (directory r.path) (before ++ r :: after) d d' :=
  h.run.ran h.home h.dir

/-- What the replacement left behind was not changed by those after it. -/
theorem split (h : LastOf empty before r after c d d') :
    ∃ d₁ d₂, d₁.look d₁.home = some none ∧ Replaced r.moment r.path r.content r.old d₁ d₂ ∧
      Run empty after d₂ d' ∧ Ran (directory r.path) after d₂ d' := by
  obtain ⟨d₁, hbefore, hrest⟩ := Run.append_iff.1 h.run
  have hhome₁ := (hbefore.ran h.home fun s hs =>
    h.dir s (List.mem_append_left _ hs)).look_home h.home
  cases hrest with
  | @cons _ _ _ d₂ _ first hafter =>
    have hr := first.replaced hhome₁
    refine ⟨d₁, d₂, hhome₁, hr, hafter, hafter.ran (hr.look_home hhome₁) fun s hs => ?_⟩
    exact h.dir s (List.mem_append_right _ (List.mem_cons_of_mem _ hs))

/-- The copy that the replacement made holds what the file held. -/
theorem read_copy (h : LastOf empty before r after c d d') : d'.read r.copyPath = .ok c := by
  apply h.run.read_copyPath h.home h.dir h.old
  intro s hs hold hname
  obtain ⟨hbase, -⟩ := copyName_inj s.not_mem_stamp.2 r.not_mem_stamp.2 hname
  have hdir := h.dir s (List.mem_append_right _ (List.mem_cons_of_mem _ hs))
  exact hold (h.last s hs ⟨hdir, hbase⟩)

/-- The file is still there. -/
theorem read_file (h : LastOf empty before r after c d d') : ∃ c', d'.read r.path = .ok c' := by
  obtain ⟨d₁, d₂, hhome₁, hr, hrun, hafter⟩ := h.split
  have hhome₂ := hr.look_home hhome₁
  have hplace : d₂.place r.path = d₂.place (directory r.path) ++ [base r.path] :=
    place_of_named d₂ hr.named
  have hfile : d₂.look (d₂.place (directory r.path) ++ [base r.path]) = some (some r.content) := by
    rw [← hplace]
    exact fileAt_eq_some.1 (fileAt_of_read hr.read)
  obtain ⟨c', hc'⟩ := hrun.keeps_file hhome₂ (fun s hs =>
    h.dir s (List.mem_append_right _ (List.mem_cons_of_mem _ hs))) hfile
  rw [← hplace] at hc'
  exact ⟨c', read_eq_ok.2 (find_of_dirs hafter.home hafter.dirs (read_eq_ok.1 hr.read) hc')⟩

/-- Of the names in the directory for copies those count that replacements of the file made, and no
others, unless a copy has the name of the file up to its ending. -/
theorem exists_of_counts (h : LastOf empty before r after c d d')
    (hmistaken : Unmistaken r.path (before ++ r :: after)) {n : Text}
    (hn : d'.stack (copiesPlace (d'.place (directory r.path)) ++ [n]) ≠ [])
    (hcounts : IsCopyName r.path n) :
    ∃ s ∈ before ++ r :: after, s.On r.path ∧ s.old ≠ none ∧ s.copy = n := by
  rw [h.ran.place_eq] at hn
  rcases h.ran.copied n with ⟨hsame, -⟩ | ⟨s, hs, c', hc', hname, -⟩
  · have hnone := h.start n (List.isPrefixOf_iff_prefix.1 hcounts.1)
    exact absurd (hsame.trans (Entry.stack_eq_nil.2 (Entry.look_eq_none.1 hnone))) hn
  · have hold : s.old ≠ none := by simp [hc']
    rw [← hname] at hcounts
    rcases isCopyName_copy.1 hcounts with hbase | ⟨hne, hpre | heq⟩
    · exact ⟨s, hs, ⟨h.dir s hs, hbase⟩, hold, hname⟩
    · exact absurd hpre (h.others s hs hne)
    · exact absurd heq (hmistaken s hs hold)

/-- **When the stamps are in order and no copy of another file is mistaken, the last copy can be
restored**: it is the last one that is listed, and it holds what the last replacement took away. -/
theorem restorable (h : LastOf empty before r after c d d')
    (hmistaken : Unmistaken r.path (before ++ r :: after))
    (horder : InOrder before r) :
    Restorable r.path r.copy c d' := by
  obtain ⟨d₁, d₂, hhome₁, hr, -, -⟩ := h.split
  refine ⟨h.ran.look_home h.home, hr.notBlank, hr.named, hr.spelled, h.read_file,
    proper_copyName hr.slash_not_mem r.not_mem_stamp.1, isCopyName_copy.2 (.inl rfl), h.read_copy, ?_⟩
  intro n hn hcounts
  obtain ⟨s, hs, hon, hold, rfl⟩ := h.exists_of_counts hmistaken hn hcounts
  rw [← copyPath_eq hon.1, ← copyPath_eq rfl,
    le_copyPath_iff hr.slash_not_mem (h.ran.named s hs) hon.1]
  rw [le_copy_iff hon.2]
  rcases List.mem_append.1 hs with hs | hs
  · exact horder s hs hon hold
  rcases List.mem_cons.1 hs with rfl | hs
  · exact Text.le_refl _
  · exact absurd (h.last s hs hon) hold

/-- Every copy of the run that counts as one of the file is listed. -/
theorem mem_backups_of_counts (h : LastOf empty before r after c d d') {all : List Text}
    (hall : backups d' r.path = .ok all) {s : Replacement α} (hs : s ∈ before ++ r :: after)
    (hold : s.old ≠ none) (hcounts : IsCopyName r.path s.copy) : s.copyPath ∈ all := by
  obtain ⟨hspelled, hthere⟩ := h.ran.there (List.ne_nil_of_mem mem)
  rw [← h.ran.place_eq] at hthere
  apply (mem_backups (h.ran.look_home h.home) hspelled hthere hall).2
  refine ⟨s.copy, fun hnil => ?_, hcounts, copyPath_eq (h.dir s hs)⟩
  obtain ⟨-, -, c', -, -, hhead⟩ := h.ran.stack_copy hs hold
  rw [← h.ran.place_eq, hnil] at hhead
  cases hhead

end LastOf

/-- Putting back a copy undoes what was done to a file: that copy is taken, the file holds what it
held, nothing else has changed and the new file that was made on the way is gone, and putting back a
copy once more changes nothing. -/
def Undoes (empty : α) (m : Moment) (path latest : Text) (c : α) (d : Disk α) : Prop :=
  ∃ d', restoreLatest empty m path d = .ok latest d' ∧ d'.read path = .ok c ∧
    (∀ p, p ≠ d.place path → d'.look p = d.look p) ∧
    d'.look (d.place (temporaryPath path m.salt)) = none ∧
    ∀ m', Usable d' path m' →
      ∃ d'', restoreLatest empty m' path d' = .ok latest d'' ∧ ∀ p, d''.look p = d'.look p

/-- Where a copy can be restored, restoring brings its content back and changes nothing else. That
the file is as `Restorable` afterwards makes the second time like the first. -/
theorem undoes_of_restorable {path name : Text} (h : Restorable path name c d)
    (hm : Usable d path m) (empty : α) :
    Undoes empty m path (join (backupDirectory (directory path)) name) c d := by
  obtain ⟨d', hrestore, hr, h'⟩ := h.restore hm empty
  refine ⟨d', hrestore, hr.read, fun p hp => hr.look_eq h.there hp, hr.temporary, fun m' hm' => ?_⟩
  obtain ⟨d'', hrestore', hr', -⟩ := h'.restore hm' empty
  refine ⟨d'', hrestore', fun p => ?_⟩
  by_cases hp : p = d'.place path
  · rw [hp, hr'.look_place, hr.place_eq, hr.look_place]
  · exact hr'.look_eq h'.there hp

/-- A replacement that is undone has the newest copy: no other copy that counts as one of the file
sorts behind it. -/
theorem LastOf.order_of_undoes (h : LastOf empty before r after c d d')
    (hundone : Undoes empty m r.path r.copyPath c d') :
    InOrder before r ∧ Unmistaken r.path (before ++ r :: after) := by
  obtain ⟨d'', hrestore, -⟩ := hundone
  obtain ⟨all, -, hall, hlatest, -⟩ := restoreLatest_eq_ok.1 hrestore
  obtain ⟨hspelled, hthere⟩ := h.ran.there (List.ne_nil_of_mem LastOf.mem)
  rw [← h.ran.place_eq] at hthere
  obtain ⟨-, hnewest⟩ := (getLast?_backups (h.ran.look_home h.home) hspelled hthere hall).1 hlatest
  have hle {s : Replacement α} (hs : s ∈ before ++ r :: after) (hold : s.old ≠ none)
      (hcounts : base s.path = base r.path ∨ s.Mistaken r.path) :
      Text.le s.copy r.copy = true := by
    have hmem := h.mem_backups_of_counts hall hs hold (isCopyName_copy.2 hcounts)
    rw [← le_copyPath_iff (h.ran.named r LastOf.mem) (h.ran.named s hs) (h.dir s hs)]
    exact hnewest _ hmem
  constructor
  · intro s hs hon hold
    rw [← le_copy_iff hon.2]
    exact hle (List.mem_append_left _ hs) hold (.inl hon.2)
  · intro s hs hold heq
    have hne : base s.path ≠ base r.path := by
      intro hbase
      have := congrArg List.length heq
      simp [hbase] at this
    have hbehind := hle hs hold (.inr ⟨hne, .inr heq⟩)
    rw [not_le_copy heq] at hbehind
    cases hbehind

/-- **Whether the last replacement is undone.** In a run of replacements in one directory, at any
times, putting back a copy of a file undoes the last replacement that kept a copy of it exactly when

* the stamps of the copies of the file that were made before are not behind that of the last one, and
* no other file was replaced whose name with the stamp is the name of the file.

The first is so when the stamps of the run do not go back, and so the second alone decides for stamps
that increase. The files that are there at the end were there before, or they are files or copies of
the run. -/
theorem undoes_iff (h : LastOf empty before r after c d d') (hm : Usable d' r.path m) :
    (Undoes empty m r.path r.copyPath c d' ↔
      InOrder before r ∧ Unmistaken r.path (before ++ r :: after)) ∧
    (Forward (before ++ r :: after) →
      (Undoes empty m r.path r.copyPath c d' ↔ Unmistaken r.path (before ++ r :: after))) ∧
    ∀ p, d'.fileAt p ≠ none → d.fileAt p ≠ none ∨
      ∃ s ∈ before ++ r :: after, p = d.place s.path ∨ s.old ≠ none ∧ p = d.place s.copyPath := by
  have hforward (hf : Forward (before ++ r :: after)) : InOrder before r := fun s hs _ _ =>
    (List.pairwise_append.1 hf).2.2 s hs r List.mem_cons_self
  have hiff : Undoes empty m r.path r.copyPath c d' ↔
      InOrder before r ∧ Unmistaken r.path (before ++ r :: after) :=
    ⟨h.order_of_undoes, fun ⟨horder, hmistaken⟩ => by
      have hundone := undoes_of_restorable (h.restorable hmistaken horder) hm empty
      rwa [← copyPath_eq rfl] at hundone⟩
  refine ⟨hiff, fun hf => ?_, fun p hp => h.run.files h.home hp⟩
  rw [hiff, and_iff_right (hforward hf)]

/-- When a copy is put back. -/
def later : Moment :=
  ⟨Text.lit "19700101-000009", Text.lit "z"⟩

/-- The second time that `a` is written. -/
def second : Replacement Nat :=
  ⟨Text.lit "a", .ofSeconds 1, Text.lit "y", 2, some 1⟩

/-- A run of two replacements in two seconds, on a disk without copies. Restoring undoes the second
one. -/
theorem undoes_iff_of_pair :
    LastOf 0 [⟨Text.lit "a", .ofSeconds 0, Text.lit "x", 1, none⟩] second [] 1 bare
        (afterTwice (Text.lit "a")) ∧
      Usable (afterTwice (Text.lit "a")) second.path later ∧
      Undoes 0 later second.path second.copyPath 1 (afterTwice (Text.lit "a")) := by
  have hlast : LastOf 0 [⟨Text.lit "a", .ofSeconds 0, Text.lit "x", 1, none⟩] second [] 1 bare
      (afterTwice (Text.lit "a")) := by
    refine ⟨by rfl, fun n _ => by rfl, run_twice (.inl rfl), by decide, by decide, rfl, ?_⟩
    simp
  have hm : Usable (afterTwice (Text.lit "a")) second.path later := by
    refine ⟨by decide, by decide, ?_, by rfl⟩
    exact ⟨by decide, by decide, by decide⟩
  have hforward : Forward ([⟨Text.lit "a", .ofSeconds 0, Text.lit "x", 1, none⟩] ++ second :: []) := by
    unfold Forward
    decide
  refine ⟨hlast, hm, ((undoes_iff hlast hm).2.1 hforward).2 ?_⟩
  have hbase : ∀ s ∈ [⟨Text.lit "a", .ofSeconds 0, Text.lit "x", 1, none⟩] ++ second :: [],
      base second.path = base s.path := by decide
  intro s hs _ heq
  have := congrArg List.length heq
  simp [← hbase s hs] at this

/-- A file whose name is that of a copy of `a` up to its ending, written after that copy was made. -/
def first : Replacement Nat :=
  ⟨Text.lit "a.19700101-000001", .ofSeconds 2, Text.lit "x", 3, none⟩

/-- The same file once more. -/
def again : Replacement Nat :=
  ⟨Text.lit "a.19700101-000001", .ofSeconds 3, Text.lit "y", 4, some 3⟩

/-- A disk with what `a` and that file hold and with copies. -/
def withCopies (content : Nat) (copies : List (Text × Entry Nat)) : Disk Nat :=
  ⟨.directory [(Text.lit "a", .file 2),
    (stateName, .directory [(Text.lit "backups",
      .directory ((Text.lit "a.19700101-000001.bak", .file 1) :: copies))]),
    (first.path, .file content)], []⟩

/-- Two files are written twice, one after the other and each time at a later second. Of the second
one not what it held comes back, but what the first one held. -/
theorem restoreLatest_of_copy_name :
    LastOf 0 (twice (Text.lit "a") ++ [first]) again [] 3 bare
        (withCopies 4 [(again.copy, .file 3)]) ∧
      (twice (Text.lit "a") ++ [first, again]).Pairwise
        (fun s t => Text.le t.moment.stamp s.moment.stamp = false) ∧
      Usable (withCopies 4 [(again.copy, .file 3)]) again.path later ∧
      ¬ Undoes 0 later again.path again.copyPath 3 (withCopies 4 [(again.copy, .file 3)]) ∧
      ∃ d', restoreLatest 0 later again.path (withCopies 4 [(again.copy, .file 3)]) =
          .ok (Text.lit ".mdrpy/backups/a.19700101-000001.bak") d' ∧ d'.read again.path = .ok 1 := by
  have hfind : (withCopies 4 [(again.copy, .file 3)]).find (backupDirectory (directory again.path)) =
      .ok (.directory [(Text.lit "a.19700101-000001.bak", .file 1), (again.copy, .file 3)]) := by rfl
  have hall : backups (withCopies 4 [(again.copy, .file 3)]) again.path =
      .ok [again.copyPath, Text.lit ".mdrpy/backups/a.19700101-000001.bak"] :=
    backups_of_find hfind (by decide) (by decide)
  obtain ⟨d', hrestore, hread⟩ : ∃ d',
      restoreLatest 0 later again.path (withCopies 4 [(again.copy, .file 3)]) =
        .ok (Text.lit ".mdrpy/backups/a.19700101-000001.bak") d' ∧ d'.read again.path = .ok 1 :=
    ⟨_, restoreLatest_eq_ok.2 ⟨_, 1, hall, rfl, by rfl, by rfl⟩, by rfl⟩
  refine ⟨?_, by decide, ?_, ?_, d', hrestore, hread⟩
  · refine ⟨by rfl, fun n _ => by rfl, ?_, by decide, by decide, rfl, by simp⟩
    apply Run.append_iff.2
    refine ⟨withCopies 3 [], ?_, .cons ?_ (.nil _)⟩
    · apply Run.append_iff.2
      refine ⟨_, run_twice (.inl rfl), .cons ?_ (.nil _)⟩
      exact ⟨by decide, by decide, by rfl, by rfl⟩
    · exact ⟨by decide, by decide, by rfl, by rfl⟩
  · refine ⟨by decide, by decide, ?_, by rfl⟩
    exact ⟨by decide, by decide, by decide⟩
  · rintro ⟨d'', hother, -⟩
    have hpath : again.copyPath ≠ Text.lit ".mdrpy/backups/a.19700101-000001.bak" := by decide
    have hsame := EStateM.Result.ok.inj (hrestore.symm.trans hother)
    exact hpath hsame.1.symm

end Replacement

end NovelScript.Files
