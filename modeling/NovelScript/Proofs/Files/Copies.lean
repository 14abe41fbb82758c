import NovelScript.Number.Calendar
import NovelScript.Proofs.Files.Alike

/-!
# What a replacement leaves behind

`writeAtomic_ok` says which files a replacement changes. Here is the whole disk: what stands at every
place, the names in the directory for copies among them.

* **`replaced_of_writeAtomic`**: after a replacement that succeeds the path reads as the new content,
  the file that was written first is gone, the copy holds what the file held, and nothing else
  stands anywhere that did not stand there before, but for the directories above the two files.
* **`Replaced.dirs`**: directories stay.

The steps of the work are taken in turn: the directory is made and the copy is kept
(`kept_of_keepBackup`, `prepared_of_makeAll`), and the new file is written and moved
(`stack_write_move`, `Prepared.moved`). Only the move can meet a directory in the place of the path;
when a copy is kept, the copying would have failed before (`no_directory_of_kept`).
-/

namespace NovelScript.Files

variable {α : Type}

/-- A list does not go on in front of itself. -/
theorem not_concat_isPrefix {β : Type} (l : List β) (x : β) : ¬ l ++ [x] <+: l := by
  intro hpre
  have := hpre.length_le
  rw [List.length_append, List.length_singleton] at this
  omega

namespace Entry

/-- Taking away a file that hides nothing is seen at its place and above it only. A file that hides
another one of its name would bring that one to light. -/
theorem stack_set_none {e : Entry α} {dir p : List Text} {name : Text} {c : α}
    (hdir : e.look dir = some none) (hstack : e.stack (dir ++ [name]) = [.file c])
    (hp : ¬ p <+: dir) (hne : p ≠ dir ++ [name]) :
    (e.set none (dir ++ [name])).stack p = e.stack p := by
  have hgone : (e.set none (dir ++ [name])).stack (dir ++ [name]) = [] := by
    rw [stack_set_append none name hdir, hstack]
    rfl
  by_cases hpre : dir ++ [name] <+: p
  · obtain ⟨more, rfl⟩ := hpre
    have hmore : more ≠ [] := by
      rintro rfl
      simp at hne
    have hfile : e.get? (dir ++ [name]) = some (.file c) := by
      rw [← head?_stack, hstack]
      rfl
    have hafter : (e.set none (dir ++ [name])).get? (dir ++ [name] ++ more) = none := by
      rw [get?_append, stack_eq_nil.1 hgone, Option.bind_none]
    have hbefore : e.get? (dir ++ [name] ++ more) = none := by
      rw [get?_append, hfile, Option.bind_some, get?_file c hmore]
    rw [stack_eq_nil.2 hafter, stack_eq_nil.2 hbefore]
  · apply stack_set_of_apart none hpre
    intro hpre'
    rcases List.prefix_concat_iff.1 hpre' with heq | hpre'
    · exact hne heq
    · exact hp hpre'

end Entry

namespace Disk

variable {d d' : Disk α}

/-- Putting a file somewhere makes no directory. -/
theorem look_of_look_put_file {c : α} {p q : List Text}
    (h : (d.put (some (.file c)) p).look q = some none) : d.look q = some none := by
  by_cases hpre : p <+: q
  · obtain ⟨more, rfl⟩ := hpre
    rcases Entry.set_some_cases d.root (.file c) p with hsame | hset
    · rw [look, put, hsame] at h
      exact h
    · rw [look, put, Entry.look, hset more] at h
      cases more <;> simp [Entry.get?, Entry.held] at h
  · rw [look, put, Entry.look_set_of_not_isPrefix _ hpre] at h
    exact h

/-- Where the same entries stand under a name on both disks, the same file is found there. -/
theorem fileAt_eq_of_stack {p : List Text} (h : d'.stack p = d.stack p) :
    d'.fileAt p = d.fileAt p := by
  rw [fileAt, fileAt, Entry.fileAt, Entry.fileAt]
  exact congrArg Option.join (look_eq_of_stack h)

/-- Where a directory stands, what can be found after a file was written could be found before.
Writing makes no directory, so nothing else can become reachable. -/
theorem find_of_find_write {source target : Text} {c : α} {e : Entry α}
    (hwrite : d.write target c = .ok d') (hfind : d'.find source = .ok e)
    (hno : d.look (d.place source) = some none) : ∃ e, d.find source = .ok e := by
  obtain ⟨-, rfl⟩ := write_eq_ok hwrite
  obtain ⟨p, hp, -⟩ := find_eq_ok.1 hfind
  obtain ⟨hne, hzero, hfollow, hwants, -⟩ := locate_eq_ok.1 hp
  have hplace := locate_names hp
  rw [place_put] at hplace
  obtain ⟨es, hes⟩ := Entry.look_eq_directory.1 hno
  refine ⟨.directory es, find_eq_ok.2 ⟨p, locate_eq_ok.2 ⟨hne, hzero, ?_, hwants, ?_⟩, ?_⟩⟩
  · exact follow_mono (fun q hq => look_of_look_put_file hq) hfollow
  · intro c' hc'
    rw [hplace, hno] at hc'
    cases hc'
  · rw [hplace, hes]

/-- A file that hides nothing is moved within its directory: it is gone from where it was, and
besides its new place nothing has changed. -/
theorem stack_rename {source target name other : Text} {dir : List Text} {c : α}
    (h : d.rename source target = .ok d') (hsource : d.place source = dir ++ [other])
    (htarget : d.place target = dir ++ [name]) (hne : name ≠ other)
    (hdir : d.look dir = some none) (hfile : d.stack (dir ++ [other]) = [.file c]) :
    d'.stack (dir ++ [other]) = [] ∧
      ∀ p, ¬ p <+: dir → p ≠ dir ++ [other] → p ≠ dir ++ [name] → d'.stack p = d.stack p := by
  obtain ⟨x, p, hx, -, hno, -, rfl⟩ := rename_eq_ok h
  rw [hsource] at hx
  rw [htarget] at hno
  rw [hsource, htarget]
  -- what is moved is the file that stands alone at the source
  have hxc : x = .file c := by
    have hhead : d.root.get? (dir ++ [other]) = some (.file c) := by
      rw [← Entry.head?_stack, show d.root.stack _ = _ from hfile]
      rfl
    rw [hx] at hhead
    exact Option.some.inj hhead
  subst hxc
  have hgone : (d.put none (dir ++ [other])).stack (dir ++ [other]) = [] := by
    rw [stack, put, Entry.stack_set_append none other hdir, show d.root.stack _ = _ from hfile]
    rfl
  have hkept {q : List Text} (hq : ¬ q <+: dir) (hqo : q ≠ dir ++ [other]) :
      (d.put none (dir ++ [other])).stack q = d.stack q :=
    Entry.stack_set_none hdir hfile hq hqo
  have hnot := not_concat_isPrefix dir
  have hnames : dir ++ [name] ≠ dir ++ [other] := by simpa using hne
  have hno' : (d.put none (dir ++ [other])).look (dir ++ [name]) ≠ some none := by
    rw [look_eq_of_stack (hkept (hnot name) hnames)]
    exact hno
  -- the two halves of a move: taken away there, put down here
  have hput {q : List Text} (hq : ¬ q <+: dir ++ [name]) :
      ((d.put none (dir ++ [other])).put (some (.file c)) (dir ++ [name])).stack q =
        (d.put none (dir ++ [other])).stack q :=
    Entry.stack_set_leaf (fun more hm => Entry.get?_file c hm) hno' hq
  constructor
  · rw [hput ?_, hgone]
    intro hpre
    have := hpre.eq_of_length (by simp)
    exact hnames this.symm
  · intro q hq hqo hqn
    rw [hput ?_, hkept hq hqo]
    intro hpre
    rcases List.prefix_concat_iff.1 hpre with heq | hpre
    · exact hqn heq
    · exact hq hpre

/-- A directory that is there need not be made. -/
theorem makeAll_of_directory {s : Text} (hhome : d.look d.home = some none)
    (hspelled : Spelled (clean s)) (hdir : d.look (d.place (clean s)) = some none) :
    d.makeAll (clean s) = .ok d := by
  obtain ⟨es, hes⟩ := Entry.look_eq_directory.1 hdir
  have hfind := (find_isOk hhome (isPlain_clean s)).2 ⟨hspelled, hes⟩
  rw [makeAll, makeDirectories, hfind]

/-- Making the directory of a file does not change what is read. Where the directory was missing,
the file was too, and it still is. -/
theorem toOption_read_makeAll {path name : Text} (hhome : d.look d.home = some none)
    (hplace : d.place path = d.place (directory path) ++ [name])
    (h : d.makeAll (directory path) = .ok d') : (d'.read path).toOption = (d.read path).toOption := by
  by_cases hdir : d.look (d.place (directory path)) = some none
  · have hspelled := ((makeAll_spec hhome _).2 d' h).1
    have hsame := makeAll_of_directory hhome hspelled hdir
    cases h.symm.trans hsame
    rfl
  · -- without the directory there is no file
    obtain ⟨hhome', hfiles⟩ := makeAll_ok h
    have hnone : d.fileAt (d.place path) = none := by
      rw [Option.eq_none_iff_forall_ne_some]
      intro c hc
      rw [hplace] at hc
      apply hdir
      apply Entry.look_of_append (List.cons_ne_nil name [])
      rw [show d.root.look _ = _ from fileAt_eq_some.1 hc]
      simp
    have hunread {e : Disk α} (he : e.fileAt (e.place path) = none) :
        (e.read path).toOption = none := by
      cases hr : e.read path with
      | error x => rfl
      | ok c => cases he.symm.trans (fileAt_of_read hr)
    rw [hunread hnone, hunread]
    rw [place, hhome', ← place, hfiles, hnone]

end Disk

open Disk

/-! ## Places -/

/-- The place of the copies of the files in a directory. -/
def copiesPlace (dir : List Text) : List Text :=
  dir ++ [stateName, Text.lit "backups"]

/-- A copy is not above the files of its directory. -/
theorem not_copiesPlace_isPrefix (dir : List Text) (n : Text) : ¬ copiesPlace dir ++ [n] <+: dir := by
  intro hpre
  have := hpre.length_le
  simp only [copiesPlace, List.length_append, List.length_cons] at this
  omega

/-- A copy is not among the files of its directory. -/
theorem copiesPlace_concat_ne (dir : List Text) (n name : Text) :
    copiesPlace dir ++ [n] ≠ dir ++ [name] := by
  intro heq
  have := congrArg List.length heq
  simp [copiesPlace] at this

/-- One name leads from a directory to its copies. -/
theorem eq_stateName_of_isPrefix {dir : List Text} {name n : Text}
    (h : dir ++ [name] <+: copiesPlace dir ++ [n]) : name = stateName := by
  rw [copiesPlace, List.append_assoc, List.prefix_append_right_inj] at h
  simpa using h

section

variable {path stamp salt : Text}

/-- The directory of the copies stands in the state directory beside the file. -/
theorem place_backupDirectory (d : Disk α) {dir : Text} (h : dir ≠ []) :
    d.place (backupDirectory dir) = copiesPlace (d.place dir) := by
  have hstate : Proper stateName := by decide
  have hbackups : Proper (Text.lit "backups") := by decide
  have hne : join dir stateName ≠ [] := by
    rw [← clean_join h]
    exact clean_ne_nil _
  rw [place, backupDirectory, placeOf_join hne hbackups, placeOf_join h hstate, copiesPlace,
    List.append_assoc]
  rfl

/-- A copy stands in the directory of the copies, under a name that the file and the stamp
determine. -/
theorem place_backupPath (d : Disk α) (hbase : slash ∉ base path) (hstamp : slash ∉ stamp) :
    d.place (backupPath path stamp) =
      copiesPlace (d.place (directory path)) ++ [copyName path stamp] := by
  rw [← place_backupDirectory d (directory_ne_nil path)]
  exact placeOf_join (backupDirectory_ne_nil _) (proper_copyName hbase hstamp) d.home

/-- One level above a copy stands the directory of the copies. -/
theorem place_directory_backupPath (d : Disk α) (hbase : slash ∉ base path)
    (hstamp : slash ∉ stamp) :
    d.place (directory (backupPath path stamp)) = copiesPlace (d.place (directory path)) := by
  obtain ⟨hleaf, -⟩ := leaf_join (backupDirectory_ne_nil (directory path))
    (proper_copyName hbase hstamp)
  have hplace := place_backupPath d hbase hstamp
  rw [place, backupPath, ← copyName, hleaf.place] at hplace
  exact (List.append_inj' hplace rfl).1

/-- A replacement is prepared in the directory of the file, so that moving it into place does not
leave this directory. -/
theorem place_temporaryPath (d : Disk α) (hbase : slash ∉ base path) (hsalt : slash ∉ salt) :
    d.place (temporaryPath path salt) =
      d.place (directory path) ++ [temporaryName path salt] :=
  placeOf_join (directory_ne_nil path) (proper_temporaryName hbase hsalt) d.home

/-- A file stands in its directory under its own name. -/
theorem place_of_named (d : Disk α) (h : Proper (splitLast path).2) :
    d.place path = d.place (directory path) ++ [base path] := by
  rw [base_eq h.1]
  exact (placeOf_splitLast d.home path).trans (enter_of_proper h _)

end

/-! ## The copy -/

section

variable {empty content : α} {m : Moment} {path : Text} {backup : Bool} {d d' : Disk α}

/-- A copy that was made if there is something: what is there is a file then. Of a directory no copy
can be made, so a replacement of one fails here. -/
theorem keepBackup_eq_ok (h : keepBackup empty m path d = .ok () d') :
    (d.isThere path = false ∧ d' = d) ∨
      ∃ c d₁, d.find path = .ok (.file c) ∧
        d.makeAll (directory (backupPath path m.stamp)) = .ok d₁ ∧
        d₁.write (backupPath path m.stamp) c = .ok d' := by
  refine (keepBackup_cases h).imp_right fun hcopy => ?_
  rw [copy_eq] at hcopy
  split at hcopy
  · cases hcopy
  rename_i entry hfind
  obtain ⟨_, d₁, hmake, hcopy⟩ := bind_eq_ok.1 hcopy
  cases entry with
  | file c => exact ⟨c, d₁, hfind, change_eq_ok.1 hmake, change_eq_ok.1 hcopy⟩
  | directory es =>
    obtain ⟨_, d₂, -, hthrow⟩ := bind_eq_ok.1 hcopy
    cases hthrow

/-- What making a copy does to the disk. -/
structure Kept (m : Moment) (path : Text) (c : α) (d d' : Disk α) : Prop where
  found : d.find path = .ok (.file c)
  ne_state : base path ≠ stateName
  spelled : Spelled (backupPath path m.stamp)
  dirs : ∀ p, d.look p = some none → d'.look p = some none
  copied : d'.stack (d.place (backupPath path m.stamp)) =
    .file c :: (d.stack (d.place (backupPath path m.stamp))).tail
  standing : ∀ p, ¬ p <+: d.place (backupPath path m.stamp) → d'.stack p = d.stack p

/-- **Putting a copy aside, as seen afterwards**: there was no file and nothing was done, or the
file's content now stands in the copy. -/
theorem kept_of_keepBackup (hhome : d.look d.home = some none) (hnamed : Proper (splitLast path).2)
    (hstamp : slash ∉ m.stamp) (h : keepBackup empty m path d = .ok () d') :
    (d.isThere path = false ∧ d' = d) ∨ ∃ c, Kept m path c d d' := by
  rcases keepBackup_eq_ok h with hnot | ⟨c, d₁, hfind, hmake, hwrite⟩
  · exact .inl hnot
  right
  have hbase : slash ∉ base path := (proper_base hnamed).2.1
  have hcopies := place_directory_backupPath d hbase hstamp
  have hplace := place_backupPath d hbase hstamp
  obtain ⟨-, hclear, hthere, hstacks⟩ :
      Spelled (directory (backupPath path m.stamp)) ∧
        d.Clear (d.place (directory (backupPath path m.stamp))) ∧
        Raised d (d.place (directory (backupPath path m.stamp))) d₁ :=
    (makeAll_spec hhome _).2 d₁ hmake
  rw [hcopies] at hclear hthere hstacks
  -- from here on there is one place in question, the directory of the file
  generalize hdir : d.place (directory path) = dir at *
  have hhome₁ : d₁.home = d.home := (makeAll_ok hmake).1
  have hlook₁ := look_home_makeAll hmake hhome
  have hleaf : Leaf (backupPath path m.stamp) :=
    (leaf_join (backupDirectory_ne_nil _) (proper_copyName hbase hstamp)).1
  obtain ⟨hspelled, -, hno⟩ := (write_isOk hlook₁ hleaf.plain c).1 ⟨d', hwrite⟩
  obtain ⟨-, rfl⟩ := write_eq_ok hwrite
  have hplace₁ : d₁.place (backupPath path m.stamp) = d.place (backupPath path m.stamp) := by
    rw [place, hhome₁, ← place]
  rw [hplace₁, hplace] at hno ⊢
  refine ⟨c, hfind, ?_, hspelled, fun p hp => ?_, ?_, fun p hp => ?_⟩
  · -- no file is above the copy
    intro hstate
    have hfile := fileAt_of_read (read_eq_ok.2 hfind)
    rw [place_of_named d hnamed, hdir, hstate] at hfile
    have hnone := hclear (dir ++ [stateName]) ⟨[Text.lit "backups"], by simp [copiesPlace]⟩
    rw [hnone] at hfile
    cases hfile
  · have hp₁ := look_makeAll hmake hp
    rw [← hp₁]
    exact Entry.look_set_of_not_isPrefix _ (Entry.not_isPrefix_directory hno hp₁)
  · rw [hplace, ← hstacks _ (not_concat_isPrefix _ _)]
    exact Entry.stack_set_append (some (.file c)) _ hthere
  · rw [hplace] at hp
    rw [← hstacks p fun hpre => hp (hpre.trans (List.prefix_append _ _))]
    exact Entry.stack_set_leaf (fun more hm => Entry.get?_file c hm) hno hp

/-! ## The replacement -/

/-- A copy was put beside the others, perhaps over an older one of the same name. -/
structure Copied (m : Moment) (path : Text) (c : α) (d d' : Disk α) : Prop where
  ne_state : base path ≠ stateName
  spelled : Spelled (backupPath path m.stamp)
  no_directory : d.look (d.place (backupPath path m.stamp)) ≠ some none
  stack : d'.stack (d.place (backupPath path m.stamp)) =
    .file c :: (d.stack (d.place (backupPath path m.stamp))).tail

/-- What a replacement does to the disk; `kept` is what the file held before, if that is kept. -/
structure Replaced (m : Moment) (path : Text) (content : α) (kept : Option α) (d d' : Disk α) :
    Prop where
  notBlank : Text.isBlank path = false
  named : Proper (splitLast path).2
  spelled : Spelled (directory path)
  home : d'.home = d.home
  no_directory : d.look (d.place path) ≠ some none
  read : d'.read path = .ok content
  temporary : d'.look (d.place (temporaryPath path m.salt)) = none
  copied : ∀ c, kept = some c → Copied m path c d d'
  standing : ∀ p, p ≠ d.place path → ¬ p <+: d.place (directory path) →
    (kept ≠ none → ¬ p <+: d.place (backupPath path m.stamp)) → d'.stack p = d.stack p
  files : ∀ p, p ≠ d.place path → (kept ≠ none → p ≠ d.place (backupPath path m.stamp)) →
    d'.fileAt p = d.fileAt p

/-- The steps of a replacement that succeeds, in order: the directory, the copy if one is asked for,
the new content beside the file, and the move. -/
theorem writeAtomic_eq_ok (h : writeAtomic empty m backup path content d = .ok () d') :
    Text.isBlank path = false ∧ ∃ d₁ d₂ d₃ d₄, d.makeAll (directory path) = .ok d₁ ∧
      ((backup = false ∧ d₂ = d₁) ∨ (backup = true ∧ keepBackup empty m path d₁ = .ok () d₂)) ∧
      d₂.write (temporaryPath path m.salt) content = .ok d₃ ∧
      (d₄ = d₃ ∨ d₃.isThere path = true ∧ d₃.remove path = .ok d₄) ∧
      d₄.rename (temporaryPath path m.salt) path = .ok d' := by
  rw [writeAtomic_eq] at h
  split at h
  · cases h
  rename_i hblank
  obtain ⟨_, d₁, hmake, h⟩ := bind_eq_ok.1 h
  obtain ⟨_, d₂, hback, h⟩ := bind_eq_ok.1 h
  obtain ⟨_, d₃, hwrite, h⟩ := bind_eq_ok.1 h
  obtain ⟨d₄, hway, hren⟩ := moveIntoPlace_eq_ok h
  refine ⟨by simpa using hblank, d₁, d₂, d₃, d₄, change_eq_ok.1 hmake, ?_, change_eq_ok.1 hwrite,
    hway, hren⟩
  cases backup with
  | false =>
    cases hback
    exact .inl ⟨rfl, rfl⟩
  | true => exact .inr ⟨rfl, hback⟩

/-- The new file is written beside the path and moved there: afterwards it is gone from where it was
written, and besides the path nothing has changed. -/
theorem stack_write_move {temporary name other : Text} {dir : List Text} {d₁ d₂ : Disk α}
    (htemp : d.place temporary = dir ++ [other]) (hplace : d.place path = dir ++ [name])
    (hne : name ≠ other) (hdir : d.look dir = some none) (hfree : d.stack (dir ++ [other]) = [])
    (hwrite : d.write temporary content = .ok d₁)
    (hway : d₂ = d₁ ∨ d₁.isThere path = true ∧ d₁.remove path = .ok d₂)
    (hren : d₂.rename temporary path = .ok d') :
    d'.stack (dir ++ [other]) = [] ∧
      ∀ p, ¬ p <+: dir → p ≠ dir ++ [other] → ¬ dir ++ [name] <+: p → d'.stack p = d.stack p := by
  obtain ⟨hno, rfl⟩ := write_eq_ok hwrite
  rw [htemp] at hno hway
  have hnames : dir ++ [name] ≠ dir ++ [other] := by simpa using hne
  have hapart : ¬ dir ++ [name] <+: dir ++ [other] := fun hpre =>
    hnames (hpre.eq_of_length (by simp))
  have hapart' : ¬ dir ++ [other] <+: dir ++ [name] := fun hpre =>
    hnames (hpre.eq_of_length (by simp)).symm
  have hwritten : (d.put (some (.file content)) (dir ++ [other])).stack (dir ++ [other]) =
      [.file content] := by
    rw [stack, put, Entry.stack_set_append _ _ hdir, show d.root.stack _ = _ from hfree]
    rfl
  have hkept {p : List Text} (hp : ¬ p <+: dir) (hpo : p ≠ dir ++ [other]) :
      (d.put (some (.file content)) (dir ++ [other])).stack p = d.stack p := by
    apply Entry.stack_set_leaf (fun more hm => Entry.get?_file content hm) hno
    intro hpre
    rcases List.prefix_concat_iff.1 hpre with heq | hpre
    · exact hpo heq
    · exact hp hpre
  have hdir₁ : (d.put (some (.file content)) (dir ++ [other])).look dir = some none :=
    (Entry.look_set_of_not_isPrefix _ (not_concat_isPrefix dir other)).trans hdir
  -- what stood in the way may be gone, and no other stack is changed by that
  have hway' : d₂.home = d.home ∧ d₂.look dir = some none ∧ ∀ p, ¬ p <+: dir →
      ¬ dir ++ [name] <+: p →
      d₂.stack p = (d.put (some (.file content)) (dir ++ [other])).stack p := by
    rcases hway with rfl | ⟨-, hrem⟩
    · exact ⟨rfl, hdir₁, fun _ _ _ => rfl⟩
    · obtain ⟨-, rfl⟩ := remove_eq_ok hrem
      rw [place_put, hplace]
      refine ⟨rfl, ?_, fun p hp hpn => ?_⟩
      · exact (Entry.look_set_of_not_isPrefix _ (not_concat_isPrefix dir name)).trans hdir₁
      · apply Entry.stack_set_of_apart none hpn
        intro hpre
        rcases List.prefix_concat_iff.1 hpre with rfl | hpre
        · exact hpn (List.prefix_refl _)
        · exact hp hpre
  obtain ⟨hhome, hdir₂, hstacks⟩ := hway'
  have hsame (q : Text) : d₂.place q = d.place q := by rw [place, place, hhome]
  obtain ⟨hgone, hrest⟩ := stack_rename hren ((hsame _).trans htemp) ((hsame _).trans hplace) hne
    hdir₂ ((hstacks _ (not_concat_isPrefix dir other) hapart).trans hwritten)
  refine ⟨hgone, fun p hp hpo hpn => ?_⟩
  have hne' : p ≠ dir ++ [name] := by
    rintro rfl
    exact hpn (List.prefix_refl _)
  rw [hrest p hp hpo hne', hstacks p hp hpn, hkept hp hpo]

/-- A replacement that keeps a copy replaces no directory, because what was copied was read as a
file. -/
theorem no_directory_of_kept {d₁ d₂ d₃ d₄ : Disk α} (hhome : d.look d.home = some none)
    (hmake : d.makeAll (directory path) = .ok d₁) (hnamed : Proper (splitLast path).2)
    (hstamp : slash ∉ m.stamp) (hkeep : keepBackup empty m path d₁ = .ok () d₂)
    (hwrite : d₂.write (temporaryPath path m.salt) content = .ok d₃)
    (hway : d₄ = d₃ ∨ d₃.isThere path = true ∧ d₃.remove path = .ok d₄)
    (hren : d₄.rename (temporaryPath path m.salt) path = .ok d') :
    d.look (d.place path) ≠ some none := by
  intro hdir
  have hhome₁ : d₁.home = d.home := (makeAll_ok hmake).1
  have hlook₁ := look_home_makeAll hmake hhome
  have hplace₁ : d₁.place path = d.place path := by rw [place, place, hhome₁]
  have hdir₁ : d₁.look (d₁.place path) = some none := by
    rw [hplace₁]
    exact look_makeAll hmake hdir
  rcases kept_of_keepBackup hlook₁ hnamed hstamp hkeep with ⟨hnot, rfl⟩ | ⟨c, hkept⟩
  · rcases hway with rfl | ⟨hthere, -⟩
    · -- a directory in the place refuses the move
      obtain ⟨-, -, -, -, hlook, -⟩ := rename_eq_ok hren
      obtain ⟨hno, rfl⟩ := write_eq_ok hwrite
      apply hlook
      rw [place_put, ← hdir₁]
      exact Entry.look_set_of_not_isPrefix _ (Entry.not_isPrefix_directory hno hdir₁)
    · -- what is taken away was not there before
      obtain ⟨e, he⟩ := isThere_eq_true.1 hthere
      rw [isThere_eq_true.2 (find_of_find_write hwrite he hdir₁)] at hnot
      cases hnot
  · have hfile := Entry.look_eq_file.2 (get?_of_find hkept.found)
    rw [show d₁.root.look _ = _ from hdir₁] at hfile
    cases hfile

/-- The disk before the new file is written: the directory is there, and so is the copy that shall be
kept; nothing else has changed but for the directories above. -/
structure Prepared (m : Moment) (path : Text) (kept : Option α) (d d' : Disk α) : Prop where
  home : d'.home = d.home
  there : d'.look (d.place (directory path)) = some none
  copied : ∀ c, kept = some c → Copied m path c d d'
  standing : ∀ p, ¬ p <+: d.place (directory path) →
    (kept ≠ none → ¬ p <+: d.place (backupPath path m.stamp)) → d'.stack p = d.stack p

/-- Where nothing is found nothing is read. -/
theorem toOption_read_of_not_isThere (h : d.isThere path = false) : (d.read path).toOption = none := by
  cases hfind : d.find path with
  | ok e =>
    rw [isThere_eq_true.2 ⟨e, hfind⟩] at h
    cases h
  | error x => simp [Disk.read, hfind, Except.toOption]

/-- From a copy that was put aside to the state in which the new content is written: the directory
is there, and the old content stands in its copy. -/
theorem Kept.prepared {c : α} {d₁ : Disk α} (h : Kept m path c d₁ d')
    (hmake : d.makeAll (directory path) = .ok d₁)
    (hraised : Raised d (d.place (directory path)) d₁) (hhome' : d'.home = d₁.home)
    (hplace : d.place (backupPath path m.stamp) =
      copiesPlace (d.place (directory path)) ++ [copyName path m.stamp]) :
    Prepared m path (some c) d d' := by
  have hhome₁ : d₁.home = d.home := (makeAll_ok hmake).1
  have hcopied := h.copied
  have hstanding := h.standing
  rw [show d₁.place (backupPath path m.stamp) = d.place (backupPath path m.stamp) by
    rw [place, place, hhome₁]] at hcopied hstanding
  have hup : ¬ d.place (backupPath path m.stamp) <+: d.place (directory path) := by
    rw [hplace]
    exact not_copiesPlace_isPrefix _ _
  rw [hraised.standing _ hup] at hcopied
  refine ⟨hhome'.trans hhome₁, h.dirs _ hraised.there, fun c' hc' => ?_, fun p hpd hpc => ?_⟩
  · cases hc'
    refine ⟨h.ne_state, h.spelled, fun hdir => ?_, hcopied⟩
    have hlook := h.dirs _ (look_makeAll hmake hdir)
    rw [look, Entry.look, ← Entry.head?_stack, show d'.root.stack _ = _ from hcopied] at hlook
    cases hlook
  · rw [hstanding p (hpc (Option.some_ne_none c)), hraised.standing p hpd]

/-- The directory is made, and the copy is kept that shall be kept. Behind these two parts only the
new content is missing. -/
theorem prepared_of_makeAll {d₁ d₂ : Disk α} (hhome : d.look d.home = some none)
    (hmake : d.makeAll (directory path) = .ok d₁) (hnamed : Proper (splitLast path).2)
    (hstamp : slash ∉ m.stamp)
    (hback : (backup = false ∧ d₂ = d₁) ∨
      (backup = true ∧ keepBackup empty m path d₁ = .ok () d₂)) :
    Prepared m path (if backup then (d.read path).toOption else none) d d₂ := by
  have hraised : Raised d (d.place (directory path)) d₁ := ((makeAll_spec hhome _).2 d₁ hmake).2.2
  have hunkept : Prepared m path none d d₁ :=
    ⟨(makeAll_ok hmake).1, hraised.there, nofun, fun p hp _ => hraised.standing p hp⟩
  rcases hback with ⟨rfl, rfl⟩ | ⟨rfl, hkeep⟩
  · exact hunkept
  rw [if_pos rfl, ← toOption_read_makeAll hhome (place_of_named d hnamed) hmake]
  rcases kept_of_keepBackup (look_home_makeAll hmake hhome) hnamed hstamp hkeep with
    ⟨hnot, rfl⟩ | ⟨c, hkept⟩
  · rw [toOption_read_of_not_isThere hnot]
    exact hunkept
  · rw [read_eq_ok.2 hkept.found]
    exact hkept.prepared hmake hraised (keepBackup_ok hkeep).1
      (place_backupPath d (proper_base hnamed).2.1 hstamp)

/-- The name of the file that is written first is still free. -/
theorem Prepared.stack_temporary {kept : Option α} {d₂ : Disk α} (h : Prepared m path kept d d₂)
    (hnamed : Proper (splitLast path).2) (hsalt : slash ∉ m.salt) (hstamp : slash ∉ m.stamp)
    (hfresh : d.look (d.place (temporaryPath path m.salt)) = none) :
    d₂.stack (d.place (directory path) ++ [temporaryName path m.salt]) = [] := by
  have hbase := proper_base hnamed
  rw [h.standing _ (not_concat_isPrefix _ _) fun _ hpre => ?_]
  · rw [← place_temporaryPath d hbase.2.1 hsalt]
    exact Entry.stack_eq_nil.2 (Entry.look_eq_none.1 hfresh)
  · rw [place_backupPath d hbase.2.1 hstamp] at hpre
    exact temporaryName_ne_state hbase.1 m.salt (eq_stateName_of_isPrefix hpre)

/-- What stood on the prepared disk stands there after the move, but for the path itself: below it
there is nothing, before and after. -/
theorem Prepared.moved {kept : Option α} {d₂ d₃ d₄ : Disk α} (h : Prepared m path kept d d₂)
    (hnamed : Proper (splitLast path).2) (hsalt : slash ∉ m.salt) (hstamp : slash ∉ m.stamp)
    (hfresh : d.look (d.place (temporaryPath path m.salt)) = none)
    (hno : d.look (d.place path) ≠ some none) (hno' : d'.look (d.place path) ≠ some none)
    (hwrite : d₂.write (temporaryPath path m.salt) content = .ok d₃)
    (hway : d₄ = d₃ ∨ d₃.isThere path = true ∧ d₃.remove path = .ok d₄)
    (hren : d₄.rename (temporaryPath path m.salt) path = .ok d') :
    d'.stack (d.place (temporaryPath path m.salt)) = [] ∧
      (∀ c, kept = some c → Copied m path c d d') ∧
      ∀ p, p ≠ d.place path → ¬ p <+: d.place (directory path) →
        (kept ≠ none → ¬ p <+: d.place (backupPath path m.stamp)) → d'.stack p = d.stack p := by
  have hbase := proper_base hnamed
  have hplace := place_of_named d hnamed
  have htemp := place_temporaryPath d hbase.2.1 hsalt
  have hplaces (q : Text) : d₂.place q = d.place q := by rw [place, place, h.home]
  have hfree := h.stack_temporary hnamed hsalt hstamp hfresh
  obtain ⟨hgone, hlate⟩ := stack_write_move ((hplaces _).trans htemp) ((hplaces _).trans hplace)
    (temporaryName_ne_base path m.salt).symm h.there hfree hwrite hway hren
  refine ⟨by rw [htemp, hgone], fun c hc => ?_, fun p hp hpd hpc => ?_⟩
  · obtain ⟨hstate, hspelled, hcopy, hstack⟩ := h.copied c hc
    refine ⟨hstate, hspelled, hcopy, ?_⟩
    rw [place_backupPath d hbase.2.1 hstamp] at hstack ⊢
    rw [hlate _ (not_copiesPlace_isPrefix _ _) (copiesPlace_concat_ne _ _ _) ?_, hstack]
    exact fun hpre => hstate (eq_stateName_of_isPrefix hpre)
  · by_cases hpn : d.place path <+: p
    · obtain ⟨more, rfl⟩ := hpn
      have hmore : more ≠ [] := by
        rintro rfl
        simp at hp
      have hnone {e : Disk α} (he : e.look (d.place path) ≠ some none) :
          e.stack (d.place path ++ more) = [] :=
        Entry.stack_eq_nil.2 (Entry.look_eq_none.1 (Entry.look_append_eq_none hmore he))
      rw [hnone hno', hnone hno]
    · rw [hplace] at hpn
      by_cases hpt : p = d.place (directory path) ++ [temporaryName path m.salt]
      · rw [← h.standing p hpd hpc, hpt, hgone, hfree]
      · rw [hlate p hpd hpt hpn, h.standing p hpd hpc]

/-- **What a replacement that succeeds does to the disk.** Where no copy is kept, no directory may
stand in the place. -/
theorem replaced_of_writeAtomic (hhome : d.look d.home = some none) (hsalt : slash ∉ m.salt)
    (hstamp : slash ∉ m.stamp)
    (hfresh : d.look (d.place (temporaryPath path m.salt)) = none)
    (hno : backup = false → d.look (d.place path) ≠ some none)
    (h : writeAtomic empty m backup path content d = .ok () d') :
    Replaced m path content (if backup then (d.read path).toOption else none) d d' := by
  obtain ⟨hhome', hread, hframe⟩ := writeAtomic_ok hsalt h
  obtain ⟨hblank, d₁, d₂, d₃, d₄, hmake, hback, hwrite, hway, hren⟩ := writeAtomic_eq_ok h
  obtain ⟨hnamed, -⟩ := named_of_rename hsalt hren
  have hbase := proper_base hnamed
  have htemp := place_temporaryPath d hbase.2.1 hsalt
  have hcopy := place_backupPath d hbase.2.1 hstamp
  -- no directory is replaced: either it was asked for, or a copy could not have been made
  have hno : d.look (d.place path) ≠ some none := by
    rcases hback with ⟨rfl, -⟩ | ⟨-, hkeep⟩
    · exact hno rfl
    · exact no_directory_of_kept hhome hmake hnamed hstamp hkeep hwrite hway hren
  have hno' : d'.look (d.place path) ≠ some none := by
    have hfile := fileAt_eq_some.1 (fileAt_of_read hread)
    rw [place, hhome', ← place] at hfile
    simp [hfile]
  obtain ⟨hgone, hcopied, hstanding⟩ := (prepared_of_makeAll hhome hmake hnamed hstamp hback).moved
    hnamed hsalt hstamp hfresh hno hno' hwrite hway hren
  have hspelled : Spelled (directory path) := ((makeAll_spec hhome _).2 d₁ hmake).1
  refine ⟨hblank, hnamed, hspelled, hhome', hno, hread, ?_, hcopied, hstanding,
    fun p hp hpc => ?_⟩
  -- the name that the content was prepared under is free again
  · rw [look, Entry.look_eq_none, ← Entry.stack_eq_nil]
    exact hgone
  by_cases hpt : d.place (temporaryPath path m.salt) <+: p
  · -- nothing is below the file that was written first
    apply fileAt_eq_of_stack
    rw [htemp] at hpt
    refine hstanding p hp (fun hpre => ?_) fun _ hpre => ?_
    · exact not_concat_isPrefix _ _ (hpt.trans hpre)
    · rw [hcopy] at hpre
      exact temporaryName_ne_state hbase.1 m.salt (eq_stateName_of_isPrefix (hpt.trans hpre))
  by_cases hpe : p = d.place (backupPath path m.stamp)
  · subst hpe
    apply fileAt_eq_of_stack
    refine hstanding _ hp ?_ fun hk => absurd rfl (hpc hk)
    rw [hcopy]
    exact not_copiesPlace_isPrefix _ _
  · exact hframe p hp hpt fun _ => hpe

namespace Replaced

variable {kept : Option α}

/-- A replacement does not change where paths lead. -/
theorem place_eq (h : Replaced m path content kept d d') (q : Text) : d'.place q = d.place q := by
  rw [place, place, h.home]

/-- After a replacement the file holds the new content. -/
theorem look_place (h : Replaced m path content kept d d') :
    d'.look (d.place path) = some (some content) := by
  have hfile := fileAt_eq_some.1 (fileAt_of_read h.read)
  rwa [h.place_eq] at hfile

/-- After a replacement the directory of the file is there. -/
theorem there (h : Replaced m path content kept d d') :
    d'.look (d.place (directory path)) = some none := by
  have hlook := h.look_place
  rw [place_of_named d h.named] at hlook
  apply Entry.look_of_append (List.cons_ne_nil (base path) [])
  rw [show d'.root.look _ = _ from hlook]
  simp

/-- A file that was replaced has a name without a slash. -/
theorem slash_not_mem (h : Replaced m path content kept d d') : slash ∉ base path :=
  (proper_base h.named).2.1

/-- The file of the copy is there, and the directory for copies. -/
theorem look_copy (h : Replaced m path content kept d d') {c : α} (hc : kept = some c) :
    d'.look (d.place (backupPath path m.stamp)) = some (some c) := by
  rw [look, Entry.look, ← Entry.head?_stack, show d'.root.stack _ = _ from (h.copied c hc).stack]
  rfl

/-- Under another name than that of the copy the directory for copies stays as it is. -/
theorem stack_copies (h : Replaced m path content kept d d') (hstamp : slash ∉ m.stamp) {n : Text}
    (hn : kept ≠ none → copyName path m.stamp ≠ n) :
    d'.stack (copiesPlace (d.place (directory path)) ++ [n]) =
      d.stack (copiesPlace (d.place (directory path)) ++ [n]) := by
  apply h.standing
  · rw [place_of_named d h.named]
    exact copiesPlace_concat_ne _ _ _
  · exact not_copiesPlace_isPrefix _ _
  · intro hkept hpre
    rw [place_backupPath d h.slash_not_mem hstamp] at hpre
    have hsame := hpre.eq_of_length (by simp)
    rw [List.append_cancel_left_eq, List.singleton_inj] at hsame
    exact hn hkept hsame.symm

/-- Directories stay where they were through a replacement, those that were made on the way to the
file and its copy included. -/
theorem dirs (h : Replaced m path content kept d d') {p : List Text}
    (hp : d.look p = some none) : d'.look p = some none := by
  have hne : p ≠ d.place path := by
    rintro rfl
    exact h.no_directory hp
  have habove {q : List Text} {x : Option (Option α)} (hq : d'.look q = x) (hx : x ≠ none)
      (hpq : p <+: q) (hne : p ≠ q) : d'.look p = some none := by
    obtain ⟨more, rfl⟩ := hpq
    have hmore : more ≠ [] := by
      rintro rfl
      simp at hne
    apply Entry.look_of_append hmore
    rw [show d'.root.look _ = _ from hq]
    exact hx
  by_cases hpd : p <+: d.place (directory path)
  · by_cases hpe : p = d.place (directory path)
    · rw [hpe]
      exact h.there
    · exact habove h.there (by simp) hpd hpe
  cases hk : kept with
  | none =>
    rw [look_eq_of_stack (h.standing p hne hpd fun hno => absurd hk hno)]
    exact hp
  | some c =>
    by_cases hpc : p <+: d.place (backupPath path m.stamp)
    · by_cases hpe : p = d.place (backupPath path m.stamp)
      · rw [hpe] at hp
        exact absurd hp (h.copied c hk).no_directory
      · exact habove (h.look_copy hk) (by simp) hpc hpe
    · rw [look_eq_of_stack (h.standing p hne hpd fun _ => hpc)]
      exact hp

/-- After a replacement the working directory is still there. -/
theorem look_home (h : Replaced m path content kept d d') (hhome : d.look d.home = some none) :
    d'.look d'.home = some none := by
  rw [h.home]
  exact h.dirs hhome

end Replaced

end

end NovelScript.Files
