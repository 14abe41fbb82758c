import NovelScript.Proofs.Files.Disk

/-!
# Replacing a file as a whole

**`writeAtomic_ok`** says what a replacement that succeeds has done: the path reads as the new
content, and no file has changed but the one of the path, the one that was written first and the
copy of the old one. **`keeps_writeAtomic`** holds of replacements that fail as well: no file holds
anything but what some file held before, the new content and, where a directory was to be copied,
nothing.

The move is where the directories matter. The file that is written first is there when it is moved,
so its directory is there; a path that means this directory or the one above it is therefore refused,
and any other path means an entry of the same directory (`rename_temporary`).
-/

namespace NovelScript.Files

variable {α : Type}

namespace Disk

/-- What is seen at a place is what the entry there holds. -/
theorem look_of_get? {d : Disk α} {p : List Text} {x : Entry α} (h : d.root.get? p = some x) :
    d.look p = some x.held := by
  rw [look, Entry.look, h]
  rfl

/-- When a file that stands in the directory of a path can be moved to the path, the path ends in a
name and its directory is there. -/
theorem named_of_rename {d d' : Disk α} {path salt : Text} (hsalt : slash ∉ salt)
    (h : d.rename (temporaryPath path salt) path = .ok d') :
    Proper (splitLast path).2 ∧ d.look (d.place (directory path)) = some none := by
  obtain ⟨x, -, hx, -, hlook, -, -⟩ := rename_eq_ok h
  obtain ⟨other, -, hplace⟩ : ∃ other, other ≠ (splitLast path).2 ∧
      d.place (temporaryPath path salt) = d.place (directory path) ++ [other] :=
    placeOf_temporaryPath hsalt d.home path
  have hdir : d.look (d.place (directory path)) = some none := by
    refine Entry.look_of_append (List.cons_ne_nil other []) ?_
    rw [← hplace, Ne, Entry.look_eq_none, hx]
    simp
  have henter : d.place path = enter (d.place (directory path)) (splitLast path).2 :=
    placeOf_splitLast d.home path
  refine ⟨?_, hdir⟩
  rw [enter] at henter
  split at henter
  · rw [henter] at hlook
    exact absurd hdir hlook
  · rename_i hskip
    split at henter
    · rw [henter] at hlook
      exact absurd (look_dropLast hdir) hlook
    · rename_i hdd
      simp only [Bool.or_eq_true, List.isEmpty_iff, beq_iff_eq, not_or] at hskip hdd
      exact ⟨hskip.1, not_mem_splitLast path, hskip.2, hdd⟩

/-- So the path means an entry of that directory. -/
theorem rename_temporary {d d' : Disk α} {path salt : Text} (hsalt : slash ∉ salt)
    (h : d.rename (temporaryPath path salt) path = .ok d') :
    ∃ dir name other, name ≠ other ∧ d.look dir = some none ∧ d.place path = dir ++ [name] ∧
      d.place (temporaryPath path salt) = dir ++ [other] := by
  obtain ⟨hproper, hdir⟩ := named_of_rename hsalt h
  obtain ⟨other, hother, hplace⟩ : ∃ other, other ≠ (splitLast path).2 ∧
      d.place (temporaryPath path salt) = d.place (directory path) ++ [other] :=
    placeOf_temporaryPath hsalt d.home path
  refine ⟨_, (splitLast path).2, other, hother.symm, hdir, ?_, hplace⟩
  exact (placeOf_splitLast d.home path).trans (enter_of_proper hproper _)

/-- A file that was moved into a directory that is there can be read, and no other file changed but
those at the two places of the move. -/
theorem rename_file {d d' : Disk α} {source target name : Text} {dir : List Text} {c : α}
    (h : d.rename source target = .ok d') (hfile : d.look (d.place source) = some (some c))
    (htarget : d.place target = dir ++ [name]) (hdir : d.look dir = some none) :
    d'.home = d.home ∧ d'.read target = .ok c ∧
      ∀ p, p ≠ d.place target → ¬ d.place source <+: p → d'.fileAt p = d.fileAt p := by
  obtain ⟨x, p, hx, hp, hlook, hwants, rfl⟩ := rename_eq_ok h
  have hxc : x = .file c := by
    have := (look_of_get? hx).symm.trans hfile
    cases x with
    | file c' => simpa [Entry.held] using this
    | directory es => simp [Entry.held] at this
  subst hxc
  -- neither place is a directory, so all directories stay
  have hsource : d.look (d.place source) ≠ some none := by simp [hfile]
  have hdirs : ∀ q, d.look q = some none →
      ((d.put none (d.place source)).put (some (.file c)) (d.place target)).look q = some none := by
    intro q hq
    rw [← hq]
    exact (Entry.look_set_of_not_isPrefix _ (Entry.not_isPrefix_directory hlook hq)).trans
      (Entry.look_set_of_not_isPrefix _ (Entry.not_isPrefix_directory hsource hq))
  have hthere : ((d.put none (d.place source)).put (some (.file c)) (d.place target)).root.get?
      (d.place target) = some (.file c) := by
    have hdir' : (d.root.set none (d.place source)).look dir = some none :=
      (Entry.look_set_of_not_isPrefix _ (Entry.not_isPrefix_directory hsource hdir)).trans hdir
    rw [htarget]
    simpa [put, Entry.get?] using Entry.get?_set_append (.file c) name hdir' []
  refine ⟨rfl, ?_, fun q hq hqs => ?_⟩
  · obtain ⟨hne, hzero, hf, hw, -⟩ := locate_eq_ok.1 hp
    refine read_eq_ok.2 (find_eq_ok.2 ⟨p, locate_eq_ok.2
      ⟨hne, hzero, follow_mono hdirs hf, hw, fun _ _ => hwants c rfl⟩, ?_⟩)
    rw [locate_names hp]
    exact hthere
  · have hbetween : (d.put none (d.place source)).fileAt q = d.fileAt q :=
      Entry.fileAt_set_of_not_isPrefix none hqs
    rw [← hbetween]
    by_cases hpre : d.place target <+: q
    · -- below a file there is nothing, before and after
      obtain ⟨more, rfl⟩ := hpre
      have hmore : more ≠ [] := by
        rintro rfl
        simp at hq
      have hafter := Entry.look_append_eq_none hmore
        (by rw [Entry.look_eq_file.2 hthere]; simp)
      rw [hbetween]
      simp only [fileAt, Entry.fileAt, hafter, Entry.look_append_eq_none hmore hlook]
    · exact Entry.fileAt_set_of_not_isPrefix _ hpre

end Disk

open Disk

/-- A move into place that succeeds ends with one that a system makes, perhaps after what stood in the
way was taken away. -/
theorem moveIntoPlace_eq_ok {d d' : Disk α} {temporary path : Text}
    (h : moveIntoPlace temporary path d = .ok () d') :
    ∃ d₁, (d₁ = d ∨ d.isThere path = true ∧ d.remove path = .ok d₁) ∧
      d₁.rename temporary path = .ok d' := by
  rw [moveIntoPlace] at h
  split at h
  · rename_i hren
    cases h
    exact ⟨d, .inl rfl, hren⟩
  · dsimp only at h
    generalize hd₁ : (if d.isThere path then (d.remove path).toOption.getD d else d) = d₁ at h
    refine ⟨d₁, ?_, ?_⟩
    · subst hd₁
      split
      · rename_i hthere
        cases hrem : d.remove path with
        | ok d₂ => exact .inr ⟨hthere, rfl⟩
        | error e => exact .inl rfl
      · exact .inl rfl
    · split at h
      · rename_i hif
        cases h
        split at hif
        · cases hif
        · exact hif
      · cases h

/-- A file beside the path and the path do not lie below each other. -/
theorem apart_of_rename {d d' : Disk α} {path salt : Text} (hsalt : slash ∉ salt)
    (h : d.rename (temporaryPath path salt) path = .ok d') :
    ¬ d.place path <+: d.place (temporaryPath path salt) ∧
      ¬ d.place (temporaryPath path salt) <+: d.place path := by
  obtain ⟨dir, name, other, hname, -, htarget, hsource⟩ := rename_temporary hsalt h
  have hne : dir ++ [name] ≠ dir ++ [other] := by simpa using hname
  rw [htarget, hsource]
  exact ⟨fun hpre => hne (hpre.eq_of_length (by simp)),
    fun hpre => hne (hpre.eq_of_length (by simp)).symm⟩

/-- What is moved is the file that was there before anything was taken away. When the target was
removed in between, the file that was prepared must not have gone with it. -/
theorem look_temporary {d d₁ d₂ : Disk α} {path salt : Text} {c : α} (hsalt : slash ∉ salt)
    (hfile : d.look (d.place (temporaryPath path salt)) = some (some c) ∨
      d.look (d.place (temporaryPath path salt)) = none)
    (hway : d₁ = d ∨ d.isThere path = true ∧ d.remove path = .ok d₁)
    (hren : d₁.rename (temporaryPath path salt) path = .ok d₂) :
    d₁.look (d₁.place (temporaryPath path salt)) = some (some c) := by
  have hsame : d₁.look (d₁.place (temporaryPath path salt)) =
      d.look (d.place (temporaryPath path salt)) := by
    rcases hway with rfl | ⟨-, hrem⟩
    · rfl
    · obtain ⟨-, rfl⟩ := remove_eq_ok hrem
      exact Entry.look_set_of_not_isPrefix none (apart_of_rename hsalt hren).1
  obtain ⟨x, -, hx, -⟩ := rename_eq_ok hren
  have hthere := look_of_get? hx
  rw [hsame] at hthere ⊢
  rcases hfile with hc | hn
  · exact hc
  · cases hn.symm.trans hthere

/-- What a move into place does when it succeeds. There are two ways: the move itself, and the move
behind a removal of what stood in the way. Both end with the file in its place, and no file has
changed but at the two places of the move. -/
theorem moveIntoPlace_ok {d d' : Disk α} {path salt : Text} {c : α} (hsalt : slash ∉ salt)
    (hfile : d.look (d.place (temporaryPath path salt)) = some (some c) ∨
      d.look (d.place (temporaryPath path salt)) = none)
    (h : moveIntoPlace (temporaryPath path salt) path d = .ok () d') :
    d'.home = d.home ∧ d'.read path = .ok c ∧
      ∀ p, p ≠ d.place path → ¬ d.place (temporaryPath path salt) <+: p →
        d'.fileAt p = d.fileAt p := by
  obtain ⟨d₁, hway, hren₁⟩ := moveIntoPlace_eq_ok h
  have hthere := look_temporary hsalt hfile hway hren₁
  obtain ⟨dir, name, other, -, hdir, htarget, -⟩ := rename_temporary hsalt hren₁
  obtain ⟨hhome, hread, hframe⟩ := rename_file hren₁ hthere htarget hdir
  rcases hway with rfl | ⟨-, hrem⟩
  · exact ⟨hhome, hread, hframe⟩
  · obtain ⟨hwas, rfl⟩ := remove_eq_ok hrem
    refine ⟨hhome, hread, fun p hp hps => ?_⟩
    rw [hframe p hp hps]
    by_cases hpre : d.place path <+: p
    · -- what was taken away had nothing in it, and now a file is there
      obtain ⟨more, rfl⟩ := hpre
      have hmore : more ≠ [] := by
        rintro rfl
        simp at hp
      rw [← hframe _ hp hps]
      have hnow : d'.look (d.place path) = some (some c) := by
        have := fileAt_eq_some.1 (fileAt_of_read hread)
        rwa [place, hhome] at this
      have hafter : d'.look (d.place path ++ more) = none :=
        Entry.look_append_eq_none hmore (by rw [show d'.root.look _ = _ from hnow]; simp)
      have hbefore : d.root.get? (d.place path ++ more) = none := by
        rw [Entry.get?_append]
        rcases hwas with hwas | ⟨c', hwas⟩
        · simp [hwas, Entry.get?_nil_directory hmore]
        · simp [hwas, Entry.get?_file c' hmore]
      simp only [fileAt, Entry.fileAt, show d'.root.look _ = _ from hafter,
        Entry.look_eq_none.2 hbefore]
    · exact Entry.fileAt_set_of_not_isPrefix none hpre

/-- The part of a copy that comes after an entry was found. -/
def copyFound (empty : α) (target : Text) (entry : Entry α) : Disk.Work α DiskError Unit :=
  change id (·.makeAll (directory target)) >>= fun _ =>
    match entry with
    | .file content => change id (·.write target content)
    | .directory _ =>
      change id (·.write target empty) >>= fun _ =>
        throw ⟨"write", [target], .copiedDirectory⟩

/-- A copy, case by case: without a source there is a failure that names it, and otherwise what was
found is copied. -/
theorem copy_eq (empty : α) (source target : Text) (d : Disk α) :
    copy empty source target d =
      match d.find source with
      | .error c => .error ⟨"open", [source], c⟩ d
      | .ok entry => copyFound empty target entry d := by
  change (match d.find source with
    | .error c => (throw (DiskError.mk "open" [source] c) : Disk.Work α DiskError Unit)
    | .ok entry => _) d = _
  cases d.find source with
  | error c => rfl
  | ok entry => cases entry <;> rfl

/-- A copy that succeeds changes no file but its own. What that one holds is said by `copy_eq` and
the lemmas about writing. -/
theorem copy_ok {empty : α} {source target : Text} {d d' : Disk α}
    (h : copy empty source target d = .ok () d') :
    d'.home = d.home ∧ ∀ p, p ≠ d.place target → d'.fileAt p = d.fileAt p := by
  rw [copy_eq] at h
  split at h
  · cases h
  · rename_i entry _
    obtain ⟨_, d₂, hmake, h⟩ := bind_eq_ok.1 h
    obtain ⟨hhome, hfiles⟩ := makeAll_ok (change_eq_ok.1 hmake)
    cases entry with
    | file content =>
      have hwrite := change_eq_ok.1 h
      have hplace : d₂.place target = d.place target := by rw [place, place, hhome]
      have hhome' : d'.home = d₂.home := by rw [(write_eq_ok hwrite).2]; rfl
      refine ⟨hhome'.trans hhome, fun p hp => ?_⟩
      rw [fileAt_write hwrite (hplace ▸ hp), hfiles]
    | directory es =>
      obtain ⟨_, d₃, _, h⟩ := bind_eq_ok.1 h
      cases h

/-- Where something is there, a copy is made. -/
theorem keepBackup_cases {empty : α} {m : Moment} {path : Text} {d d' : Disk α}
    (h : keepBackup empty m path d = .ok () d') :
    (d.isThere path = false ∧ d' = d) ∨
      copy empty path (backupPath path m.stamp) d = .ok () d' := by
  rw [keepBackup] at h
  obtain ⟨d₀, d₁, hget, h⟩ := bind_eq_ok.1 h
  cases hget
  split at h
  · exact .inr (adaptExcept_eq_ok.1 h)
  · rename_i hnot
    cases h
    exact .inl ⟨by simpa using hnot, rfl⟩

/-- Putting a copy aside changes nothing but the place of the copy. -/
theorem keepBackup_ok {empty : α} {m : Moment} {path : Text} {d d' : Disk α}
    (h : keepBackup empty m path d = .ok () d') :
    d'.home = d.home ∧ ∀ p, p ≠ d.place (backupPath path m.stamp) → d'.fileAt p = d.fileAt p := by
  rcases keepBackup_cases h with ⟨-, rfl⟩ | hcopy
  · exact ⟨rfl, fun _ _ => rfl⟩
  · exact copy_ok hcopy

/-- A replacement step by step. -/
theorem writeAtomic_eq (empty : α) (m : Moment) (backup : Bool) (path : Text) (content : α) :
    writeAtomic empty m backup path content =
      if Text.isBlank path then throw .noPath
      else
        change .directory (·.makeAll (directory path)) >>= fun _ =>
          (if backup then keepBackup empty m path else pure ()) >>= fun _ =>
            change .temporary (·.write (temporaryPath path m.salt) content) >>= fun _ =>
              moveIntoPlace (temporaryPath path m.salt) path := by
  rw [writeAtomic]
  split
  · rfl
  · cases backup <;> rfl

/-- **What a replacement does when it succeeds**: the file holds the new content, and all other
files hold what they held, but for the file that was prepared and, where one is made, the copy. -/
theorem writeAtomic_ok {empty : α} {m : Moment} {backup : Bool} {path : Text} {content : α}
    {d d' : Disk α} (hsalt : slash ∉ m.salt)
    (h : writeAtomic empty m backup path content d = .ok () d') :
    d'.home = d.home ∧ d'.read path = .ok content ∧
      ∀ p, p ≠ d.place path → ¬ d.place (temporaryPath path m.salt) <+: p →
        (backup = true → p ≠ d.place (backupPath path m.stamp)) → d'.fileAt p = d.fileAt p := by
  rw [writeAtomic_eq] at h
  split at h
  · cases h
  obtain ⟨_, d₁, hmake, h⟩ := bind_eq_ok.1 h
  obtain ⟨_, d₂, hback, h⟩ := bind_eq_ok.1 h
  obtain ⟨_, d₃, hchange, h⟩ := bind_eq_ok.1 h
  obtain ⟨hhome₁, hfiles₁⟩ := makeAll_ok (change_eq_ok.1 hmake)
  have hcopied : d₂.home = d.home ∧ ∀ p,
      (backup = true → p ≠ d.place (backupPath path m.stamp)) → d₂.fileAt p = d.fileAt p := by
    split at hback
    · rename_i hb
      obtain ⟨hhome₂, hfiles₂⟩ := keepBackup_ok hback
      refine ⟨hhome₂.trans hhome₁, fun p hp => ?_⟩
      rw [place, hhome₁] at hfiles₂
      rw [hfiles₂ p (hp hb), hfiles₁]
    · cases hback
      exact ⟨hhome₁, fun p _ => hfiles₁ p⟩
  obtain ⟨hhome₂, hfiles₂⟩ := hcopied
  have hwrite := change_eq_ok.1 hchange
  have hhome₃ : d₃.home = d₂.home := by rw [(write_eq_ok hwrite).2]; rfl
  have hplace (q : Text) : d₃.place q = d.place q := by rw [place, place, hhome₃, hhome₂]
  have hplace₂ (q : Text) : d₂.place q = d.place q := by rw [place, place, hhome₂]
  obtain ⟨hhome', hread, hframe⟩ := moveIntoPlace_ok hsalt (look_of_write hwrite) h
  refine ⟨hhome'.trans (hhome₃.trans hhome₂), hread, fun p hp hps hpb => ?_⟩
  have hpt : p ≠ d₂.place (temporaryPath path m.salt) := by
    rintro rfl
    exact hps (hplace₂ (temporaryPath path m.salt) ▸ List.prefix_refl _)
  rw [hframe p (by rwa [hplace]) (by rwa [hplace]), fileAt_write hwrite hpt, hfiles₂ p hpb]

/-! ## What files hold afterwards -/

/-- What renaming and removing keep is kept by a move into place, however it ends. The ends are
four: moved, moved behind a removal, not moved, and not even removed. -/
theorem keeps_moveIntoPlace_of {R : Disk α → Disk α → Prop} {temporary path : Text}
    (hrefl : ∀ d, R d d) (htrans : ∀ {d₁ d₂ d₃}, R d₁ d₂ → R d₂ d₃ → R d₁ d₃)
    (hrename : ∀ {d d'}, d.rename temporary path = .ok d' → R d d')
    (hremove : ∀ {d d' p}, p = temporary ∨ p = path → d.remove p = .ok d' → R d d') :
    Keeps R (moveIntoPlace temporary path : Disk.Work α WriteFailure Unit) := by
  have htake (d : Disk α) {p : Text} (hp : p = temporary ∨ p = path) :
      R d ((d.remove p).toOption.getD d) := by
    cases h : d.remove p with
    | ok d' => exact hremove hp h
    | error e => exact hrefl d
  intro d
  have hfirst : R d (if d.isThere path then (d.remove path).toOption.getD d else d) := by
    split
    · exact htake d (.inr rfl)
    · exact hrefl d
  refine ⟨fun u d' h => ?_, fun e d' h => ?_⟩ <;> rw [moveIntoPlace] at h <;> split at h
  · rename_i hren
    cases h
    exact hrename hren
  · dsimp only at h
    generalize (if d.isThere path then (d.remove path).toOption.getD d else d) = d₁ at h hfirst
    split at h
    · rename_i hif
      cases h
      split at hif
      · cases hif
      · exact htrans hfirst (hrename hif)
    · cases h
  · cases h
  · dsimp only at h
    generalize (if d.isThere path then (d.remove path).toOption.getD d else d) = d₁ at h hfirst
    split at h
    · cases h
    · cases h
      exact htrans hfirst (htake d₁ (.inl rfl))

/-- Moving a file into place brings no new content to the disk, only what was prepared there. -/
theorem keeps_moveIntoPlace (temporary path : Text) :
    Keeps (Brings []) (moveIntoPlace temporary path : Disk.Work α WriteFailure Unit) :=
  keeps_moveIntoPlace_of (Brings.refl []) Brings.trans brings_rename fun _ => brings_remove

/-- A copy brings the content of what is copied and, while it is being written, an empty file. -/
theorem keeps_copyFound (empty : α) (target : Text) (entry : Entry α) :
    Keeps (Brings (entry.contents ++ [empty])) (copyFound empty target entry) := by
  have hrefl := Brings.refl (entry.contents ++ [empty])
  refine Keeps.bind (R := Brings (entry.contents ++ [empty])) Brings.trans
    (keeps_change hrefl id fun d d' h => (brings_makeAll h).mono (List.nil_subset _)) fun _ => ?_
  cases entry with
  | file content =>
    exact keeps_change hrefl id fun d d' h => (brings_write h).mono (by simp [Entry.contents])
  | directory es =>
    refine Keeps.bind (R := Brings ((Entry.directory es).contents ++ [empty])) Brings.trans
      (keeps_change hrefl id fun d d' h => ?_) fun _ => Keeps.throw hrefl _
    exact (brings_write h).mono (by simp)

/-- A copy from one place to another brings nothing but an empty file: its content was on the disk
before. -/
theorem keeps_copy (empty : α) (source target : Text) :
    Keeps (Brings [empty]) (copy empty source target) := by
  intro d
  rw [copy_eq]
  split
  · refine ⟨fun u d' h => (nomatch h), fun e d' h => ?_⟩
    cases h
    exact Brings.refl _ d
  · rename_i entry hfind
    -- what is copied was there
    have hshort {d' : Disk α} (h : Brings (entry.contents ++ [empty]) d d') :
        Brings [empty] d d' := by
      intro c hc
      rcases h c hc with hc | hc
      · exact .inl hc
      · exact (List.mem_append.1 hc).imp_left (Entry.mem_contents_of_get? (get?_of_find hfind))
    have hwork := keeps_copyFound empty target entry d
    exact ⟨fun u d' h => hshort (hwork.1 u d' h), fun e d' h => hshort (hwork.2 e d' h)⟩

/-- **A replacement brings its own content alone**, whatever goes wrong in it; the empty file is the
one that a copy starts as. -/
theorem keeps_writeAtomic (empty : α) (m : Moment) (backup : Bool) (path : Text) (content : α) :
    Keeps (Brings [content, empty]) (writeAtomic empty m backup path content) := by
  have hrefl := Brings.refl [content, empty]
  have hmono {β ε : Type} {new : List α} (hsub : new ⊆ [content, empty])
      {w : Disk.Work α ε β} (h : Keeps (Brings new) w) : Keeps (Brings [content, empty]) w :=
    fun d => ⟨fun b d' hw => ((h d).1 b d' hw).mono hsub,
      fun e d' hw => ((h d).2 e d' hw).mono hsub⟩
  rw [writeAtomic_eq]
  split
  · exact Keeps.throw hrefl _
  refine Keeps.bind (R := Brings [content, empty]) Brings.trans ?_ fun _ =>
    Keeps.bind (R := Brings [content, empty]) Brings.trans ?_ fun _ =>
      Keeps.bind (R := Brings [content, empty]) Brings.trans ?_ fun _ => ?_
  · exact keeps_change hrefl _ fun d d' h => (brings_makeAll h).mono (List.nil_subset _)
  · split
    · refine Keeps.bind (R := Brings [content, empty]) Brings.trans (Keeps.get hrefl) fun d => ?_
      split
      · exact hmono (by simp) ((keeps_copy empty _ _).adaptExcept _)
      · exact Keeps.pure hrefl _
    · exact Keeps.pure hrefl _
  · exact keeps_change hrefl _ fun d d' h => (brings_write h).mono (by simp)
  · exact hmono (List.nil_subset _) (keeps_moveIntoPlace _ _)

end NovelScript.Files
