import NovelScript.Proofs.Build.Mirror
import NovelScript.Proofs.Build.Schedule
import NovelScript.Proofs.Files.Copies

/-!
# Scripts are no documents

A build writes into the tree that its documents were found in: scripts, copies of them, files beside
them and the directories for all these, and it may take an empty directory out of the way. None of
this changes what a walk lists, as long as scripts do not have the names of documents.

* **`documentsAt_set`** is about a tree with one entry changed, and **`Lists.put`** about a disk.
* **`Lists.writeAtomic`** says that the replacement of a file leaves the documents that are listed.
* **`Crew.Run.lists`** carries this through a build, and **`Lists.discover`** says that a root that
  is still found has the same documents.
-/

namespace NovelScript.Build

open Files (Disk Entry Proper splitLast)
open Files.Entry (setEntry)

/-! ## Entries that show no documents -/

section

variable {α : Type} {path name : Text} {new old : Option (Entry α)}

/-- The documents that an entry of a directory adds to those of the directory. -/
def shownAt (path name : Text) : Option (Entry α) → List Text
  | none => []
  | some e => if isSkipped name e then [] else documentsAt (Files.join path name) e

/-- Nothing, a file, or a directory with nothing in it. -/
def Bare : Option (Entry α) → Prop
  | none | some (.file _) => True
  | some (.directory es) => es = []

/-- Two entries that add the same documents under a name, wherever their directory is. -/
def SameShown (name : Text) (old new : Option (Entry α)) : Prop :=
  ∀ path, path ≠ [] → shownAt path name new = shownAt path name old

/-- Joining a name to a path does not give the empty path. -/
theorem join_ne_nil (h : path ≠ []) (name : Text) : Files.join path name ≠ [] :=
  Files.clean_join h name ▸ Files.clean_ne_nil _

/-- What does not have the name of a document shows none. -/
theorem shownAt_of_bare (hpath : path ≠ []) (hname : Proper name) (hsource : isSource name = false)
    (h : Bare old) : shownAt path name old = [] := by
  match old with
  | none => rfl
  | some (.directory es) =>
    obtain rfl : es = [] := h
    simp [shownAt, documentsAt, documentsIn]
  | some (.file c) =>
    obtain ⟨-, hlast⟩ := Files.leaf_join hpath hname
    have hself : splitLast ([] ++ name) = ([], name) := Files.splitLast_lead (.inl rfl) hname.2.1
    have hjoin : isSource (Files.join path name) = false := by
      rw [← hsource]
      exact isSource_congr (hlast.trans (congrArg Prod.snd hself).symm) (by rw [hlast]; exact hname.1)
    simp [shownAt, documentsAt, hjoin]

/-- An entry without documents below it, under a name that is not that of a document, shows nothing
to the walk, and so does no entry at all. -/
theorem sameShown_of_bare (hname : Proper name) (hsource : isSource name = false) (hold : Bare old)
    (hnew : Bare new) : SameShown name old new := fun path hpath => by
  rw [shownAt_of_bare hpath hname hsource hold, shownAt_of_bare hpath hname hsource hnew]

/-- What a file holds does not show. -/
theorem sameShown_file (name : Text) (c c' : α) :
    SameShown name (some (.file c)) (some (.file c')) := fun _ _ => rfl

/-- A new directory shows no documents. -/
theorem sameShown_directory (name : Text) :
    SameShown name none (some (.directory ([] : List (Text × Entry α)))) := fun path _ => by
  simp [shownAt, documentsAt, documentsIn]

/-! ## A tree with one entry changed -/

/-- The walk goes through the entries of a directory from first to last. -/
theorem documentsIn_append (path : Text) (es es' : List (Text × Entry α)) :
    documentsIn path (es ++ es') = documentsIn path es ++ documentsIn path es' := by
  induction es with
  | nil => rfl
  | cons entry more ih => rw [List.cons_append, documentsIn, documentsIn, ih, List.append_assoc]

/-- An entry that is added at the end of a directory adds what it shows there. -/
theorem documentsIn_toList (path name : Text) (new : Option (Entry α)) :
    documentsIn path (new.map fun e => (name, e)).toList = shownAt path name new := by
  cases new with
  | none => rfl
  | some e => simp [documentsIn, shownAt]

/-- **An entry may be set to one that shows the same** without a change in what is found in the
directory. -/
theorem documentsIn_setEntry {es : List (Text × Entry α)}
    (h : shownAt path name new = shownAt path name (es.lookup name)) :
    documentsIn path (setEntry name new es) = documentsIn path es := by
  induction es with
  | nil => rw [setEntry, documentsIn_toList, h]; rfl
  | cons entry more ih =>
    obtain ⟨n, e⟩ := entry
    rw [List.lookup_cons] at h
    rw [setEntry]
    split
    · rename_i heq
      rw [heq, beq_self_eq_true] at h
      rw [documentsIn_append, documentsIn_toList, h, documentsIn, heq]
      rfl
    · rename_i hne
      rw [beq_false_of_ne (Ne.symm hne)] at h
      rw [documentsIn, documentsIn, ih h]

/-- Setting an entry further down does not change whether there is a directory. -/
theorem isDirectory_set (new : Option (Entry α)) (e : Entry α) {names : List Text}
    (hne : names ≠ []) : (e.set new names).isDirectory = e.isDirectory := by
  obtain ⟨name, more, rfl⟩ := List.exists_cons_of_ne_nil hne
  cases e with
  | file c => cases more <;> rfl
  | directory es =>
    cases more with
    | nil => rfl
    | cons m more =>
      rw [Entry.set]
      · split <;> rfl
      · simp

/-- A walk lists the same documents when one entry is exchanged for one that shows the same. The
induction is on the way down to the entry, and at each directory on it the entries beside the way
are untouched. -/
theorem documentsAt_set {names : List Text} (hpath : path ≠ []) (e : Entry α)
    (h : SameShown name (e.get? (names ++ [name])) new) :
    documentsAt path (e.set new (names ++ [name])) = documentsAt path e := by
  induction names generalizing e path with
  | nil =>
    cases e with
    | file c => rfl
    | directory es =>
      have hlook : (Entry.directory es).get? ([] ++ [name]) = es.lookup name := by
        rw [List.nil_append, Entry.get?_cons_directory]
        cases es.lookup name <;> rfl
      rw [List.nil_append, Entry.set, documentsAt, documentsAt]
      exact documentsIn_setEntry (hlook ▸ h path hpath)
  | cons n names ih =>
    obtain ⟨m, rest, hrest⟩ := List.exists_cons_of_ne_nil (l := names ++ [name]) (by simp)
    rw [List.cons_append, hrest]
    cases e with
    | file c => rfl
    | directory es =>
      rw [Entry.set]
      · split
        · rename_i x hx
          rw [List.cons_append, Entry.get?_cons_directory, hx, Option.bind_some] at h
          rw [documentsAt, documentsAt]
          refine documentsIn_setEntry ?_
          rw [hx, ← hrest, shownAt, shownAt, isSkipped, isSkipped,
            isDirectory_set new x (by simp), ih (join_ne_nil hpath n) x h]
        · rfl
      · simp

/-- What stands above the entry that is set has it set: a directory on the way is the same directory
with one entry changed. -/
theorem get?_set_above (e : Entry α) (new : Option (Entry α)) (r : List Text) {names : List Text}
    (hne : names ≠ []) : (e.set new (r ++ names)).get? r = (e.get? r).map (·.set new names) := by
  induction r generalizing e with
  | nil => rfl
  | cons n r ih =>
    obtain ⟨m, rest, hrest⟩ := List.exists_cons_of_ne_nil (l := r ++ names) (by simp [hne])
    cases e with
    | file c => rw [List.cons_append, hrest]; rfl
    | directory es =>
      rw [List.cons_append, hrest, Entry.set]
      · split
        · rename_i x hx
          rw [Entry.get?_cons_directory, Entry.get?_cons_directory, Entry.lookup_setEntry_self, hx,
            Option.bind_some, Option.bind_some, ← hrest, ih]
        · rename_i hx
          rw [Entry.get?_cons_directory, hx]
          rfl
      · simp

end

/-! ## A disk with one place changed -/

/-- At the place of a root stands an entry of this kind, and a walk that starts there lists these
documents. -/
def Lists {α : Type} (root : Text) (kind : Bool) (docs : List Text) (d : Disk α) : Prop :=
  ∃ e, d.root.get? (d.place root) = some e ∧ e.isDirectory = kind ∧ documentsAt root e = docs

/-- A path that ends in a name which is not that of a document. -/
structure Unlisted (path : Text) : Prop where
  proper : Proper (splitLast path).2
  not_source : isSource path = false

section

variable {α : Type} {root path : Text} {kind : Bool} {docs : List Text} {d d' : Disk α}

/-- A path that is not listed leads to an entry of its directory whose name is not that of a
document. -/
theorem Unlisted.place (h : Unlisted path) (d : Disk α) :
    d.place path = d.place (Files.directory path) ++ [Files.base path] ∧
      Proper (Files.base path) ∧ isSource (Files.base path) = false := by
  refine ⟨Files.place_of_named d h.proper, ?_, ?_⟩
  · rw [Files.base_eq h.proper.1]
    exact h.proper
  · rw [isSource_base h.proper.1]
    exact h.not_source

/-- At such a path one entry without documents may take the place of another one. -/
theorem Unlisted.sameShown (h : Unlisted path) {old new : Option (Entry α)} (hold : Bare old)
    (hnew : Bare new) {dir : List Text} {name : Text} (hplace : d.place path = dir ++ [name]) :
    SameShown name old new := by
  obtain ⟨hlast, hproper, hsource⟩ := h.place d
  rw [hlast] at hplace
  cases List.singleton_inj.1 (List.append_inj' hplace rfl).2
  exact sameShown_of_bare hproper hsource hold hnew

/-- Where there is no directory, there are no documents below. -/
theorem bare_of_look {p : List Text} (h : d.look p ≠ some none) : Bare (d.root.get? p) := by
  cases hx : d.root.get? p with
  | none => trivial
  | some x =>
    cases x with
    | file c => trivial
    | directory es =>
      rw [Disk.look_of_get? hx] at h
      exact absurd rfl h

namespace Lists

/-- Below the place of the root, entries that show the same can be exchanged; the place itself, and
what is above it, may only be a file that stays one. -/
theorem put (h : Lists root kind docs d) (hroot : root ≠ []) {p : List Text}
    {new : Option (Entry α)}
    (hbelow : ∀ dir name, p = dir ++ [name] → SameShown name (d.root.get? p) new)
    (habove : p <+: d.place root → p = d.place root ∧ ∃ c c', d.root.get? p = some (.file c) ∧
      new = some (.file c')) : Lists root kind docs (d.put new p) := by
  obtain ⟨e, he, hkind, hdocs⟩ := h
  unfold Lists
  rw [Disk.place_put]
  by_cases hpre : p <+: d.place root
  · obtain ⟨rfl, c, c', hc, rfl⟩ := habove hpre
    rw [hc] at he
    cases he
    rcases Entry.set_some_cases d.root (.file c') (d.place root) with hsame | hset
    · exact ⟨.file c, by rw [Disk.put, hsame, hc], hkind, hdocs⟩
    · refine ⟨.file c', ?_, hkind, hdocs⟩
      have := hset []
      rwa [List.append_nil] at this
  by_cases hsuf : d.place root <+: p
  · obtain ⟨names, rfl⟩ := hsuf
    have hne : names ≠ [] := by
      rintro rfl
      simp at hpre
    obtain ⟨dir, name, rfl⟩ : ∃ dir name, names = dir ++ [name] :=
      ⟨_, _, (List.dropLast_concat_getLast hne).symm⟩
    have hshown := hbelow (d.place root ++ dir) name (List.append_assoc _ _ _).symm
    rw [Entry.get?_append, he, Option.bind_some] at hshown
    refine ⟨e.set new (dir ++ [name]), ?_, ?_, ?_⟩
    · rw [Disk.put, get?_set_above _ _ _ (by simp), he]
      rfl
    · rw [isDirectory_set _ _ (by simp), hkind]
    · rw [documentsAt_set hroot e hshown, hdocs]
  · refine ⟨e, ?_, hkind, hdocs⟩
    rw [← he]
    exact Disk.get?_eq_of_stack (Entry.stack_set_of_apart new hpre hsuf)

/-- What shows no documents is not the root, which shows some, nor a directory above it. With it a
file that is put in place of such an entry is known not to take the documents away. -/
theorem not_above (h : Lists root kind docs d) (hdocs : docs ≠ []) (hname : Unlisted path)
    (hold : Bare (d.root.get? (d.place path)))
    (hthere : d.root.get? (d.place path) ≠ none) : ¬ d.place path <+: d.place root := by
  rintro ⟨names, hnames⟩
  obtain ⟨e, he, -, rfl⟩ := h
  obtain ⟨x, hx⟩ := Option.ne_none_iff_exists'.1 hthere
  rw [← hnames, Entry.get?_append, hx, Option.bind_some] at he
  rw [hx] at hold
  -- at the root itself, or strictly above it
  by_cases hne : names = []
  · subst hne
    cases he
    cases e with
    | directory es =>
      obtain rfl : es = [] := hold
      exact hdocs rfl
    | file c =>
      -- the root is a document, and its place ends in the name of one
      have hroot : isSource root = true := by
        by_contra hno
        simp [documentsAt, hno] at hdocs
      have hplace := Files.place_of_named d (proper_of_isSource hroot)
      obtain ⟨hlast, -, hsource⟩ := hname.place d
      rw [List.append_nil, hlast, hplace] at hnames
      have hbase := List.singleton_inj.1 (List.append_inj' hnames rfl).2
      rw [hbase, isSource_base (proper_of_isSource hroot).1, hroot] at hsource
      cases hsource
  · cases x with
    | directory es =>
      obtain rfl : es = [] := hold
      rw [Entry.get?_nil_directory hne] at he
      cases he
    | file c =>
      rw [Entry.get?_file c hne] at he
      cases he

variable (h : Lists root kind docs d) (hroot : root ≠ [])

include h hroot

/-- A file that is put somewhere does not show, unless it is a new one with the name of a
document. -/
theorem put_file (c : α) (hlook : d.look (d.place path) ≠ some none)
    (hname : Unlisted path ∨ ∃ c', d.root.get? (d.place path) = some (.file c')) :
    Lists root kind docs (d.put (some (.file c)) (d.place path)) := by
  refine h.put hroot (fun dir name hplace => ?_) fun hpre => ?_
  · rcases hname with hunlisted | ⟨c', hc'⟩
    · have hnew : Bare (some (Entry.file c)) := trivial
      exact hunlisted.sameShown (bare_of_look hlook) hnew hplace
    · rw [hc']
      exact sameShown_file name c' c
  · -- above the root there are directories
    obtain ⟨e, he, -⟩ := h
    obtain ⟨names, hnames⟩ := hpre
    by_cases hne : names = []
    · rw [hne, List.append_nil] at hnames
      rw [hnames] at hlook ⊢
      cases e with
      | file c' => exact ⟨rfl, c', c, he, rfl⟩
      | directory es =>
        rw [Disk.look_of_get? he] at hlook
        exact absurd rfl hlook
    · refine absurd (Entry.look_of_append hne ?_) hlook
      rw [hnames, Ne, Entry.look_eq_none, he]
      simp

/-- The write of a file leaves the documents that are listed: it shows nothing, or it takes the
place of a file that was there. -/
theorem write {c : α} (hwrite : d.write path c = .ok d')
    (hname : Unlisted path ∨ ∃ c', d.root.get? (d.place path) = some (.file c')) :
    Lists root kind docs d' := by
  obtain ⟨hlook, rfl⟩ := Disk.write_eq_ok hwrite
  exact h.put_file hroot c hlook hname

/-- Making one directory leaves the documents that are listed, because it is empty at first. -/
theorem makeDirectory (hmake : d.makeDirectory path = .ok d') : Lists root kind docs d' := by
  obtain ⟨hnone, rfl⟩ := Disk.makeDirectory_eq_ok hmake
  have hget : d.root.get? (d.place path) = none := Entry.look_eq_none.1 hnone
  refine h.put hroot (fun dir name _ => ?_) fun hpre => ?_
  · rw [hget]
    exact sameShown_directory name
  · obtain ⟨e, he, -⟩ := h
    obtain ⟨names, hnames⟩ := hpre
    rw [← hnames, Entry.get?_append, hget] at he
    cases he

/-- Making all directories on the way to one leaves the documents that are listed as well, directory
after directory. -/
theorem makeAll (hmake : d.makeAll path = .ok d') : Lists root kind docs d' :=
  Disk.makeDirectories_induction (R := fun d d' => Lists root kind docs d → Lists root kind docs d')
    (fun _ h => h) (fun h₁ h₂ h => h₂ (h₁ h)) (fun hmake h => h.makeDirectory hroot hmake) hmake h

variable (hdocs : docs ≠ [])

include hdocs

/-- What shows no documents can be taken away. -/
theorem put_none (hname : Unlisted path) (hold : Bare (d.root.get? (d.place path)))
    (hthere : d.root.get? (d.place path) ≠ none) :
    Lists root kind docs (d.put none (d.place path)) :=
  have hnew : Bare (none : Option (Entry α)) := trivial
  h.put hroot (fun _ _ hplace => hname.sameShown hold hnew hplace) fun hpre =>
    absurd hpre (h.not_above hdocs hname hold hthere)

/-- To remove what is not listed takes no document away. -/
theorem remove (hname : Unlisted path) (hremove : d.remove path = .ok d') :
    Lists root kind docs d' := by
  obtain ⟨hwas, rfl⟩ := Disk.remove_eq_ok hremove
  have hold : Bare (d.root.get? (d.place path)) ∧ d.root.get? (d.place path) ≠ none := by
    rcases hwas with hwas | ⟨c, hwas⟩ <;> rw [hwas]
    · exact ⟨rfl, Option.some_ne_none _⟩
    · exact ⟨trivial, Option.some_ne_none _⟩
  exact h.put_none hroot hdocs hname hold.1 hold.2

/-- A file that is moved does not show when neither name is that of a document. -/
theorem rename {source target : Text} {c : α} (hsource : Unlisted source) (htarget : Unlisted target)
    (hfile : d.look (d.place source) = some (some c))
    (hapart : ¬ d.place source <+: d.place target) (hrename : d.rename source target = .ok d') :
    Lists root kind docs d' := by
  obtain ⟨x, -, hx, -, hlook, -, rfl⟩ := Disk.rename_eq_ok hrename
  obtain rfl : x = .file c := by
    have := Entry.look_eq_file.1 hfile
    rw [hx] at this
    exact Option.some_inj.1 this
  have hgone := h.put_none hroot hdocs hsource (by rw [hx]; trivial) (by simp [hx])
  refine hgone.put_file hroot c ?_ (.inl htarget)
  rwa [Disk.place_put, Disk.look, Disk.put, Entry.look_set_of_not_isPrefix none hapart]

end Lists

/-! ## Replacing a file -/

/-- The name under which a replacement is prepared starts with a point and is not that of a
document. -/
theorem unlisted_temporaryPath {salt : Text} (hbase : Files.slash ∉ Files.base path)
    (hsalt : Files.slash ∉ salt) : Unlisted (Files.temporaryPath path salt) := by
  have hproper := Files.proper_temporaryName hbase hsalt
  obtain ⟨hleaf, hlast⟩ := Files.leaf_join (Files.directory_ne_nil path) hproper
  refine ⟨hleaf.proper, ?_⟩
  have hhidden : isHidden (Files.base (Files.temporaryPath path salt)) = true := by
    rw [Files.temporaryPath, ← Files.temporaryName, Files.base_eq hleaf.proper.1, hlast]
    rfl
  rw [isSource, hhidden]
  simp

/-- A copy ends in `.bak`, whatever the rest of its name is. -/
theorem unlisted_backupPath (path stamp : Text) : Unlisted (Files.backupPath path stamp) := by
  have hending : Files.slash ∉ Files.backupEnding := by decide
  have hlast := Files.splitLast_append_right (Files.backupStart path ++ stamp) hending
  have hproper : Proper (splitLast (Files.backupStart path ++ stamp ++ Files.backupEnding)).2 := by
    refine Files.proper_of_length ?_ (Files.not_mem_splitLast _)
    rw [hlast, List.length_append]
    exact Nat.lt_add_left _ (by decide)
  have hjoin := Files.splitLast_join (Files.backupDirectory_ne_nil (Files.directory path)) hproper
  refine ⟨by rw [Files.backupPath, hjoin]; exact hproper, ?_⟩
  have hext : Files.extension (Files.backupPath path stamp) = Files.backupEnding :=
    Files.extension_eq (hjoin.trans hlast) (by decide)
  rw [isSource, hext]
  rfl

variable {empty content : α} {m : Files.Moment} {backup : Bool}

/-- A copy that is kept does not show. -/
theorem Lists.keepBackup (h : Lists root kind docs d) (hroot : root ≠ [])
    (hkeep : Files.keepBackup empty m path d = .ok () d') : Lists root kind docs d' := by
  rcases Files.keepBackup_eq_ok hkeep with ⟨-, rfl⟩ | ⟨c, d₁, -, hmake, hwrite⟩
  · exact h
  · exact (h.makeAll hroot hmake).write hroot hwrite (.inl (unlisted_backupPath path m.stamp))

/-- The replacement of a file that does not have the name of a document leaves the documents that
are listed. -/
theorem Lists.writeAtomic (h : Lists root kind docs d) (hroot : root ≠ []) (hdocs : docs ≠ [])
    (hsalt : Files.slash ∉ m.salt) (hsource : isSource path = false)
    (hwrite : Files.writeAtomic empty m backup path content d = .ok () d') :
    Lists root kind docs d' := by
  obtain ⟨-, d₁, d₂, d₃, d₄, hmake, hback, htemp, hway, hren⟩ := Files.writeAtomic_eq_ok hwrite
  have h₁ := h.makeAll hroot hmake
  have h₂ : Lists root kind docs d₂ := by
    rcases hback with ⟨-, rfl⟩ | ⟨-, hkeep⟩
    · exact h₁
    · exact h₁.keepBackup hroot hkeep
  have htarget : Unlisted path := ⟨(Disk.named_of_rename hsalt hren).1, hsource⟩
  have htemporary : Unlisted (Files.temporaryPath path m.salt) := by
    refine unlisted_temporaryPath ?_ hsalt
    rw [Files.base_eq htarget.proper.1]
    exact htarget.proper.2.1
  have h₃ := h₂.write hroot htemp (.inl htemporary)
  have h₄ : Lists root kind docs d₄ := by
    rcases hway with rfl | ⟨-, hremove⟩
    · exact h₃
    · exact h₃.remove hroot hdocs htarget hremove
  exact h₄.rename hroot hdocs htemporary htarget
    (Files.look_temporary hsalt (Disk.look_of_write htemp) hway hren)
    (Files.apart_of_rename hsalt hren).2 hren

end

/-! ## Builds -/

section

variable {d d' d₀ : Disk Content} {root : Text} {kind : Bool} {docs sources : List Text}

/-- What is found below a root is what its entry shows, sorted. -/
theorem discover_eq_ok_iff : discover d root = .ok sources ↔
    ∃ e, d.find root = .ok e ∧ Text.sort (documentsAt root e) = sources := by
  rw [discover, startOf]
  cases d.find root with
  | error c => simp [Disk.fail, Except.map]
  | ok e => simp [Disk.fail, Except.map]

/-- A root that is found has the documents that are listed. -/
theorem Lists.discover (h : Lists root kind docs d) {e : Entry Content} (he : d.find root = .ok e) :
    discover d root = .ok (Text.sort docs) := by
  obtain ⟨e', he', -, rfl⟩ := h
  rw [Disk.get?_of_find he] at he'
  cases he'
  exact discover_eq_ok_iff.2 ⟨e, he, rfl⟩

/-- A direct root is found again, wherever its documents are listed. -/
theorem Lists.find (h : Lists root kind docs d') (hdirect : Files.isDirect root = true)
    (hhome : d'.home = d.home) {e : Entry Content} (he : d.find root = .ok e)
    (hkind : e.isDirectory = kind) : ∃ e', d'.find root = .ok e' := by
  obtain ⟨e', he', hkind', -⟩ := h
  rw [place_congr hhome] at he'
  exact ⟨e', Disk.find_congr hdirect hhome he he' (hkind'.trans hkind.symm)⟩

/-- A step of a document leaves the documents that are listed, unless the disk fails. -/
theorem Job.Moves.lists {j : Job} {c : Conditions} {p p' : Phase} (h : j.Moves c p d p' d')
    (hlists : Lists root kind docs d) (hroot : root ≠ []) (hdocs : docs ≠ [])
    (hsalt : Files.slash ∉ j.instant.moment.salt) (hsource : isSource j.output = false)
    (hdisk : ∀ e, p' = .failed e → e.isOfDisk = false) : Lists root kind docs d' := by
  cases h with
  | keep _ hstore =>
    obtain ⟨db, b, -, hfind, -, -, hwrite⟩ := Cache.Handle.store_eq_ok hstore
    exact hlists.write hroot hwrite (.inr ⟨_, Disk.get?_of_find hfind⟩)
  | write hwrite => exact hlists.writeAtomic hroot hdocs hsalt hsource hwrite
  | unwritten => cases hdisk _ rfl
  | _ => exact hlists

/-- Any number of steps leaves the documents that are listed, unless the disk fails. The induction
is on the run. Each step changes the disk at unlisted places only, as `Moves` says, or ends in a
failure of the disk. -/
theorem Crew.Run.lists {b : Builder} {jobs : List Job} {start w : Crew} (h : Crew.Run start w)
    (hplan : Plan d₀ b jobs) (hstart : start.Steady d₀ b jobs)
    (hsources : ∀ j ∈ jobs, isSource j.output = false) (hroot : root ≠ []) (hdocs : docs ≠ [])
    (hlists : Lists root kind docs start.disk) : Lists root kind docs w.disk ∨ w.Broken := by
  induction h with
  | refl => exact .inl hlists
  | @step w k c hrun _ ih =>
    rcases ih with hw | hw
    · rcases hrun.steady hplan hstart with hsteady | hbroken
      · rcases w.advance_cases k c with ⟨-, hself⟩ | ⟨j, p, p', hk, hmoves, hk', -⟩
        · rw [hself]
          exact .inl hw
        have hj : j ∈ jobs := by
          rw [← hsteady.jobs_eq]
          exact List.mem_map_of_mem (f := (·.1)) (List.mem_of_getElem? hk)
        by_cases hdisk : ∀ e, p' = .failed e → e.isOfDisk = false
        · exact .inl (hmoves.lists hw hroot hdocs (hplan.salts j hj) (hsources j hj) hdisk)
        · obtain ⟨e, hp', he⟩ : ∃ e, p' = .failed e ∧ e.isOfDisk = true := by simpa using hdisk
          exact .inr ⟨_, List.mem_of_getElem? hk', e, hp', he⟩
      · exact .inr hbroken.advance
    · exact .inr hw.advance

/-- Without documents nothing happens. -/
theorem Crew.Run.eq_start {start w : Crew} (h : Crew.Run start w) (hnone : start.tasks = []) :
    w = start := by
  induction h with
  | refl => rfl
  | step _ _ ih =>
    subst ih
    exact Crew.advance_eq_self (by simp [hnone])

/-- A build of the documents below a root leaves the documents that are listed there. So a second
build finds the same documents in the same order. -/
theorem Crew.Run.lists_of_discover {b : Builder} {clock : Text → Instant} {s : Site} {w : Crew}
    (h : Crew.Run ⟨s, Crew.tasksOf b clock root sources⟩ w) (hbroken : ¬ w.Broken)
    (hplan : Plan s.disk b (jobsOf b clock root sources))
    (hscripts : ∀ source ∈ sources, ∀ output, b.target.path? root source = some output →
      isSource output = false)
    {e : Entry Content} (he : s.disk.find root = .ok e)
    (hsort : Text.sort (documentsAt root e) = sources) :
    Lists root e.isDirectory (documentsAt root e) w.disk := by
  have hstart : Lists root e.isDirectory (documentsAt root e) s.disk :=
    ⟨e, Disk.get?_of_find he, rfl, rfl⟩
  have hroot : root ≠ [] := by
    rintro rfl
    cases he
  by_cases hdocs : documentsAt root e = []
  · have hnone : sources = [] := by
      rw [← hsort, hdocs, Text.sort, List.mergeSort_nil]
    rwa [h.eq_start (by simp [hnone, Crew.tasksOf])]
  · refine (h.lists hplan steady_tasksOf (fun j hj => ?_) hroot hdocs hstart).resolve_right hbroken
    have hrelated := hplan.related j hj
    obtain ⟨source, hs, rfl⟩ := List.mem_map.1 hj
    obtain ⟨output, hout⟩ := Option.ne_none_iff_exists'.1 hrelated
    have hout : b.target.path? root source = some output := hout
    rw [Job.output, hout]
    exact hscripts source hs output hout

end

end NovelScript.Build
