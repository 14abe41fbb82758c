import Mathlib.Data.List.Nodup
import NovelScript.Build.Watch
import NovelScript.Proofs.Build.Output
import NovelScript.Proofs.Files.Entry
import NovelScript.Proofs.Script.Options
import NovelScript.Proofs.Text.Order

/-!
# What a build and a watch see

A build walks a tree and lists documents, a watch walks it and lists directories. The two walks are
written apart. Both are read off one list here, that of all entries a walk comes to with their paths
(`visitsAt`).

* **`mem_visitsAt`**: a walk comes to what stands at a list of names unless a directory on the way
  is hidden, and gives it its clean path below the root; **`nodup_visitsAt`**: it comes there once.
* **`documentsAt_eq`** and **`directoriesAt_eq`**: the files among the visits that are documents are
  the documents, the directories among them are the directories.
* **`discover_iff_watched`** puts these together: a build finds exactly the documents in the
  directories that are watched.
-/

namespace NovelScript.Build

open Files (Disk Entry Proper splitLast)
open Files.Path (ofText)

variable {α : Type}

mutual

/-- Are the names in every directory of the tree different from each other? -/
def Distinct : Entry α → Prop
  | .file _ => True
  | .directory entries => DistinctIn entries

/-- Are the names of entries different, and those in every directory below them? -/
def DistinctIn : List (Text × Entry α) → Prop
  | [] => True
  | (name, e) :: more => name ∉ more.map Prod.fst ∧ Distinct e ∧ DistinctIn more

end

/-! ## Directories of paths -/

/-- The directory of a path below a root has the names above the last one. -/
theorem Below.ofText_directory {root path name : Text} {above : List Text}
    (h : Below root path (above ++ [name])) :
    ofText (Files.directory path) = ⟨(ofText root).rooted, (ofText root).names ++ above⟩ := by
  have hname : Proper name := h.2.1 name (by simp)
  obtain ⟨above', hnames, -⟩ := h.rename
  obtain ⟨-, hlast⟩ := List.append_inj' hnames rfl
  have hpath : path = (splitLast path).1 ++ name := by
    rw [List.singleton_inj.1 hlast, Files.splitLast_append]
  have htext := Files.ofText_lead (Files.isLead_splitLast path) hname
  rw [← hpath, h.2.2.1, ← List.append_assoc, Files.Path.mk.injEq] at htext
  obtain ⟨hrooted, hnames⟩ := htext
  rw [Files.directory, Files.ofText_clean, Files.Path.mk.injEq]
  exact ⟨hrooted.symm, (List.append_inj' hnames rfl).1.symm⟩

/-! ## Visits -/

mutual

/-- All that a walk comes to, with the paths: an entry, and unless it is a hidden directory below
another one, what is in it. -/
def visitsAt (path : Text) : Entry α → List (Text × Entry α)
  | .file c => [(path, .file c)]
  | .directory entries => (path, .directory entries) :: visitsIn path entries

/-- All that a walk comes to among the entries of a directory and below them. -/
def visitsIn (path : Text) : List (Text × Entry α) → List (Text × Entry α)
  | [] => []
  | (name, e) :: more =>
    (if isSkipped name e then [] else visitsAt (Files.join path name) e) ++ visitsIn path more

end

/-- The path of an entry that is a document. -/
def document? : Text × Entry α → Option Text
  | (path, .file _) => if isSource path then some path else none
  | (_, .directory _) => none

/-- The path of an entry that is a directory. -/
def directory? : Text × Entry α → Option Text
  | (_, .file _) => none
  | (path, .directory _) => some path

mutual

/-- The documents are among the visits. -/
theorem documentsAt_eq (path : Text) (e : Entry α) :
    documentsAt path e = (visitsAt path e).filterMap document? := by
  cases e with
  | file c =>
    rw [documentsAt, visitsAt]
    split <;> simp [document?, *]
  | directory es => rw [documentsAt, visitsAt, List.filterMap_cons, documentsIn_eq]; rfl

/-- The search for documents is the walk, with what is no document left out. -/
theorem documentsIn_eq (path : Text) (es : List (Text × Entry α)) :
    documentsIn path es = (visitsIn path es).filterMap document? := by
  cases es with
  | nil => rfl
  | cons entry more =>
    rw [documentsIn, visitsIn, List.filterMap_append, documentsIn_eq path more]
    split
    · rfl
    · rw [documentsAt_eq]

end

mutual

/-- The directories are among the visits. -/
theorem directoriesAt_eq (path : Text) (e : Entry α) :
    directoriesAt path e = (visitsAt path e).filterMap directory? := by
  cases e with
  | file c => rfl
  | directory es => rw [directoriesAt, visitsAt, List.filterMap_cons, directoriesIn_eq]; rfl

/-- The search for directories to be watched is the same walk, with files left out. -/
theorem directoriesIn_eq (path : Text) (es : List (Text × Entry α)) :
    directoriesIn path es = (visitsIn path es).filterMap directory? := by
  cases es with
  | nil => rfl
  | cons entry more =>
    rw [directoriesIn, visitsIn, List.filterMap_append, directoriesIn_eq path more]
    split
    · rfl
    · rw [directoriesAt_eq]

end

/-! ## What is visited -/

/-- The names of the directories on the way to an entry below another one, and its own name if it is
a directory. -/
def passed (names : List Text) (x : Entry α) : List Text :=
  if x.isDirectory then names else names.dropLast

/-- Does a walk come to an entry by these names? No directory on the way may be hidden. -/
def Reached (names : List Text) (x : Entry α) : Prop :=
  ∀ name ∈ passed names x, isHidden name = false

/-- An entry of the root is reached unless its own name is one to be skipped. -/
theorem reached_singleton {name : Text} {x : Entry α} :
    Reached [name] x ↔ isSkipped name x = false := by
  unfold Reached passed isSkipped
  cases x.isDirectory <;> simp

/-- An entry further down is reached when the directories on the way are not hidden and its own name
is not one to be skipped. -/
theorem reached_cons {name : Text} {names : List Text} {x : Entry α} (hne : names ≠ []) :
    Reached (name :: names) x ↔ isHidden name = false ∧ Reached names x := by
  have hpassed : passed (name :: names) x = name :: passed names x := by
    unfold passed
    split
    · rfl
    · exact List.dropLast_cons_of_ne_nil hne
  rw [Reached, hpassed, List.forall_mem_cons, Reached]

/-- What lies below a root by a name and more names lies below what has that name. -/
theorem Below.tail {root path name : Text} {names : List Text} (hroot : root ≠ []) (hne : names ≠ [])
    (h : Below root path (name :: names)) : Below (Files.join root name) path names := by
  obtain ⟨-, hproper, htext, hclean⟩ := h
  obtain ⟨hname, hnames⟩ := List.forall_mem_cons.1 hproper
  refine ⟨hne, hnames, ?_, hclean⟩
  rw [htext, Files.ofText_join hroot hname]
  simp

/-- No path lies below itself. -/
theorem not_below_self {root : Text} {names : List Text} : ¬ Below root root names := by
  rintro ⟨hne, -, htext, -⟩
  have hnames := congrArg Files.Path.names htext
  exact hne (by simpa using hnames)

/-- What is found under a name is an entry of that name. -/
theorem mem_of_lookup {name : Text} {x : Entry α} {es : List (Text × Entry α)}
    (h : es.lookup name = some x) : name ∈ es.map Prod.fst := by
  obtain ⟨before, after, rfl, -⟩ := List.lookup_eq_some_iff.1 h
  simp

/-- An entry below a directory is below one of its entries. -/
theorem mem_of_get? {name : Text} {names : List Text} {x : Entry α} {es : List (Text × Entry α)}
    (h : (Entry.directory es).get? (name :: names) = some x) : name ∈ es.map Prod.fst := by
  rw [Entry.get?_cons_directory] at h
  obtain ⟨e, he, -⟩ := Option.bind_eq_some_iff.1 h
  exact mem_of_lookup he

/-- What stands in a directory stands in its first entry or among the others, which have other
names. -/
theorem get?_entries_cons {name n : Text} {names : List Text} {e x : Entry α}
    {more : List (Text × Entry α)} (hnew : name ∉ more.map Prod.fst) :
    (Entry.directory ((name, e) :: more)).get? (n :: names) = some x ↔
      n = name ∧ e.get? names = some x ∨ (Entry.directory more).get? (n :: names) = some x := by
  by_cases hn : n = name
  · subst hn
    have hnone : (Entry.directory more).get? (n :: names) ≠ some x := fun h => hnew (mem_of_get? h)
    rw [Entry.get?_cons_directory, List.lookup_cons, beq_self_eq_true]
    simp [hnone]
  · rw [Entry.get?_cons_directory, Entry.get?_cons_directory, List.lookup_cons,
      beq_false_of_ne hn]
    simp [hn]

/-- A walk comes to the first entry of a directory, and to what it comes to from there, unless the
entry is skipped. -/
theorem mem_visits_first {path name p : Text} {e x : Entry α} (hpath : path ≠ [])
    (hname : Proper name)
    (hentry : (p, x) ∈ visitsAt (Files.join path name) e ↔
      (p = Files.join path name ∧ x = e) ∨
        ∃ names, Below (Files.join path name) p names ∧ e.get? names = some x ∧ Reached names x) :
    (p, x) ∈ (if isSkipped name e then [] else visitsAt (Files.join path name) e) ↔
      ∃ names, Below path p (name :: names) ∧ e.get? names = some x ∧
        Reached (name :: names) x := by
  have hjoin := below_join hpath hname
  constructor
  · intro h
    split at h
    · cases h
    rename_i hskip
    rcases hentry.1 h with ⟨rfl, rfl⟩ | ⟨names, hbelow, hget, hreached⟩
    · exact ⟨[], hjoin, by simp [Entry.get?], reached_singleton.2 (by simpa using hskip)⟩
    · refine ⟨names, hbelow.cons hpath hname, hget, (reached_cons hbelow.1).2 ⟨?_, hreached⟩⟩
      cases e with
      | file c =>
        rw [Entry.get?_file c hbelow.1] at hget
        cases hget
      | directory es => simpa [isSkipped, Entry.isDirectory] using hskip
  · rintro ⟨names, hbelow, hget, hreached⟩
    by_cases hnames : names = []
    · subst hnames
      obtain rfl : e = x := Option.some.inj (by simpa [Entry.get?] using hget)
      rw [if_neg (by simpa using reached_singleton.1 hreached)]
      exact hentry.2 (.inl ⟨(hbelow.eq_iff hjoin).2 rfl, rfl⟩)
    · obtain ⟨hhidden, hreached⟩ := (reached_cons hnames).1 hreached
      rw [if_neg (by simp [isSkipped, hhidden])]
      exact hentry.2 (.inr ⟨names, hbelow.tail hpath hnames, hget, hreached⟩)

mutual

/-- A walk comes to an entry itself, and below it to all that is reached. The entry itself is
visited whatever its name is, which is why the root may be hidden. -/
theorem mem_visitsAt {path p : Text} {x : Entry α} (hpath : path ≠ []) (e : Entry α)
    (hnamed : Named e) (hdistinct : Distinct e) :
    (p, x) ∈ visitsAt path e ↔ (p = path ∧ x = e) ∨
      ∃ names, Below path p names ∧ e.get? names = some x ∧ Reached names x := by
  cases e with
  | file c =>
    rw [visitsAt, List.mem_singleton, Prod.mk.injEq]
    constructor
    · exact .inl
    · rintro (h | ⟨names, hbelow, hget, -⟩)
      · exact h
      · rw [Entry.get?_file c hbelow.1] at hget
        cases hget
  | directory es =>
    rw [visitsAt, List.mem_cons, Prod.mk.injEq, mem_visitsIn hpath es hnamed hdistinct]

/-- **What a walk visits**: the entries that are reached, each under the path that leads to it. The
proof is mutual with the one for the entries behind a single name. -/
theorem mem_visitsIn {path p : Text} {x : Entry α} (hpath : path ≠ []) (es : List (Text × Entry α))
    (hnamed : NamedIn es) (hdistinct : DistinctIn es) :
    (p, x) ∈ visitsIn path es ↔
      ∃ names, Below path p names ∧ (Entry.directory es).get? names = some x ∧ Reached names x := by
  cases es with
  | nil =>
    constructor
    · intro h
      cases h
    · rintro ⟨names, hbelow, hget, -⟩
      rw [Entry.get?_nil_directory hbelow.1] at hget
      cases hget
  | cons entry more =>
    obtain ⟨name, e⟩ := entry
    obtain ⟨hname, hnamed, hmore⟩ := hnamed
    obtain ⟨hnew, hdistinct, hdistinct'⟩ := hdistinct
    have hne : Files.join path name ≠ [] := (below_join hpath hname).2.2.2 ▸ Files.clean_ne_nil _
    rw [visitsIn, List.mem_append,
      mem_visits_first hpath hname (mem_visitsAt hne e hnamed hdistinct),
      mem_visitsIn hpath more hmore hdistinct']
    constructor
    · rintro (⟨names, hbelow, hget, hreached⟩ | ⟨names, hbelow, hget, hreached⟩)
      · exact ⟨name :: names, hbelow, (get?_entries_cons hnew).2 (.inl ⟨rfl, hget⟩), hreached⟩
      · obtain ⟨n, names, rfl⟩ := List.exists_cons_of_ne_nil hbelow.1
        exact ⟨n :: names, hbelow, (get?_entries_cons hnew).2 (.inr hget), hreached⟩
    · rintro ⟨names, hbelow, hget, hreached⟩
      obtain ⟨n, names, rfl⟩ := List.exists_cons_of_ne_nil hbelow.1
      rcases (get?_entries_cons hnew).1 hget with ⟨rfl, hfirst⟩ | hlater
      · exact .inl ⟨names, hbelow, hfirst, hreached⟩
      · exact .inr ⟨n :: names, hbelow, hlater, hreached⟩

end

mutual

/-- A walk comes to no path twice. -/
theorem nodup_visitsAt {path : Text} (hpath : path ≠ []) (e : Entry α) (hnamed : Named e)
    (hdistinct : Distinct e) : ((visitsAt path e).map Prod.fst).Nodup := by
  cases e with
  | file c => simp [visitsAt]
  | directory es =>
    rw [visitsAt, List.map_cons, List.nodup_cons]
    refine ⟨fun hmem => ?_, nodup_visitsIn hpath es hnamed hdistinct⟩
    obtain ⟨⟨p, x⟩, hx, rfl⟩ := List.mem_map.1 hmem
    obtain ⟨names, hbelow, -⟩ := (mem_visitsIn hpath es hnamed hdistinct).1 hx
    exact not_below_self hbelow

/-- No path is visited twice, because no two entries of a directory share a name. The proof is
mutual with the one for a single entry; visits below different entries differ in the name by which
they start. -/
theorem nodup_visitsIn {path : Text} (hpath : path ≠ []) (es : List (Text × Entry α))
    (hnamed : NamedIn es) (hdistinct : DistinctIn es) :
    ((visitsIn path es).map Prod.fst).Nodup := by
  cases es with
  | nil => exact List.nodup_nil
  | cons entry more =>
    obtain ⟨name, e⟩ := entry
    obtain ⟨hname, hnamed, hmore⟩ := hnamed
    obtain ⟨hnew, hdistinct, hdistinct'⟩ := hdistinct
    have hne : Files.join path name ≠ [] := (below_join hpath hname).2.2.2 ▸ Files.clean_ne_nil _
    rw [visitsIn, List.map_append, List.nodup_append]
    refine ⟨?_, nodup_visitsIn hpath more hmore hdistinct', fun p hp q hq => ?_⟩
    · split
      · exact List.nodup_nil
      · exact nodup_visitsAt hne e hnamed hdistinct
    · -- the first name below the path tells the two apart
      obtain ⟨⟨p, x⟩, hx, rfl⟩ := List.mem_map.1 hp
      obtain ⟨⟨q, y⟩, hy, rfl⟩ := List.mem_map.1 hq
      obtain ⟨names, hbelow, -⟩ :=
        (mem_visits_first hpath hname (mem_visitsAt hne e hnamed hdistinct)).1 hx
      obtain ⟨names', hbelow', hget', -⟩ := (mem_visitsIn hpath more hmore hdistinct').1 hy
      intro heq
      obtain rfl : name :: names = names' := (hbelow.eq_iff hbelow').1 heq
      exact hnew (mem_of_get? hget')

end

/-! ## Documents and directories -/

/-- A visit is one of a document when no directory is there and the name is that of a document, in
small letters or capitals. -/
theorem document?_eq_some {v : Text × Entry α} {p : Text} :
    document? v = some p ↔ v.1 = p ∧ v.2.isDirectory = false ∧ isSource p = true := by
  obtain ⟨q, x⟩ := v
  cases x with
  | file c =>
    rw [document?]
    split
    · rename_i hs
      rw [Option.some_inj]
      exact ⟨fun h => ⟨h, rfl, h ▸ hs⟩, fun h => h.1⟩
    · rename_i hs
      constructor
      · intro h
        cases h
      · rintro ⟨h, -, hp⟩
        exact absurd ((show q = p from h) ▸ hp) hs
  | directory es => simp [document?, Entry.isDirectory]

/-- A visit is one of a directory when one is there. -/
theorem directory?_eq_some {v : Text × Entry α} {p : Text} :
    directory? v = some p ↔ v.1 = p ∧ v.2.isDirectory = true := by
  obtain ⟨q, x⟩ := v
  cases x <;> simp [directory?, Entry.isDirectory]

/-- A path below a root is that of a document when its last name is that of one. -/
theorem Below.isSource_iff {root path name : Text} {above : List Text}
    (h : Below root path (above ++ [name])) :
    isSource path = true ↔
      Text.lower (Files.extension name) ∈ documentExtensions ∧ isHidden name = false := by
  have hname : Proper name := h.2.1 name (by simp)
  obtain ⟨above', hnames, -⟩ := h.rename
  obtain ⟨-, hlast⟩ := List.append_inj' hnames rfl
  have hlast : (splitLast path).2 = name := (List.singleton_inj.1 hlast).symm
  have hself : splitLast ([] ++ name) = ([], name) := Files.splitLast_lead (.inl rfl) hname.2.1
  have hbase : Files.base path = name := by
    rw [Files.base_eq (by rw [hlast]; exact hname.1), hlast]
  rw [isSource, hbase, Files.extension_congr (hlast.trans (congrArg Prod.snd hself).symm)]
  simp

section

variable {root p : Text} {es : List (Text × Entry α)}

/-- Is there a document at a path below a root? It is a file that is not hidden, with the extension
of documents, and no directory between it and the root is hidden. -/
def IsDocument (e : Entry α) (root p : Text) : Prop :=
  ∃ above name c, Below root p (above ++ [name]) ∧ e.get? (above ++ [name]) = some (.file c) ∧
    Text.lower (Files.extension name) ∈ documentExtensions ∧ isHidden name = false ∧
    ∀ n ∈ above, isHidden n = false

/-- Is there an open directory at a path? It is the root, or it is below the root and neither it nor
a directory between it and the root is hidden. -/
def IsOpen (e : Entry α) (root p : Text) : Prop :=
  p = Files.clean root ∨ ∃ names es, Below root p names ∧ e.get? names = some (.directory es) ∧
    ∀ n ∈ names, isHidden n = false

/-- No document is found twice below a root. -/
theorem nodup_documentsAt (hroot : root ≠ []) {e : Entry α} (hnamed : Named e)
    (hdistinct : Distinct e) : (documentsAt root e).Nodup := by
  have hvisits := nodup_visitsAt hroot e hnamed hdistinct
  rw [List.Nodup, List.pairwise_map] at hvisits
  rw [documentsAt_eq, List.Nodup, List.pairwise_filterMap]
  refine hvisits.imp fun {v v'} hne p hp p' hp' heq => hne ?_
  rw [(document?_eq_some.1 hp).1, (document?_eq_some.1 hp').1, heq]

/-- **Documents are found exactly as they are specified**, below a root that is a directory. The
specification looks at an entry from outside: it is reached by names that are not hidden, it is no
directory, and it has the name of a document. -/
theorem mem_documentsAt_iff (hroot : root ≠ []) (hnamed : Named (.directory es))
    (hdistinct : Distinct (.directory es)) :
    p ∈ documentsAt root (.directory es) ↔ IsDocument (.directory es) root p := by
  rw [documentsAt_eq, List.mem_filterMap]
  constructor
  · rintro ⟨⟨q, x⟩, hx, hp⟩
    obtain ⟨rfl, hfile, hsource⟩ := document?_eq_some.1 hp
    obtain ⟨c, rfl⟩ : ∃ c, x = .file c := by
      cases x with
      | file c => exact ⟨c, rfl⟩
      | directory es => cases hfile
    rcases (mem_visitsAt hroot _ hnamed hdistinct).1 hx with ⟨-, hx⟩ | ⟨names, hbelow, hget, hreached⟩
    · cases hx
    · obtain ⟨above, name, rfl⟩ : ∃ above name, names = above ++ [name] :=
        ⟨_, _, (List.dropLast_concat_getLast hbelow.1).symm⟩
      obtain ⟨hext, hname⟩ := hbelow.isSource_iff.1 hsource
      refine ⟨above, name, c, hbelow, hget, hext, hname, fun n hn => hreached n ?_⟩
      simpa [passed, Entry.isDirectory] using hn
  · rintro ⟨above, name, c, hbelow, hget, hext, hname, habove⟩
    refine ⟨(p, .file c), ?_, document?_eq_some.2 ⟨rfl, rfl, hbelow.isSource_iff.2 ⟨hext, hname⟩⟩⟩
    refine (mem_visitsAt hroot _ hnamed hdistinct).2 (.inr ⟨_, hbelow, hget, fun n hn => habove n ?_⟩)
    simpa [passed, Entry.isDirectory] using hn

/-- **Directories to be watched are found exactly as they are specified**, by the same reading of
what is hidden, so that the search and the watch cannot disagree about where documents may be. -/
theorem mem_directoriesAt_iff (hroot : root ≠ []) (hnamed : Named (.directory es))
    (hdistinct : Distinct (.directory es)) :
    (∃ q ∈ directoriesAt root (.directory es), Files.clean q = p) ↔
      IsOpen (.directory es) root p := by
  have hmem (q : Text) : q ∈ directoriesAt root (.directory es) ↔ q = root ∨
      ∃ names fs, Below root q names ∧ (Entry.directory es).get? names = some (.directory fs) ∧
        ∀ n ∈ names, isHidden n = false := by
    rw [directoriesAt_eq, List.mem_filterMap]
    constructor
    · rintro ⟨⟨r, x⟩, hx, hq⟩
      obtain ⟨rfl, hdir⟩ := directory?_eq_some.1 hq
      obtain ⟨fs, rfl⟩ : ∃ fs, x = .directory fs := by
        cases x with
        | file c => cases hdir
        | directory fs => exact ⟨fs, rfl⟩
      rcases (mem_visitsAt hroot _ hnamed hdistinct).1 hx with ⟨rfl, -⟩ | ⟨names, hbelow, hget, hr⟩
      · exact .inl rfl
      · exact .inr ⟨names, fs, hbelow, hget, hr⟩
    · rintro (rfl | ⟨names, fs, hbelow, hget, hr⟩)
      · exact ⟨(q, .directory es), (mem_visitsAt hroot _ hnamed hdistinct).2 (.inl ⟨rfl, rfl⟩), rfl⟩
      · exact ⟨(q, .directory fs),
          (mem_visitsAt hroot _ hnamed hdistinct).2 (.inr ⟨names, hbelow, hget, hr⟩), rfl⟩
  constructor
  · rintro ⟨q, hq, rfl⟩
    rcases (hmem q).1 hq with rfl | ⟨names, fs, hbelow, hopen⟩
    · exact .inl rfl
    · exact .inr ⟨names, fs, by rwa [hbelow.2.2.2], hopen⟩
  · rintro (rfl | ⟨names, fs, hbelow, hopen⟩)
    · exact ⟨root, (hmem root).2 (.inl rfl), rfl⟩
    · exact ⟨p, (hmem p).2 (.inr ⟨names, fs, hbelow, hopen⟩), hbelow.2.2.2⟩

/-- The directory of a file below a root is open when no name above the file is hidden. So a change
of the file is noticed by a watch of the root. -/
theorem isOpen_directory {name : Text} {above : List Text} {x : Entry α}
    (h : Below root p (above ++ [name])) (hget : (Entry.directory es).get? (above ++ [name]) = some x) :
    IsOpen (.directory es) root (Files.directory p) ↔ ∀ n ∈ above, isHidden n = false := by
  have htext := h.ofText_directory
  have hclean : Files.clean (Files.directory p) = Files.directory p := by
    rw [Files.directory, Files.clean_clean]
  by_cases hempty : above = []
  · subst hempty
    have hroot : Files.directory p = Files.clean root := by
      rw [← hclean, Files.clean, htext, List.append_nil, Files.clean]
    simp [IsOpen, hroot]
  · have hbelow : Below root (Files.directory p) above :=
      ⟨hempty, fun n hn => h.2.1 n (List.mem_append_left _ hn), htext, hclean⟩
    constructor
    · rintro (hroot | ⟨names, fs, hnames, -, hopen⟩)
      · have := congrArg (fun q => (ofText q).names) hroot
        rw [htext, Files.ofText_clean] at this
        exact absurd (by simpa using this) hempty
      · exact (hbelow.eq_iff hnames).1 rfl ▸ hopen
    · intro hopen
      have hdir : (Entry.directory es).look above = some none := by
        refine Entry.look_of_append (List.cons_ne_nil name []) ?_
        rw [Entry.look, hget]
        simp
      obtain ⟨fs, hfs⟩ := Entry.look_eq_directory.1 hdir
      exact .inr ⟨above, fs, hbelow, hfs, hopen⟩

end

/-! ## A build and a watch -/

/-- The directories that are added to a watch. -/
theorem mem_enrol {w : Watch} {dirs : List Text} {q : Text} :
    q ∈ (w.enrol dirs).directories ↔ q ∈ w.directories ∨ ∃ p ∈ dirs, Files.clean p = q := by
  simp only [Watch.enrol, List.mem_append, List.mem_filter, List.mem_map, Bool.not_eq_true',
    List.contains_eq_mem, decide_eq_false_iff_not]
  by_cases h : q ∈ w.directories <;> simp [h]

/-- A watch starts with the directories of the root. -/
theorem Builder.watch_eq_ok {b : Builder} (hoptions : b.options.validate = .ok ()) {root : Text}
    {s : Site} {dirs : List Text} (h : directories s.disk root = .ok dirs) :
    b.watch root s = .ok (Watch.enrol { root } dirs)
      { s with notes := s.notes ++ [.watching root] } := by
  have hcheck : b.check s = .ok () s := by
    rw [Builder.check, hoptions]
    rfl
  exact Files.bind_eq_ok.2 ⟨(), s, hcheck, Files.bind_eq_ok.2 ⟨s, s, rfl, by rw [h]; rfl⟩⟩

/-- **A build and a watch see the same documents.** Below a directory, hidden or not, with names
that a system can have, different ones in each directory, a build finds its documents, in order and
each one once, and a watch is told about its open directories. So a file is found by a build exactly
when it is a document by its name and its directory is watched. -/
theorem discover_iff_watched {d : Disk Content} {root : Text} {es : List (Text × Entry Content)}
    (hroot : d.find root = .ok (.directory es)) (hnamed : Named (.directory es))
    (hdistinct : Distinct (.directory es)) :
    ∃ sources dirs, discover d root = .ok sources ∧ directories d root = .ok dirs ∧
      sources.Pairwise (fun p q => Text.le p q = true) ∧ sources.Nodup ∧
      (∀ p, p ∈ sources ↔ IsDocument (.directory es) root p) ∧
      (∀ (w : Watch) (q : Text), q ∈ (w.enrol dirs).directories ↔
        q ∈ w.directories ∨ IsOpen (.directory es) root q) ∧
      ∀ (b : Builder) (notes : List Note), b.options.validate = .ok () →
        ∃ w s', b.watch root ⟨d, notes⟩ = .ok w s' ∧
          (∀ q, q ∈ w.directories ↔ IsOpen (.directory es) root q) ∧
          ∀ p names c, Below root p names → (Entry.directory es).get? names = some (.file c) →
            (p ∈ sources ↔ isSource p = true ∧ Files.directory p ∈ w.directories) := by
  have hne : root ≠ [] := by
    rintro rfl
    cases hroot
  have hstart : startOf d root = .ok (.directory es) := by rw [startOf, hroot]; rfl
  have hmem (p : Text) : p ∈ Text.sort (documentsAt root (.directory es)) ↔
      IsDocument (.directory es) root p := by
    rw [Text.mem_sort, mem_documentsAt_iff hne hnamed hdistinct]
  have henrol (w : Watch) (q : Text) :
      q ∈ (w.enrol (directoriesAt root (.directory es))).directories ↔
        q ∈ w.directories ∨ IsOpen (.directory es) root q := by
    rw [mem_enrol, mem_directoriesAt_iff hne hnamed hdistinct]
  refine ⟨_, _, by rw [discover, hstart]; rfl, by rw [directories, hstart]; rfl,
    Text.pairwise_sort _, ?_, hmem, henrol, fun b notes hoptions => ?_⟩
  · exact (List.mergeSort_perm _ _).nodup_iff.2 (nodup_documentsAt hne hnamed hdistinct)
  -- a watch that begins has only the directories that it has found
  · have hwatched (q : Text) : q ∈ (Watch.enrol { root }
        (directoriesAt root (.directory es))).directories ↔ IsOpen (.directory es) root q := by
      rw [henrol]
      simp
    refine ⟨_, _, Builder.watch_eq_ok hoptions (by rw [directories, hstart]; rfl), hwatched, ?_⟩
    intro p names c hbelow hget
    obtain ⟨above, name, rfl⟩ : ∃ above name, names = above ++ [name] :=
      ⟨_, _, (List.dropLast_concat_getLast hbelow.1).symm⟩
    rw [hmem, hwatched, isOpen_directory hbelow hget, hbelow.isSource_iff]
    constructor
    · rintro ⟨above', name', c', hbelow', -, hext, hname, habove⟩
      obtain ⟨rfl, hlast⟩ := List.append_inj' ((hbelow.eq_iff hbelow').1 rfl) rfl
      rw [List.singleton_inj.1 hlast]
      exact ⟨⟨hext, hname⟩, habove⟩
    · rintro ⟨⟨hext, hname⟩, habove⟩
      exact ⟨above, name, c, hbelow, hget, hext, hname, habove⟩

namespace Sample

/-- What is in a hidden directory: a document, one in a directory beside it that sorts behind it,
and one in a hidden directory. -/
def notes : List (Text × Entry Content) :=
  [(Text.lit ".h", .directory [(Text.lit "x.md", .file (.text []))]),
    (Text.lit "b", .directory [(Text.lit "a.MD", .file (.text []))]),
    (Text.lit "b.md", .file (.text []))]

/-- A disk with that directory. -/
def grove : Disk Content where
  root := .directory [(Text.lit ".notes", .directory notes)]

/-- A run with a hidden root, a hidden directory below it and a document with an ending in capitals.
-/
theorem discover_grove :
    ∃ sources w s', discover grove (Text.lit ".notes") = .ok sources ∧
      Builder.watch {} (Text.lit ".notes") ⟨grove, []⟩ = .ok w s' ∧
      sources.Pairwise (fun p q => Text.le p q = true) ∧
      (Text.lit ".notes/b/a.MD" ∈ sources ∧ Text.lit ".notes/b" ∈ w.directories) ∧
      Text.lit ".notes/.h/x.md" ∉ sources ∧ Text.lit ".notes/.h" ∉ w.directories := by
  have hnamed : Named (.directory notes) := by
    simp only [notes, Named, NamedIn]
    decide
  have hdistinct : Distinct (.directory notes) := by
    simp only [notes, Distinct, DistinctIn]
    decide
  obtain ⟨sources, dirs, hdiscover, -, hsorted, -, -, -, hwatch⟩ :=
    discover_iff_watched
      (show grove.find (Text.lit ".notes") = .ok (.directory notes) from rfl) hnamed hdistinct
  obtain ⟨w, s', hw, hopen, hboth⟩ := hwatch {} [] Options.validate_default
  have hbelow (p : Text) (names : List Text) (hne : names ≠ []) (hproper : ∀ n ∈ names, Proper n)
      (htext : ofText p = ⟨false, Text.lit ".notes" :: names⟩) (hclean : Files.clean p = p) :
      Below (Text.lit ".notes") p names := ⟨hne, hproper, htext, hclean⟩
  have hseen : Text.lit ".notes/b" ∈ w.directories := by
    refine (hopen _).2 (.inr ⟨[Text.lit "b"], _, ?_, rfl, by decide⟩)
    exact hbelow _ _ (by decide) (by decide) (by decide) (by decide)
  have hpassed : Text.lit ".notes/.h" ∉ w.directories := by
    intro h
    rcases (hopen _).1 h with h | ⟨names, fs, hnames, -, hhidden⟩
    · exact absurd h (by decide)
    · have hh := hbelow (Text.lit ".notes/.h") [Text.lit ".h"] (by decide) (by decide) (by decide)
        (by decide)
      rw [(hnames.eq_iff hh).1 rfl] at hhidden
      exact absurd hhidden (by decide)
  refine ⟨sources, w, s', hdiscover, hw, hsorted, ⟨?_, hseen⟩, ?_, hpassed⟩
  · refine (hboth _ [Text.lit "b", Text.lit "a.MD"] _ ?_ rfl).2 ⟨by decide, hseen⟩
    exact hbelow _ _ (by decide) (by decide) (by decide) (by decide)
  · refine fun h => hpassed ((hboth _ [Text.lit ".h", Text.lit "x.md"] _ ?_ rfl).1 h).2
    exact hbelow _ _ (by decide) (by decide) (by decide) (by decide)

end Sample

end NovelScript.Build
