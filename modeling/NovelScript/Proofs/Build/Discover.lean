import NovelScript.Build.Builder
import NovelScript.Proofs.Files.Path

/-!
# The documents of a directory and their scripts

A walk gives every document a path that starts with that of the root. Where the names of a tree are
names that a system can have (`Named`), such a path tells the names below the root.

* **`mem_documentsAt`** says what the paths of documents look like.
* **`relative?_inj`** says that documents are told apart by how they are seen from the root, and
  **`path?_isSome`** that each of them has a place for its script.
* **`isDirect_path?`** says that the path of a script enters no directory to leave it again.
-/

namespace NovelScript.Build

open Files (Disk Entry Proper slash)
open Files.Path (ofText)

variable {α : Type}

mutual

/-- Are all names in the tree names that a system can have? -/
def Named : Entry α → Prop
  | .file _ => True
  | .directory entries => NamedIn entries

/-- Are all names of entries and below them names that a system can have? -/
def NamedIn : List (Text × Entry α) → Prop
  | [] => True
  | (name, e) :: more => Proper name ∧ Named e ∧ NamedIn more

end

/-! ## Where documents are -/

/-- A path below another one, written in the shortest way. -/
def Below (root path : Text) (names : List Text) : Prop :=
  names ≠ [] ∧ (∀ name ∈ names, Proper name) ∧
    ofText path = ⟨(ofText root).rooted, (ofText root).names ++ names⟩ ∧ Files.clean path = path

/-- A name below a root, as the walk spells it, is below the root by that one name. -/
theorem below_join {root name : Text} (hroot : root ≠ []) (hname : Proper name) :
    Below root (Files.join root name) [name] := by
  refine ⟨by simp, by simpa using hname, Files.ofText_join hroot hname, ?_⟩
  have hne : root.isEmpty = false := by simpa using hroot
  rw [Files.join, hne, if_neg (by simp), Files.clean_clean]

/-- A path below a directory of the root is below the root, with the name of the directory in front.
This is the step of the walk down. -/
theorem Below.cons {root path name : Text} {names : List Text} (hroot : root ≠ [])
    (hname : Proper name) (h : Below (Files.join root name) path names) :
    Below root path (name :: names) := by
  obtain ⟨-, hnames, htext, hclean⟩ := h
  refine ⟨by simp, fun n hn => ?_, ?_, hclean⟩
  · rcases List.mem_cons.1 hn with rfl | hn
    · exact hname
    · exact hnames n hn
  · rw [htext, Files.ofText_join hroot hname]
    simp

mutual

/-- A document is the file at a path, or it is below that path. A root may be a single file, and it
is listed when its own name is that of a document. -/
theorem mem_documentsAt {path s : Text} (hpath : path ≠ []) (e : Entry α) (he : Named e)
    (h : s ∈ documentsAt path e) :
    isSource s = true ∧ ((e.isDirectory = false ∧ s = path) ∨
      e.isDirectory = true ∧ ∃ names, Below path s names) := by
  cases e with
  | file c =>
    rw [documentsAt] at h
    split at h
    · rename_i hs
      rw [List.mem_singleton] at h
      exact ⟨h ▸ hs, .inl ⟨rfl, h⟩⟩
    · cases h
  | directory entries =>
    rw [documentsAt] at h
    obtain ⟨hs, hbelow⟩ := mem_documentsIn hpath entries he h
    exact ⟨hs, .inr ⟨rfl, hbelow⟩⟩

/-- What is found in the entries of a directory has the name of a document and lies below the
directory. The proof follows the walk and is mutual with the one for a single entry. -/
theorem mem_documentsIn {path s : Text} (hpath : path ≠ []) (entries : List (Text × Entry α))
    (he : NamedIn entries) (h : s ∈ documentsIn path entries) :
    isSource s = true ∧ ∃ names, Below path s names := by
  cases entries with
  | nil => cases h
  | cons entry more =>
    obtain ⟨name, e⟩ := entry
    obtain ⟨hname, hnamed, hmore⟩ := he
    rw [documentsIn, List.mem_append] at h
    rcases h with h | h
    · split at h
      · cases h
      · have hjoin := below_join hpath hname
        have hne : Files.join path name ≠ [] := hjoin.2.2.2 ▸ Files.clean_ne_nil _
        obtain ⟨hs, ⟨-, rfl⟩ | ⟨-, names, hbelow⟩⟩ := mem_documentsAt hne e hnamed h
        · exact ⟨hs, _, hjoin⟩
        · exact ⟨hs, _, hbelow.cons hpath hname⟩
    · exact mem_documentsIn hpath more hmore h

end

/-- What lies below a root is known from how it is seen from there. -/
theorem Below.inj {root path path' : Text} {names names' : List Text} (h : Below root path names)
    (h' : Below root path' names')
    (hrel : Files.relative? root path = Files.relative? root path') : path = path' := by
  obtain ⟨hne, hproper, htext, hclean⟩ := h
  obtain ⟨hne', hproper', htext', hclean'⟩ := h'
  rw [Files.relative?_below hne htext, Files.relative?_below hne' htext', Option.some_inj] at hrel
  have hnames : names = names' := Text.join_inj hne hne' (fun n hn => (hproper n hn).2.1)
    (fun n hn => (hproper' n hn).2.1) hrel
  rw [← hclean, ← hclean', Files.clean, Files.clean, htext, htext', hnames]

/-! ## What is found -/

section

variable {d : Disk α} {root : Text} {sources : List Text}

/-- The documents that are found below a root are those of the entry there. -/
theorem discover_eq_ok (h : discover d root = .ok sources) :
    root ≠ [] ∧ ∃ e, d.find root = .ok e ∧ ∀ s, s ∈ sources ↔ s ∈ documentsAt root e := by
  rw [discover, startOf] at h
  cases hf : d.find root with
  | error c =>
    rw [hf] at h
    cases h
  | ok e =>
    rw [hf] at h
    cases h
    refine ⟨?_, e, rfl, fun s => ?_⟩
    · rintro rfl
      cases hf
    · exact List.mem_mergeSort

/-- A document that is found is the root itself, or it is below the root. This is all that later
proofs need of the search. -/
theorem mem_discover (h : discover d root = .ok sources)
    (hnamed : ∀ e, d.find root = .ok e → Named e) {s : Text} (hs : s ∈ sources) :
    isSource s = true ∧ ((∃ c, d.find root = .ok (.file c)) ∧ s = root ∨
      (∃ es, d.find root = .ok (.directory es)) ∧ ∃ names, Below root s names) := by
  obtain ⟨hroot, e, hfind, hmem⟩ := discover_eq_ok h
  obtain ⟨hsource, hcases⟩ := mem_documentsAt hroot e (hnamed e hfind) ((hmem s).1 hs)
  refine ⟨hsource, ?_⟩
  cases e with
  | file c =>
    rcases hcases with ⟨-, hs⟩ | ⟨hdir, -⟩
    · exact .inl ⟨⟨c, hfind⟩, hs⟩
    · cases hdir
  | directory es =>
    rcases hcases with ⟨hfile, -⟩ | ⟨-, hbelow⟩
    · cases hfile
    · exact .inr ⟨⟨es, hfind⟩, hbelow⟩

/-- Every document that is found can be seen from the root. -/
theorem relative?_isSome (h : discover d root = .ok sources)
    (hnamed : ∀ e, d.find root = .ok e → Named e) {s : Text} (hs : s ∈ sources) :
    ∃ rel, Files.relative? root s = some rel := by
  obtain ⟨-, ⟨-, rfl⟩ | ⟨-, names, hbelow⟩⟩ := mem_discover h hnamed hs
  · exact ⟨Files.dot, by simp [Files.relative?]⟩
  · exact ⟨_, Files.relative?_below hbelow.1 hbelow.2.2.1⟩

/-- Documents are told apart by how they are seen from the root. -/
theorem relative?_inj (h : discover d root = .ok sources)
    (hnamed : ∀ e, d.find root = .ok e → Named e) {s s' : Text} (hs : s ∈ sources)
    (hs' : s' ∈ sources) (hrel : Files.relative? root s = Files.relative? root s') : s = s' := by
  obtain ⟨-, ⟨⟨c, hc⟩, rfl⟩ | ⟨⟨es, hes⟩, names, hbelow⟩⟩ := mem_discover h hnamed hs
  · obtain ⟨-, ⟨-, rfl⟩ | ⟨⟨es, hes⟩, -⟩⟩ := mem_discover h hnamed hs'
    · rfl
    · cases hc.symm.trans hes
  · obtain ⟨-, ⟨⟨c, hc⟩, -⟩ | ⟨-, names', hbelow'⟩⟩ := mem_discover h hnamed hs'
    · cases hc.symm.trans hes
    · exact hbelow.inj hbelow' hrel

/-- Every document that is found has a place for its script. -/
theorem path?_isSome (h : discover d root = .ok sources)
    (hnamed : ∀ e, d.find root = .ok e → Named e) {s : Text} (hs : s ∈ sources) (t : Target) :
    ∃ output, t.path? root s = some output := by
  rw [Target.path?]
  split
  · exact ⟨_, rfl⟩
  · obtain ⟨rel, hrel⟩ := relative?_isSome h hnamed hs
    exact ⟨_, by rw [hrel]; rfl⟩

/-- The path of a document goes up only at its start, unless the root is a file whose path does
not. -/
theorem isDirect_source (h : discover d root = .ok sources)
    (hnamed : ∀ e, d.find root = .ok e → Named e)
    (hroot : ∀ c, d.find root = .ok (.file c) → Files.isDirect root = true) {s : Text}
    (hs : s ∈ sources) : Files.isDirect s = true := by
  obtain ⟨-, ⟨⟨c, hc⟩, rfl⟩ | ⟨-, names, hbelow⟩⟩ := mem_discover h hnamed hs
  · exact hroot c hc
  · rw [← hbelow.2.2.2]
    exact Files.isDirect_clean s

end

/-! ## The paths of scripts -/

/-- The last name of a path has no extension, or it ends in one, which starts with a point. The
cases are those of the last point in the name, which is looked for from behind. -/
theorem extension_cases (s : Text) :
    Files.extension s = [] ∨ ∃ front tail, Files.extension s = 0x2E :: tail ∧
      (Files.splitLast s).2 = front ++ 0x2E :: tail := by
  rw [Files.extension]
  generalize (Files.splitLast s).2 = name
  have happ := List.takeWhile_append_dropWhile (p := (· != 0x2E)) (l := name.reverse)
  cases hd : name.reverse.dropWhile (· != 0x2E) with
  | nil =>
    rw [hd, List.append_nil] at happ
    exact .inl (by simp [happ])
  | cons point rest =>
    have hpoint : point = 0x2E := by
      have := List.head_dropWhile_not (· != 0x2E) (l := name.reverse) (by simp [hd])
      simpa [hd] using this
    rw [hd, hpoint] at happ
    have hname : name = rest.reverse ++ 0x2E :: (name.reverse.takeWhile (· != 0x2E)).reverse := by
      simpa using (congrArg List.reverse happ).symm
    have hlen : (name.reverse.takeWhile (· != 0x2E)).reverse.length ≠ name.length := by
      intro h
      have := congrArg List.length hname
      simp only [List.length_append, List.length_cons] at this
      omega
    exact .inr ⟨rest.reverse, _, if_neg hlen, hname⟩

/-- The last name of a document is more than its extension and does not start with a point. A file
that is called `.md` is hidden and no document. -/
theorem splitLast_of_isSource {s : Text} (h : isSource s = true) :
    ∃ front, (Files.splitLast s).2 = front ++ Files.extension s ∧ front ≠ [] ∧
      front.head? ≠ some 0x2E := by
  rw [isSource, Bool.and_eq_true] at h
  obtain ⟨hext, hhidden⟩ := h
  rcases extension_cases s with hnil | ⟨front, tail, htail, hname⟩
  · rw [hnil] at hext
    exact absurd hext (by decide)
  · have hhead : (Files.splitLast s).2.head? ≠ some 0x2E := by
      rw [← Files.base_eq (by simp [hname])]
      simpa [isHidden] using hhidden
    rw [hname, List.head?_append] at hhead
    refine ⟨front, by rw [htail, hname], ?_, ?_⟩
    · rintro rfl
      exact hhead rfl
    · intro h
      rw [h] at hhead
      exact hhead rfl

/-- The stem of a path whose last name ends in its extension. -/
theorem stem_eq {s front : Text} (h : (Files.splitLast s).2 = front ++ Files.extension s) :
    Files.stem s = (Files.splitLast s).1 ++ front := by
  have happ : s = ((Files.splitLast s).1 ++ front) ++ Files.extension s := by
    rw [List.append_assoc, ← h, Files.splitLast_append]
  have hends : Text.endsWith (Files.extension s) s = true :=
    List.isSuffixOf_iff_suffix.2 ⟨_, happ.symm⟩
  have hlen : s.length - (Files.extension s).length = ((Files.splitLast s).1 ++ front).length := by
    have := congrArg List.length happ
    rw [List.length_append] at this
    omega
  rw [Files.stem, Text.dropEnd, if_pos hends, hlen]
  exact List.prefix_iff_eq_take.1 ⟨_, happ.symm⟩ |>.symm

/-- A name that is not empty, has no slash and does not start with a point can be the name of an
entry; `.` and `..` are the names that the last condition is for. -/
theorem proper_of_head? {name : Text} (hne : name ≠ []) (hslash : slash ∉ name)
    (hhead : name.head? ≠ some 0x2E) : Proper name := by
  refine ⟨hne, hslash, ?_, ?_⟩
  · rintro rfl
    exact hhead (by decide)
  · rintro rfl
    exact hhead (by decide)

/-- The path of a script is that of its document with another last name. When the path of the
document does not go up in the middle, neither does this one. -/
theorem isDirect_renamed {t : Target} (hext : slash ∉ t.extension) {s : Text} (h : isSource s = true)
    (hdirect : Files.isDirect s = true) : Files.isDirect (t.renamed s) = true := by
  obtain ⟨front, hfront, hne, hhead⟩ := splitLast_of_isSource h
  have hslash := Files.not_mem_splitLast s
  rw [hfront] at hslash
  have hproper (e : Text) (he : slash ∉ e) : Proper (front ++ e) := by
    refine proper_of_head? (by simp [hne]) ?_ ?_
    · exact fun hm => (List.mem_append.1 hm).elim (fun hm => hslash (List.mem_append_left _ hm)) he
    · rw [List.head?_append, Option.or_of_isSome (List.isSome_head?.2 hne)]
      exact hhead
  have hname : Proper (front ++ Files.extension s) :=
    hproper _ fun hm => hslash (List.mem_append_right _ hm)
  rw [Target.renamed, stem_eq hfront]
  rcases Files.splitLast_cases s with hs | ⟨up, name, hs, hsplit⟩
  · rw [hs]
    exact Files.isDirect_proper (hproper _ hext)
  · rw [hsplit] at hfront ⊢
    have hup : s = up ++ slash :: (front ++ Files.extension s) := by
      rw [← hfront]
      exact hs
    rw [hup, Files.isDirect_append hname] at hdirect
    rw [List.append_assoc, List.append_assoc, List.singleton_append, Files.isDirect_append (hproper _ hext)]
    exact hdirect

/-- The path of a script goes up only at its start. -/
theorem isDirect_path? {t : Target} (hext : slash ∉ t.extension) {root s output : Text}
    (h : isSource s = true) (hdirect : Files.isDirect s = true) (hpath : t.path? root s = some output) :
    Files.isDirect output = true := by
  rw [Target.path?] at hpath
  split at hpath
  · cases hpath
    exact isDirect_renamed hext h hdirect
  · rename_i hout
    obtain ⟨rel, -, rfl⟩ := Option.map_eq_some_iff.1 hpath
    rw [Files.join, if_neg hout]
    exact Files.isDirect_clean _

end NovelScript.Build
