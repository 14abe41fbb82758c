import NovelScript.Proofs.Build.Discover
import NovelScript.Proofs.Config.Schema
import NovelScript.Proofs.Files.Disk

/-!
# Which files a build writes

The script of a document keeps the names of the document below the root, all but the extension of
the last one. Everything here rests on one lemma about clean paths, **`Below.rename`**: another last
name gives another clean path, with the same names above.

* **`exists_path?`**: the names of a script below the directory for scripts are those of its
  document below the root, with the extension of scripts.
* **`path?_eq_iff_stem`**: two documents of a build share a script exactly when their paths differ
  in the extension only. Documents have two extensions in any case, so this happens:
  `path?_of_twins`.
* **`never_overwrites_iff`**: the scripts of a build are never documents of it exactly when the
  extension of scripts is not one of documents. Accepted settings do not see to that:
  `path?_of_document_extension`.
-/

namespace NovelScript.Files

open NovelScript.Files.Path (ofText)

/-! ## Last names and joined names -/

/-- The extension of a path is that of its last name. -/
theorem extension_congr {s s' : Text} (h : (splitLast s).2 = (splitLast s').2) :
    extension s = extension s' := by
  unfold extension
  rw [h]

/-- Behind the last point of the last name stands the extension, point included; the name in front
of it is what a script keeps. -/
theorem extension_eq {s front tail : Text} (h : (splitLast s).2 = front ++ 0x2E :: tail)
    (htail : (0x2E : UInt8) ∉ tail) : extension s = 0x2E :: tail := by
  have hskip : ∀ b ∈ tail.reverse, (b != 0x2E) = true := by
    intro b hb
    have : b ≠ 0x2E := fun he => htail (he ▸ List.mem_reverse.1 hb)
    simpa using this
  have htake : (front ++ 0x2E :: tail).reverse.takeWhile (· != 0x2E) = tail.reverse := by
    rw [List.reverse_append, List.reverse_cons, List.append_assoc,
      List.takeWhile_append_of_pos hskip]
    simp
  unfold extension
  simp only [h, htake, List.reverse_reverse]
  rw [if_neg]
  simp only [List.length_append, List.length_cons]
  omega

/-- Proper names are put down one below the other; none of them goes up again or is left out. So a
path of proper names is spelled as it is given. -/
theorem foldl_push_proper {names : List Text} (h : ∀ name ∈ names, Proper name) (rooted : Bool)
    (out : List Text) : names.foldl (Path.push rooted) out = names.reverse ++ out := by
  induction names generalizing out with
  | nil => rfl
  | cons name more ih =>
    rw [List.foldl_cons, Path.push_of_proper (h name List.mem_cons_self),
      ih fun n hn => h n (List.mem_cons_of_mem _ hn)]
    simp

/-- Names after a path are further names of the clean path. -/
theorem ofText_join_joined {a : Text} {names : List Text} (ha : a ≠ []) (hne : names ≠ [])
    (h : ∀ name ∈ names, Proper name) :
    ofText (join a (Path.joined names)) = ⟨(ofText a).rooted, (ofText a).names ++ names⟩ := by
  have hempty : a.isEmpty = false := by simpa using ha
  unfold join
  rw [hempty, if_neg (by simp), ofText_clean, ofText_append_cons ha, Path.joined,
    Text.splitAt_join hne fun n hn => (h n hn).2.1, foldl_push_proper h]
  simp

end NovelScript.Files

namespace NovelScript.Build

open Files (Disk Entry Proper slash splitLast)
open Files.Path (ofText)

variable {α : Type}

/-! ## Below a directory -/

/-- Paths below one directory are the same exactly when their names are. -/
theorem Below.eq_iff {root path path' : Text} {names names' : List Text}
    (h : Below root path names) (h' : Below root path' names') : path = path' ↔ names = names' := by
  obtain ⟨-, -, htext, hclean⟩ := h
  obtain ⟨-, -, htext', hclean'⟩ := h'
  constructor
  · intro heq
    have := htext.symm.trans (heq ▸ htext')
    simpa using this
  · intro heq
    rw [← hclean, ← hclean', Files.clean, Files.clean, htext, htext', heq]

/-- Another last name gives another path below the same directory. It is how the path of a script is
seen to be below the root when that of its document is. -/
theorem Below.rename {root path : Text} {names : List Text} (h : Below root path names) :
    ∃ above, names = above ++ [(splitLast path).2] ∧
      ∀ name, Proper name → Below root ((splitLast path).1 ++ name) (above ++ [name]) := by
  obtain ⟨hne, hproper, htext, hclean⟩ := h
  obtain ⟨above, last, rfl⟩ : ∃ above last, names = above ++ [last] :=
    ⟨_, _, (List.dropLast_concat_getLast hne).symm⟩
  obtain ⟨lead, hlead, hspell⟩ :=
    Files.exists_lead (ofText root).rooted ((ofText root).names ++ above)
  have hpath : path = lead ++ last := by
    rw [← hclean, Files.clean, htext, ← hspell, List.append_assoc]
  have hsplit : splitLast path = (lead, last) := by
    rw [hpath]
    exact Files.splitLast_lead hlead (hproper last (by simp)).2.1
  have htidy := Files.Path.tidy_ofText path
  rw [htext] at htidy
  simp only [List.reverse_append, List.reverse_cons, List.reverse_nil, List.nil_append,
    List.cons_append] at htidy
  refine ⟨above, by rw [hsplit], fun name hname => ?_⟩
  -- the names above are as clean as before, and the new one is proper
  have htidy' : Files.Path.Tidy (ofText root).rooted
      ((ofText root).names ++ (above ++ [name])).reverse := by
    simp only [List.reverse_append, List.reverse_cons, List.reverse_nil, List.nil_append,
      List.cons_append]
    exact ⟨⟨hname.1, hname.2.1, hname.2.2.1⟩, fun hdd => absurd hdd hname.2.2.2, htidy.2.2⟩
  have hnew : lead ++ name =
      (Files.Path.mk (ofText root).rooted ((ofText root).names ++ (above ++ [name]))).toText := by
    rw [← hspell, List.append_assoc]
  have hof := Files.Path.ofText_toText
    (p := ⟨(ofText root).rooted, (ofText root).names ++ (above ++ [name])⟩) htidy'
  rw [hsplit]
  refine ⟨by simp, fun n hn => ?_, ?_, ?_⟩
  · rcases List.mem_append.1 hn with hn | hn
    · exact hproper n (List.mem_append_left _ hn)
    · rw [List.mem_singleton.1 hn]
      exact hname
  · rw [hnew, hof]
  · rw [hnew, Files.clean, hof]

/-- Proper names with slashes between them are a path below the working directory. -/
theorem below_dot {names : List Text} (hne : names ≠ []) (h : ∀ name ∈ names, Proper name) :
    Below Files.dot (Files.Path.joined names) names := by
  have hdot : ofText Files.dot = ⟨false, []⟩ := rfl
  have htext : ofText (Files.Path.joined names) = ⟨false, names⟩ := by
    have hhead : ((Files.Path.joined names).head? == some slash) = false := by
      simpa using Files.Path.head?_joined fun n hn => ⟨(h n hn).1, (h n hn).2.1⟩
    rw [ofText, hhead, Files.Path.joined, Text.splitAt_join hne fun n hn => (h n hn).2.1,
      Files.foldl_push_proper h]
    simp
  refine ⟨hne, h, by rw [htext, hdot]; rfl, ?_⟩
  rw [Files.clean, htext, Files.Path.toText]
  simp [hne]

/-- What is below the working directory is below any directory that is put in front. -/
theorem Below.join {dir rel : Text} {names : List Text} (hdir : dir ≠ [])
    (h : Below Files.dot rel names) : Below dir (Files.join dir rel) names := by
  have hne := h.1
  have hproper := h.2.1
  have hrel : rel = Files.Path.joined names := (h.eq_iff (below_dot hne hproper)).2 rfl
  have hempty : dir.isEmpty = false := by simpa using hdir
  refine ⟨hne, hproper, ?_, ?_⟩
  · rw [hrel, Files.ofText_join_joined hdir hne hproper]
  · rw [Files.join, hempty, if_neg (by simp), Files.clean_clean]

/-! ## Extensions -/

/-- The extension of scripts that settings can have: a point, then letters and digits. -/
theorem isEnding_cases {ext : Text} (h : Config.isEnding ext = true) :
    ∃ tail, ext = 0x2E :: tail ∧ tail ≠ [] ∧ ∀ b ∈ tail, Text.isAlphanumeric b = true := by
  unfold Config.isEnding at h
  split at h
  · rename_i r
    simp only [Bool.and_eq_true, Bool.not_eq_true', List.isEmpty_eq_false_iff, List.all_eq_true] at h
    exact ⟨r, rfl, h.1, h.2⟩
  · cases h

/-- Letters and digits are neither points nor slashes. -/
theorem not_mem_of_isAlphanumeric {tail : Text} (h : ∀ b ∈ tail, Text.isAlphanumeric b = true) :
    (0x2E : UInt8) ∉ tail ∧ slash ∉ tail := by
  constructor
  · intro hmem
    exact absurd (h _ hmem) (by decide)
  · intro hmem
    exact absurd (h _ hmem) (by decide)

/-- An ending that the settings accept can be part of a name. -/
theorem proper_of_isEnding {ext : Text} (h : Config.isEnding ext = true) : Proper ext := by
  obtain ⟨tail, rfl, hne, htail⟩ := isEnding_cases h
  obtain ⟨b, r, rfl⟩ := List.exists_cons_of_ne_nil hne
  obtain ⟨hpoint, hslash⟩ := not_mem_of_isAlphanumeric htail
  refine ⟨by simp, ?_, ?_, ?_⟩
  · intro hmem
    rcases List.mem_cons.1 hmem with heq | hmem
    · exact absurd heq (by decide)
    · exact hslash hmem
  · intro heq
    cases heq
  · intro heq
    cases heq
    exact hpoint List.mem_cons_self

/-- A front that is not hidden stays a proper name with an extension behind it, and without. -/
theorem proper_append {front ext : Text} (hne : front ≠ []) (hhead : front.head? ≠ some 0x2E)
    (hfront : slash ∉ front) (hext : slash ∉ ext) : Proper (front ++ ext) := by
  refine proper_of_head? (by simp [hne]) ?_ ?_
  · simp [hfront, hext]
  · rw [List.head?_append, Option.or_of_isSome (List.isSome_head?.2 hne)]
    exact hhead

/-- The last name of a document is an extension behind a front, and the front makes a proper name
with any extension. -/
theorem exists_front {s : Text} (h : isSource s = true) :
    ∃ front, (splitLast s).2 = front ++ Files.extension s ∧
      ∀ ext, slash ∉ ext → Proper (front ++ ext) := by
  obtain ⟨front, hfront, hne, hhead⟩ := splitLast_of_isSource h
  have hslash := Files.not_mem_splitLast s
  rw [hfront] at hslash
  refine ⟨front, hfront, fun ext hext => ?_⟩
  exact proper_append hne hhead (fun hmem => hslash (List.mem_append_left _ hmem)) hext

/-- The path of a document is its stem and its extension. -/
theorem stem_append_extension {s : Text} (h : isSource s = true) :
    Files.stem s ++ Files.extension s = s := by
  obtain ⟨front, hfront, -⟩ := exists_front h
  rw [stem_eq hfront, List.append_assoc, ← hfront, Files.splitLast_append]

/-! ## The scripts of documents below a root -/

section

variable {t : Target} {root s : Text} {names : List Text}

/-- The directory that scripts go to: that of the root when there is no other one. -/
def Target.directory (t : Target) (root : Text) : Text :=
  if t.outDir.isEmpty then root else t.outDir

/-- With the extension of scripts, a path keeps all its names but the last one. -/
theorem Below.renamed {above : List Text} {front : Text}
    (h : Below root s (above ++ [front ++ Files.extension s]))
    (hname : Proper (front ++ t.extension)) :
    Below root (t.renamed s) (above ++ [front ++ t.extension]) := by
  obtain ⟨above', hnames, hrename⟩ := h.rename
  obtain ⟨rfl, hlast⟩ := List.append_inj' hnames rfl
  have := hrename _ hname
  rwa [← List.append_assoc, ← stem_eq (List.singleton_inj.1 hlast).symm] at this

/-- The names of a document below the root, with the extension of scripts in place of its own, are a
path below the working directory. -/
theorem below_renamed_joined {above : List Text} {front : Text}
    (hfront : (splitLast s).2 = front ++ Files.extension s)
    (hnames : names = above ++ [front ++ Files.extension s]) (hproper : ∀ n ∈ names, Proper n)
    (hname : Proper (front ++ t.extension)) :
    Below Files.dot (t.renamed (Files.Path.joined names)) (above ++ [front ++ t.extension]) := by
  have hrel := below_dot (by simp [hnames]) hproper
  obtain ⟨above', hnames', -⟩ := hrel.rename
  obtain ⟨-, hlast⟩ := List.append_inj' (hnames.symm.trans hnames') rfl
  rw [List.singleton_inj, ← hfront] at hlast
  refine Below.renamed ?_ hname
  rw [← Files.extension_congr hlast, ← hnames]
  exact hrel

/-- A script has the names of its document, with another extension at the end. All that is proved
about where scripts go starts from this form. -/
theorem exists_path? (hext : Config.isEnding t.extension = true) (hs : isSource s = true)
    (h : Below root s names) :
    ∃ above front, names = above ++ [front ++ Files.extension s] ∧
      Below root (Files.stem s) (above ++ [front]) ∧
      ∃ output, t.path? root s = some output ∧
        Below (t.directory root) output (above ++ [front ++ t.extension]) := by
  obtain ⟨front, hfront, hproper⟩ := exists_front hs
  have hname : Proper (front ++ t.extension) := hproper _ (proper_of_isEnding hext).2.1
  obtain ⟨above, hnames, hrename⟩ := h.rename
  rw [hfront] at hnames
  refine ⟨above, front, hnames, ?_, ?_⟩
  · have := hrename (front ++ []) (hproper [] (by simp))
    rwa [List.append_nil, ← stem_eq hfront] at this
  · unfold Target.path? Target.directory
    split
    · exact ⟨_, rfl, (hnames ▸ h).renamed hname⟩
    · rename_i hout
      -- the document as seen from the root is renamed in the same way
      refine ⟨Files.join t.outDir (t.renamed (Files.Path.joined names)), ?_, ?_⟩
      · rw [Files.relative?_below h.1 h.2.2.1]
        rfl
      · exact (below_renamed_joined hfront hnames h.2.1 hname).join (by simpa using hout)

/-- The last name of a script ends in the extension of scripts, and what is in front of it is the
last name of the document without its extension. -/
theorem exists_splitLast_path? (hext : Config.isEnding t.extension = true) (hs : isSource s = true)
    (h : s = root ∨ ∃ names, Below root s names) :
    ∃ output front, t.path? root s = some output ∧ (splitLast output).2 = front ++ t.extension ∧
      Proper (front ++ t.extension) := by
  rcases h with rfl | ⟨names, h⟩
  · by_cases hout : t.outDir = []
    · obtain ⟨front, hfront, hproper⟩ := exists_front hs
      have hname : Proper (front ++ t.extension) := hproper _ (proper_of_isEnding hext).2.1
      refine ⟨t.renamed s, front, by simp [Target.path?, hout], ?_, hname⟩
      rw [Target.renamed, stem_eq hfront, List.append_assoc,
        Files.splitLast_lead (Files.isLead_splitLast s) hname.2.1]
    · -- a root that is a document itself is seen from there as a point, which is all extension
      have hpath : t.path? s s = some (Files.join t.outDir t.extension) := by
        have hrel : Files.relative? s s = some Files.dot := by simp [Files.relative?]
        have hstem : t.renamed Files.dot = t.extension := rfl
        simp [Target.path?, hout, hrel, hstem]
      obtain ⟨above, habove, -⟩ := (below_join hout (proper_of_isEnding hext)).rename
      rw [← List.nil_append [t.extension]] at habove
      obtain ⟨-, hlast⟩ := List.append_inj' habove rfl
      exact ⟨_, [], hpath, (List.singleton_inj.1 hlast).symm, proper_of_isEnding hext⟩
  · obtain ⟨above, front, -, -, output, hpath, hbelow⟩ := exists_path? hext hs h
    obtain ⟨above', habove, -⟩ := hbelow.rename
    obtain ⟨-, hlast⟩ := List.append_inj' habove rfl
    exact ⟨output, front, hpath, (List.singleton_inj.1 hlast).symm, hbelow.2.1 _ (by simp)⟩

end

/-! ## Documents that share a script -/

section

variable {d : Disk α} {root : Text} {sources : List Text} {t : Target}

/-- Every document has a script, and two documents share one exactly when they differ in the
extension only. -/
theorem path?_eq_iff_stem (h : discover d root = .ok sources)
    (hnamed : ∀ e, d.find root = .ok e → Named e) (hext : Config.isEnding t.extension = true) :
    (∀ s ∈ sources, ∃ output, t.path? root s = some output) ∧
      ∀ s ∈ sources, ∀ s' ∈ sources, s ≠ s' →
        (t.path? root s = t.path? root s' ↔
          Files.stem s = Files.stem s' ∧ Files.extension s ≠ Files.extension s') := by
  refine ⟨fun s hs => path?_isSome h hnamed hs t, fun s hs s' hs' hne => ?_⟩
  obtain ⟨hsource, hwhere⟩ := mem_discover h hnamed hs
  obtain ⟨hsource', hwhere'⟩ := mem_discover h hnamed hs'
  rcases hwhere with ⟨⟨c, hc⟩, rfl⟩ | ⟨⟨es, hes⟩, names, hbelow⟩
  · -- a file that is the root is the only document
    rcases hwhere' with ⟨-, rfl⟩ | ⟨⟨es, hes⟩, -⟩
    · exact absurd rfl hne
    · cases hc.symm.trans hes
  rcases hwhere' with ⟨⟨c, hc⟩, -⟩ | ⟨-, names', hbelow'⟩
  · cases hc.symm.trans hes
  obtain ⟨above, front, -, hstem, output, hpath, hout⟩ := exists_path? hext hsource hbelow
  obtain ⟨above', front', -, hstem', output', hpath', hout'⟩ := exists_path? hext hsource' hbelow'
  rw [hpath, hpath', Option.some_inj, hout.eq_iff hout', hstem.eq_iff hstem']
  constructor
  · intro heq
    obtain ⟨rfl, hfront⟩ := List.append_inj' heq rfl
    have hfront := List.append_cancel_right (List.singleton_inj.1 hfront)
    refine ⟨by rw [hfront], fun hsame => hne ?_⟩
    have hstems : Files.stem s = Files.stem s' := (hstem.eq_iff hstem').2 (by rw [hfront])
    rw [← stem_append_extension hsource, ← stem_append_extension hsource', hstems, hsame]
  · rintro ⟨heq, -⟩
    obtain ⟨rfl, hfront⟩ := List.append_inj' heq rfl
    rw [List.singleton_inj.1 hfront]

end

namespace Sample

/-- A disk with one document twice, under both extensions. -/
def twins : Disk Content where
  root := .directory [(Text.lit "a.md", .file .empty), (Text.lit "a.markdown", .file .empty)]

end Sample

/-- Two documents of one directory that differ in their endings alone get one and the same script.
-/
theorem path?_eq_of_twins :
    ∃ sources, discover Sample.twins Files.dot = .ok sources ∧
      Text.lit "a.md" ∈ sources ∧ Text.lit "a.markdown" ∈ sources ∧
      Target.path? ⟨Text.lit "out", Text.lit ".txt"⟩ Files.dot (Text.lit "a.md") =
        Target.path? ⟨Text.lit "out", Text.lit ".txt"⟩ Files.dot (Text.lit "a.markdown") := by
  have hnamed (e : Entry Content) (he : Sample.twins.find Files.dot = .ok e) : Named e := by
    cases he
    exact ⟨by decide, trivial, by decide, trivial, trivial⟩
  have hmem {s : Text} (hs : s ∈ [Text.lit "a.md", Text.lit "a.markdown"]) :
      s ∈ Text.sort [Text.lit "a.md", Text.lit "a.markdown"] := List.mem_mergeSort.2 hs
  refine ⟨_, rfl, hmem (by decide), hmem (by decide), ?_⟩
  apply ((path?_eq_iff_stem rfl hnamed (by decide)).2 _ (hmem (by decide)) _ (hmem (by decide))
    (by decide)).2
  decide

/-- Two documents that differ in the extension only, and their one script. -/
theorem path?_of_twins :
    ∃ sources, discover Sample.twins Files.dot = .ok sources ∧
      Text.lit "a.md" ∈ sources ∧ Text.lit "a.markdown" ∈ sources ∧
      Target.path? {} Files.dot (Text.lit "a.md") = some (Text.lit "a.rpy") ∧
      Target.path? {} Files.dot (Text.lit "a.markdown") = some (Text.lit "a.rpy") := by
  refine ⟨_, rfl, ?_, ?_, by decide, by decide⟩
  · exact List.mem_mergeSort.2 (by decide)
  · exact List.mem_mergeSort.2 (by decide)

/-! ## Scripts that are documents -/

/-- The last name of a document is proper. -/
theorem proper_of_isSource {s : Text} (h : isSource s = true) : Proper (splitLast s).2 := by
  obtain ⟨front, hfront, hproper⟩ := exists_front h
  have hslash := Files.not_mem_splitLast s
  rw [hfront] at hslash ⊢
  exact hproper _ fun hmem => hslash (List.mem_append_right _ hmem)

/-- Where proper last names differ, so do the places. -/
theorem splitLast_of_place {d : Disk α} {s s' : Text} (hs : Proper (splitLast s).2)
    (hs' : Proper (splitLast s').2) (h : d.place s = d.place s') :
    (splitLast s).2 = (splitLast s').2 := by
  unfold Disk.place at h
  rw [Files.placeOf_splitLast _ s, Files.placeOf_splitLast _ s', Files.enter_of_proper hs,
    Files.enter_of_proper hs'] at h
  obtain ⟨-, hlast⟩ := List.append_inj' h rfl
  exact List.singleton_inj.1 hlast

/-- A script that does not have the extension of a document is not where a document is. Both are at
places with a last name each, and these end differently. -/
theorem place_path?_ne {d : Disk α} {root : Text} {sources : List Text} {t : Target}
    (h : discover d root = .ok sources) (hnamed : ∀ e, d.find root = .ok e → Named e)
    (hext : Config.isEnding t.extension = true)
    (hother : documentExtensions.contains (Text.lower t.extension) = false) {s : Text}
    (hs : s ∈ sources) :
    ∃ output, t.path? root s = some output ∧ ∀ s' ∈ sources, d.place output ≠ d.place s' := by
  obtain ⟨hsource, hwhere⟩ := mem_discover h hnamed hs
  have hwhere : s = root ∨ ∃ names, Below root s names := hwhere.imp And.right And.right
  obtain ⟨output, front, hpath, hlast, hproper⟩ := exists_splitLast_path? hext hsource hwhere
  obtain ⟨tail, htail, -, halnum⟩ := isEnding_cases hext
  have hextension : Files.extension output = t.extension := by
    rw [htail] at hlast ⊢
    exact Files.extension_eq hlast (not_mem_of_isAlphanumeric halnum).1
  refine ⟨output, hpath, fun s' hs' hplace => ?_⟩
  obtain ⟨hsource', -⟩ := mem_discover h hnamed hs'
  have hsame := splitLast_of_place (hlast ▸ hproper) (proper_of_isSource hsource') hplace
  unfold isSource at hsource'
  rw [← Files.extension_congr hsame, hextension, hother] at hsource'
  cases hsource'

namespace Sample

/-- A disk with one document of a given extension. -/
def lone (ext : Text) : Disk Content where
  root := .directory [(Text.lit "a" ++ ext, .file .empty)]

end Sample

/-- A document whose extension is that of scripts is its own script. Such settings are accepted, so
the build writes over what it has read. -/
theorem path?_self {ext : Text} (hext : Config.isEnding ext = true)
    (hdoc : documentExtensions.contains (Text.lower ext) = true) :
    (∀ e, (Sample.lone ext).find Files.dot = .ok e → Named e) ∧
      ∃ sources s, discover (Sample.lone ext) Files.dot = .ok sources ∧ s ∈ sources ∧
        Target.path? ⟨[], ext⟩ Files.dot s = some s := by
  obtain ⟨tail, rfl, -, halnum⟩ := isEnding_cases hext
  have hproper : Proper (Text.lit "a" ++ 0x2E :: tail) :=
    proper_append (by decide) (by decide) (by decide) (proper_of_isEnding hext).2.1
  -- the path of the document is its name
  have hpath : Files.join Files.dot (Text.lit "a" ++ 0x2E :: tail) = Text.lit "a" ++ 0x2E :: tail := by
    have hname : Below Files.dot (Files.Path.joined [Text.lit "a" ++ 0x2E :: tail])
        [Text.lit "a" ++ 0x2E :: tail] := below_dot (by simp) (by simpa using hproper)
    have := ((below_join (by decide) hproper).eq_iff hname).2 rfl
    rwa [Files.Path.joined, Text.join, List.intercalate_singleton] at this
  have hlast : (splitLast (Text.lit "a" ++ 0x2E :: tail)).2 = Text.lit "a" ++ 0x2E :: tail := by
    have := Files.splitLast_lead (.inl rfl) hproper.2.1
    rw [List.nil_append] at this
    rw [this]
  -- and what it ends in is the extension, which has no point inside
  have hextension := Files.extension_eq hlast (not_mem_of_isAlphanumeric halnum).1
  have hsource : isSource (Text.lit "a" ++ 0x2E :: tail) = true := by
    have hbase := Files.base_eq (hlast ▸ hproper.1)
    unfold isSource
    rw [hextension, hdoc, hbase, hlast]
    rfl
  refine ⟨fun e he => ?_, _, Text.lit "a" ++ 0x2E :: tail, rfl, List.mem_mergeSort.2 ?_, ?_⟩
  · cases he
    exact ⟨hproper, trivial, trivial⟩
  · change _ ∈ documentsIn Files.dot [(Text.lit "a" ++ 0x2E :: tail, .file Content.empty)]
    simp [documentsIn, documentsAt, isSkipped, Entry.isDirectory, hpath, hsource]
  · have hstem := stem_append_extension hsource
    rw [hextension] at hstem
    simp [Target.path?, Target.renamed, Target.extension, hstem]

/-- Under accepted settings the scripts of every build are apart from its documents, wherever they
go, exactly when the extension of scripts is not one of documents. -/
theorem never_overwrites_iff {c : Config} (hc : c.validate = .ok ()) :
    documentExtensions.contains (Text.lower c.build.ext) = false ↔
      ∀ (d : Disk Content) (root outDir : Text) (sources : List Text),
        (∀ e, d.find root = .ok e → Named e) → discover d root = .ok sources → ∀ s ∈ sources,
          ∃ output, Target.path? ⟨outDir, c.build.ext⟩ root s = some output ∧ output ∉ sources ∧
            ∀ s' ∈ sources, d.place output ≠ d.place s' := by
  have hext : Config.isEnding c.build.ext = true := (Config.validate_eq_ok_iff.1 hc).1.ext
  constructor
  · intro hother d root outDir sources hnamed h s hs
    have huse : Target.extension ⟨outDir, c.build.ext⟩ = c.build.ext := by
      have := (proper_of_isEnding hext).1
      simp [Target.extension, this]
    obtain ⟨output, hpath, hplace⟩ := place_path?_ne (t := ⟨outDir, c.build.ext⟩) h hnamed
      (by rwa [huse]) (by rwa [huse]) hs
    exact ⟨output, hpath, fun hmem => hplace output hmem rfl, hplace⟩
  · intro hall
    cases hdoc : documentExtensions.contains (Text.lower c.build.ext) with
    | false => rfl
    | true =>
      obtain ⟨hnamed, sources, s, h, hs, hpath⟩ := path?_self hext hdoc
      obtain ⟨output, hpath', hmem, -⟩ := hall _ _ [] sources hnamed h s hs
      rw [hpath, Option.some_inj] at hpath'
      exact absurd (hpath' ▸ hs) hmem

/-- The usual settings keep documents. -/
theorem never_overwrites_of_usual :
    ({} : Config).validate = .ok () ∧
      ∃ sources, discover (Sample.lone (Text.lit ".md")) Files.dot = .ok sources ∧
        ∀ s ∈ sources, ∃ output, Target.path? ⟨[], ({} : Config).build.ext⟩ Files.dot s = some output ∧
          output ∉ sources := by
  have hc : ({} : Config).validate = .ok () := Config.validate_of_ext (by decide)
  have hnamed (e : Entry Content) (he : (Sample.lone (Text.lit ".md")).find Files.dot = .ok e) :
      Named e := by
    cases he
    exact ⟨by decide, trivial, trivial⟩
  refine ⟨hc, _, rfl, fun s hs => ?_⟩
  obtain ⟨output, hpath, hmem, -⟩ :=
    (never_overwrites_iff hc).1 (by decide) _ _ [] _ hnamed rfl s hs
  exact ⟨output, hpath, hmem⟩

/-- Accepted settings under which the script of a document is written over the document. -/
theorem path?_of_document_extension :
    ({ build := { ext := Text.lit ".md" } } : Config).validate = .ok () ∧
      ∃ sources, discover (Sample.lone (Text.lit ".md")) Files.dot = .ok sources ∧
        Text.lit "a.md" ∈ sources ∧
        Target.path? ⟨[], Text.lit ".md"⟩ Files.dot (Text.lit "a.md") = some (Text.lit "a.md") := by
  refine ⟨Config.validate_of_ext (by decide), _, rfl, List.mem_mergeSort.2 (by decide), by decide⟩

end NovelScript.Build
