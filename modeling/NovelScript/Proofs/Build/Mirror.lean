import NovelScript.Proofs.Build.Crew
import NovelScript.Proofs.Build.Walk

/-!
# Scripts mirror documents

A document is given by its names below a root. However the root is spelled, the document is seen from
there by exactly these names, and its script has the same names below the directory for scripts, with
another extension at the end.

* **`below_join_of_names`**: names behind a root, in any spelling, are below it.
* **`path?_mirrors`**: where a script goes, that it never leaves the directory for scripts, and that
  documents with one extension never share a script.
-/

namespace NovelScript.Build

open Files (Proper slash splitLast)
open Files.Path (ofText)

/-! ## Names behind a root -/

/-- Names that a system can have are below any root that they are put behind, however the root
itself is spelled. -/
theorem below_join_of_names {rel : Text} (root : Text)
    (hrel : ∀ name ∈ Text.splitAt slash rel, Proper name) :
    Below root (Files.join root rel) (Text.splitAt slash rel) ∧
      Below Files.dot rel (Text.splitAt slash rel) := by
  have hdot : Below Files.dot rel (Text.splitAt slash rel) := by
    have := below_dot (Text.splitAt_ne_nil slash rel) hrel
    rwa [Files.Path.joined, Text.join_splitAt] at this
  refine ⟨?_, hdot⟩
  by_cases hroot : root = []
  · -- no root at all stands for the working directory
    subst hroot
    have hne : rel.isEmpty = false := by
      have : rel ≠ [] := hdot.2.2.2 ▸ Files.clean_ne_nil rel
      simpa using this
    rw [Files.join, hne, if_pos (by rfl), if_neg (by simp), hdot.2.2.2]
    exact hdot
  · exact hdot.join hroot

/-- Paths in one directory below a root. -/
theorem Below.directory_eq {root path path' name name' : Text} {above : List Text}
    (h : Below root path (above ++ [name])) (h' : Below root path' (above ++ [name'])) :
    Files.directory path = Files.directory path' := by
  have hclean (p : Text) : Files.directory p = (ofText (Files.directory p)).toText := by
    rw [Files.directory, Files.ofText_clean]
    rfl
  rw [hclean path, hclean path', h.ofText_directory, h'.ofText_directory]

/-- Whether a path is that of a document depends on its last name alone. -/
theorem isSource_congr {s s' : Text} (h : (splitLast s).2 = (splitLast s').2)
    (hne : (splitLast s).2 ≠ []) : isSource s = isSource s' := by
  rw [isSource, isSource, Files.extension_congr h, Files.base_eq hne, Files.base_eq (h ▸ hne), h]

/-- Whether a path names a document can be seen from its last name. -/
theorem isSource_base {s : Text} (hne : (splitLast s).2 ≠ []) :
    isSource (Files.base s) = isSource s := by
  have hself : splitLast ([] ++ (splitLast s).2) = ([], (splitLast s).2) :=
    Files.splitLast_lead (.inl rfl) (Files.not_mem_splitLast s)
  rw [List.nil_append] at hself
  rw [Files.base_eq hne]
  exact isSource_congr (by rw [hself]) (by rwa [hself])

/-- A document that is built is told by its path, by its path from the root and by its script. The
three are read off the one place in the program that makes results. -/
theorem Job.of_buildOne {j : Job} {cancelled : Bool} {s s' : Site} {r : Result}
    (h : j.builder.buildOne j.instant cancelled j.root j.source s = .ok r s') :
    r.source = j.source ∧ r.rel = j.rel ∧
      j.builder.target.path? j.root j.source = some r.output := by
  rw [j.buildOne_eq] at h
  split at h
  · cases h
  · cases hp : j.builder.target.path? j.root j.source with
    | none =>
      rw [hp] at h
      cases h
    | some output =>
      rw [hp] at h
      obtain ⟨text, s₁, -, h⟩ := Files.bind_eq_ok.1 h
      obtain ⟨x, s₂, -, h⟩ := Files.bind_eq_ok.1 h
      obtain ⟨written, s₃, -, h⟩ := Files.bind_eq_ok.1 h
      cases h
      exact ⟨rfl, rfl, rfl⟩

section

variable {rel : Text} (root : Text) (hrel : ∀ name ∈ Text.splitAt slash rel, Proper name)

include hrel

/-- A path that was joined to a root is seen from it as what was joined. It is the only fact about
seeing paths from a root that the mirror needs. -/
theorem relative?_join : Files.relative? root (Files.join root rel) = some rel := by
  have hbelow := (below_join_of_names root hrel).1
  rw [Files.relative?_below hbelow.1 hbelow.2.2.1, Files.Path.joined, Text.join_splitAt]

/-- Behind a root the last name stays, and so does what it says: the extension, and whether this is
the path of a document. -/
theorem isSource_join : Files.extension (Files.join root rel) = Files.extension rel ∧
    isSource (Files.base rel) = isSource rel ∧ isSource rel = isSource (Files.join root rel) := by
  obtain ⟨hbelow, hdot⟩ := below_join_of_names root hrel
  obtain ⟨above, hnames, -⟩ := hbelow.rename
  obtain ⟨above', hnames', -⟩ := hdot.rename
  have hlast := List.singleton_inj.1 (List.append_inj' (hnames.symm.trans hnames') rfl).2
  have hne : (splitLast rel).2 ≠ [] := (hdot.2.1 _ (by rw [hnames']; simp)).1
  exact ⟨Files.extension_congr hlast, isSource_base hne, (isSource_congr hlast (hlast ▸ hne)).symm⟩

end

/-! ## Scripts -/

/-- What an extension of scripts has to look like. Settings may leave it out, and then there is a
usual one. -/
def Names (t : Target) (ext : Text) : Prop :=
  t.ext = [] ∧ ext = Text.lit ".rpy" ∨ Config.isEnding t.ext = true ∧ ext = t.ext

/-- The extension that is used is the one that settings name. -/
theorem Names.extension_eq {t : Target} {ext : Text} (h : Names t ext) : t.extension = ext := by
  rcases h with ⟨hnone, rfl⟩ | ⟨hending, rfl⟩
  · rw [Target.extension, hnone]
    rfl
  · have hne : t.ext.isEmpty = false := by
      cases hext : t.ext with
      | nil =>
        rw [hext] at hending
        exact absurd hending (by decide)
      | cons b more => rfl
    rw [Target.extension, hne]
    rfl

/-- The ending of scripts, whether it is the usual one or was set, is one that the settings accept.
-/
theorem Names.isEnding {t : Target} {ext : Text} (h : Names t ext) : Config.isEnding ext = true := by
  rcases h with ⟨-, rfl⟩ | ⟨hending, rfl⟩
  · decide
  · exact hending

/-- A document is a text in front of its extension, which is one of two, in any case. -/
theorem exists_ending {s : Text} (h : isSource s = true) :
    s = Files.stem s ++ Files.extension s ∧
      Text.lower (Files.extension s) ∈ [Text.lit ".md", Text.lit ".markdown"] := by
  refine ⟨(stem_append_extension h).symm, ?_⟩
  rw [isSource, Bool.and_eq_true] at h
  exact List.contains_iff_mem.1 h.1

/-- **Scripts mirror documents.** A document has ordinary names below a root, which may be spelled
in any way; at their end stands one of the two extensions of documents. It is seen from the root by
these names, and so it is told when it is built. Its script has the same names but for the extension,
which is the one that settings name, or the usual one. With a directory for scripts, the script is
there, below no other directory; otherwise it is in the directory of the document. Documents with one
extension do not share a script. -/
theorem path?_mirrors {t : Target} {ext : Text} (hext : Names t ext) (root : Text)
    {rel : Text} (hrel : ∀ name ∈ Text.splitAt slash rel, Proper name)
    (hsource : isSource (Files.base rel) = true) :
    Files.clean rel = rel ∧ Files.relative? root (Files.join root rel) = some rel ∧
      ∃ front ending, rel = front ++ ending ∧ ending = Files.extension rel ∧
        Text.lower ending ∈ [Text.lit ".md", Text.lit ".markdown"] ∧
      ∃ output, t.path? root (Files.join root rel) = some output ∧
        (t.outDir ≠ [] → output = Files.join t.outDir (front ++ ext) ∧
          Files.relative? t.outDir output = some (front ++ ext) ∧
          ∃ names, Below t.outDir output names) ∧
        (t.outDir = [] → Files.directory output = Files.directory (Files.join root rel) ∧
          ∃ lead, Files.join root rel = lead ++ ending ∧ output = lead ++ ext) ∧
        (∀ rel', (∀ name ∈ Text.splitAt slash rel', Proper name) →
          isSource (Files.base rel') = true → Files.extension rel' = ending →
          t.path? root (Files.join root rel') = some output → rel' = rel) ∧
        ∀ (b : Builder) (i : Instant) (cancelled : Bool) (s s' : Site) (r : Result),
          b.target = t → b.buildOne i cancelled root (Files.join root rel) s = .ok r s' →
            r.source = Files.join root rel ∧ r.rel = rel ∧ r.output = output := by
  obtain rfl := hext.extension_eq
  have hending := hext.isEnding
  -- the document seen as names, and its last name taken apart
  obtain ⟨hbelow, hdot⟩ := below_join_of_names root hrel
  obtain ⟨hlast, hself, hdocument⟩ := isSource_join root hrel
  rw [hself] at hsource
  obtain ⟨hrelEq, hextension⟩ := exists_ending hsource
  rw [hdocument] at hsource
  obtain ⟨above, front, hnames, -, output, hpath, hout⟩ := exists_path? hending hsource hbelow
  have hsee := relative?_join root hrel
  refine ⟨hdot.2.2.2, hsee, _, _, hrelEq, rfl, hextension, output, hpath, fun houtDir => ?_,
    fun houtDir => ⟨?_, ?_⟩, ?_, ?_⟩
  · have hjoin : output = Files.join t.outDir (Files.stem rel ++ t.extension) := by
      rw [Target.path?, if_neg (by simpa using houtDir), hsee] at hpath
      exact (Option.some_inj.1 hpath).symm
    rw [Target.directory, if_neg (by simpa using houtDir)] at hout
    -- seen from the directory for scripts, the script is the document renamed
    have hrenamed : Files.stem rel ++ t.extension =
        Files.Path.joined (above ++ [front ++ t.extension]) := by
      have hname := hout.2.1 (front ++ t.extension) (by simp)
      rw [hnames, hlast] at hdot
      exact ((hdot.renamed hname).eq_iff (below_dot hout.1 hout.2.1)).2 rfl
    exact ⟨hjoin, by rw [hrenamed, Files.relative?_below hout.1 hout.2.2.1], _, hout⟩
  · rw [Target.directory, if_pos (by simpa using houtDir)] at hout
    exact hout.directory_eq (hnames ▸ hbelow)
  · rw [Target.path?, if_pos (by simpa using houtDir)] at hpath
    refine ⟨Files.stem (Files.join root rel), ?_, (Option.some_inj.1 hpath).symm⟩
    rw [← hlast]
    exact (exists_ending hsource).1
  -- the same script has the same names, so the documents differ in nothing
  · intro rel' hrel' hsource' hsame hpath'
    obtain ⟨hbelow', hdot'⟩ := below_join_of_names root hrel'
    obtain ⟨hlast', hself', hdocument'⟩ := isSource_join root hrel'
    rw [hself', hdocument'] at hsource'
    obtain ⟨above', front', hnames', -, output', hpath₂, hout'⟩ :=
      exists_path? hending hsource' hbelow'
    obtain rfl : output = output' := Option.some_inj.1 (hpath'.symm.trans hpath₂)
    obtain ⟨rfl, hfront⟩ := List.append_inj' ((hout.eq_iff hout').1 rfl) rfl
    have hfront := List.append_cancel_right (List.singleton_inj.1 hfront)
    rw [hlast', hsame, ← hfront, ← hlast, ← hnames] at hnames'
    exact (hdot'.eq_iff hdot).2 hnames'
  · intro b i cancelled s s' r htarget hbuild
    obtain ⟨hs, hr, ho⟩ := Job.of_buildOne (j := ⟨b, i, root, Files.join root rel⟩) hbuild
    rw [Job.rel, hsee] at hr
    rw [htarget, hpath] at ho
    exact ⟨hs, hr, (Option.some_inj.1 ho).symm⟩

/-- A root that goes up and a directory for scripts that starts at the top, neither of them in its
shortest spelling; the script of a document with two points in its name, with the usual extension and
with one that settings name. Beside its document a script has the extension of the settings too. -/
theorem path?_of_crooked_root :
    Files.relative? (Text.lit "../a/.//b/..") (Text.lit "../a/x.y/z.b.Md") =
        some (Text.lit "x.y/z.b.Md") ∧
      Target.path? ⟨Text.lit "/out/./", []⟩ (Text.lit "../a/.//b/..") (Text.lit "../a/x.y/z.b.Md") =
        some (Text.lit "/out/x.y/z.b.rpy") ∧
      (∃ names, Below (Text.lit "/out/./") (Text.lit "/out/x.y/z.b.rpy") names) ∧
      Target.path? ⟨Text.lit "/out/./", Text.lit ".txt"⟩ (Text.lit "../a/.//b/..")
        (Text.lit "../a/x.y/z.b.Md") = some (Text.lit "/out/x.y/z.b.txt") ∧
      Target.path? ⟨[], Text.lit ".txt"⟩ (Text.lit "../a/.//b/..") (Text.lit "../a/x.y/z.b.Md") =
        some (Text.lit "../a/x.y/z.b.txt") := by
  have hjoin : Files.join (Text.lit "../a/.//b/..") (Text.lit "x.y/z.b.Md") =
      Text.lit "../a/x.y/z.b.Md" := by decide
  have hnames : ∀ name ∈ Text.splitAt slash (Text.lit "x.y/z.b.Md"), Proper name := by decide
  have hsource : isSource (Files.base (Text.lit "x.y/z.b.Md")) = true := by decide
  have hstem {front ending : Text} (h : Text.lit "x.y/z.b.Md" = front ++ ending)
      (hending : ending = Files.extension (Text.lit "x.y/z.b.Md")) : front = Text.lit "x.y/z.b" := by
    have hlast : ending = Text.lit ".Md" := hending.trans (by decide)
    have hsplit : Text.lit "x.y/z.b.Md" = Text.lit "x.y/z.b" ++ Text.lit ".Md" := by decide
    rw [hlast, hsplit] at h
    exact (List.append_cancel_right h).symm
  obtain ⟨-, hrel, front, ending, hfront, hending, -, output, hpath, hout, -⟩ :=
    path?_mirrors (t := ⟨Text.lit "/out/./", []⟩) (.inl ⟨rfl, rfl⟩) (Text.lit "../a/.//b/..") hnames
      hsource
  obtain ⟨houtput, -, names, hbelow⟩ := hout (by decide)
  obtain ⟨-, -, front', ending', hfront', hending', -, output', hpath', hout', -⟩ :=
    path?_mirrors (t := ⟨Text.lit "/out/./", Text.lit ".txt"⟩) (.inr ⟨by decide, rfl⟩)
      (Text.lit "../a/.//b/..") hnames hsource
  obtain ⟨houtput', -⟩ := hout' (by decide)
  obtain ⟨-, -, -, ending'', -, hending'', -, output'', hpath'', -, hout'', -⟩ :=
    path?_mirrors (t := ⟨[], Text.lit ".txt"⟩) (.inr ⟨by decide, rfl⟩) (Text.lit "../a/.//b/..")
      hnames hsource
  obtain ⟨-, lead, hlead, houtput''⟩ := hout'' rfl
  rw [hstem hfront hending] at houtput
  rw [hstem hfront' hending'] at houtput'
  have hscript : output = Text.lit "/out/x.y/z.b.rpy" := houtput.trans (by decide)
  have hscript' : output' = Text.lit "/out/x.y/z.b.txt" := houtput'.trans (by decide)
  have hscript'' : output'' = Text.lit "../a/x.y/z.b.txt" := by
    have hlast : ending'' = Text.lit ".Md" := hending''.trans (by decide)
    have hsplit : Text.lit "../a/x.y/z.b.Md" = Text.lit "../a/x.y/z.b" ++ Text.lit ".Md" := by decide
    rw [hjoin, hlast, hsplit] at hlead
    rw [houtput'', ← List.append_cancel_right hlead]
    decide
  rw [hjoin] at hrel hpath hpath' hpath''
  rw [hscript] at hpath hbelow
  rw [hscript'] at hpath'
  rw [hscript''] at hpath''
  exact ⟨hrel, hpath, ⟨names, hbelow⟩, hpath', hpath''⟩

end NovelScript.Build
