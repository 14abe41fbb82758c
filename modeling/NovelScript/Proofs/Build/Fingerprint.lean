import NovelScript.Build.Builder
import NovelScript.Proofs.Script.Setting
import NovelScript.Proofs.Text.Order
import NovelScript.Proofs.Text.Quoted

/-!
# What the options record tells

The record that the fingerprint of options is made of tells everything that shows in a script. It can
be read line by line, because every value in it is a quoted literal (**`optionsRecord_inj`**), and
so options with the same record give the same script for every document
(**`scriptOf_congr`**).

The record says nothing else: it is the same for options whose casts have the same speaker for every
tag, and in whatever order the tags of a cast come, sorting them first leads to the same record
(**`optionsRecord_canonical`**).
-/

namespace NovelScript.Build

/-- A line of the record can be read off the front of the record, whatever bytes its value has,
because the value is quoted. -/
theorem settingLine_append_inj {name : String} {v v' x y : Text}
    (h : settingLine name v ++ x = settingLine name v' ++ y) : v = v' ∧ x = y := by
  simp only [settingLine, List.append_assoc, List.append_cancel_left_eq] at h
  obtain ⟨hv, hxy⟩ := Text.quoted_append_inj h
  exact ⟨hv, by simpa using hxy⟩

/-- The line of a speaker, too, can be read off the front of the record, and gives back its tag and
its name. The quotes around both are what makes it so. -/
theorem entryLine_append_inj {e e' : Text × Text} {x y : Text}
    (h : entryLine e ++ x = entryLine e' ++ y) : e = e' ∧ x = y := by
  simp only [entryLine, List.append_assoc, List.append_cancel_left_eq] at h
  obtain ⟨htag, h⟩ := Text.quoted_append_inj h
  rw [List.append_cancel_left_eq] at h
  obtain ⟨hspeaker, hxy⟩ := Text.quoted_append_inj h
  exact ⟨Prod.ext htag hspeaker, by simpa using hxy⟩

/-- The lines of the speakers, taken together, say which speakers there are and in which order. The
induction is on the cast, with one line taken off both sides at a time. -/
theorem flatMap_entryLine_inj {es es' : List (Text × Text)}
    (h : es.flatMap entryLine = es'.flatMap entryLine) : es = es' := by
  have hne (e : Text × Text) (x : Text) : entryLine e ++ x ≠ [] := by simp [entryLine]
  induction es generalizing es' with
  | nil =>
    cases es' with
    | nil => rfl
    | cons e' es' => exact absurd h.symm (hne e' _)
  | cons e es ih =>
    cases es' with
    | nil => exact absurd h (hne e _)
    | cons e' es' =>
      rw [List.flatMap_cons, List.flatMap_cons] at h
      obtain ⟨he, hrest⟩ := entryLine_append_inj h
      rw [he, ih hrest]

/-- Everything in the options that shows in a script can be read off the record. -/
theorem optionsRecord_inj {o o' : Options} (h : optionsRecord o = optionsRecord o') :
    o.delimiter = o'.delimiter ∧ o.marks = o'.marks ∧ o.cast.sorted = o'.cast.sorted := by
  simp only [optionsRecord, List.append_assoc] at h
  obtain ⟨hdelim, h⟩ := settingLine_append_inj h
  obtain ⟨hignore, h⟩ := settingLine_append_inj h
  obtain ⟨hcall, h⟩ := settingLine_append_inj h
  obtain ⟨hjump, h⟩ := settingLine_append_inj h
  refine ⟨hdelim, ?_, flatMap_entryLine_inj h⟩
  cases hm : o.marks
  cases hm' : o'.marks
  simp_all

/-- Two casts that are the same once sorted have the same entries, in some order. -/
theorem perm_of_sorted_eq {c c' : Cast} (h : c.sorted = c'.sorted) :
    c.entries.Perm c'.entries := by
  have hsorted (c : Cast) : c.sorted.Perm c.entries := List.mergeSort_perm c.entries _
  exact (hsorted c).symm.trans (h ▸ hsorted c')

/-- Options with the same record give the same scripts. -/
theorem scriptOf_congr {o o' : Options} (h : optionsRecord o = optionsRecord o') :
    scriptOf o = scriptOf o' := by
  obtain ⟨hdelim, hmarks, hcast⟩ := optionsRecord_inj h
  have halike : (Script.Setting.of o Script.labelName).Alike
      (Script.Setting.of o' Script.labelName) :=
    ⟨hmarks, hdelim, Script.Speakers.resolve_ofCast (perm_of_sorted_eq hcast), rfl⟩
  funext source
  rw [scriptOf, scriptOf, Script.ofTokens_congr halike]

/-! ## The order of the cast -/

/-- Casts with the same speakers have the same tags, perhaps in another order. -/
theorem perm_tags {c c' : Cast} (h : ∀ tag, c.speaker? tag = c'.speaker? tag) :
    c.tags.Perm c'.tags := by
  apply (List.perm_ext_iff_of_nodup c.nodup c'.nodup).mpr
  intro tag
  have hmem : tag ∈ c.tags ↔ tag ∈ c'.tags := by rw [Cast.mem_tags_iff, Cast.mem_tags_iff, h tag]
  exact hmem

/-- Sorting a cast sorts its tags, so that the record can be written from the tags alone. -/
theorem map_fst_sorted (c : Cast) : c.sorted.map Prod.fst = Text.sort c.tags := by
  have hperm : (c.sorted.map Prod.fst).Perm c.tags := (List.mergeSort_perm c.entries _).map Prod.fst
  apply Text.eq_sort_of_perm hperm
  rw [List.pairwise_map]
  apply List.pairwise_mergeSort
  · intro a b d
    exact Text.le_trans
  · intro a b
    exact Text.le_total a.1 b.1

/-- The record when the tags of the cast come in some order: they are sorted, and the speaker of each
is looked up. -/
def recordInOrder (o : Options) (tags : List Text) : Text :=
  settingLine "delim" o.delimiter ++ settingLine "ignore" o.marks.ignore ++
    settingLine "call" o.marks.call ++ settingLine "jump" o.marks.jump ++
    (Text.sort tags).flatMap fun tag => entryLine (tag, (o.cast.speaker? tag).getD [])

/-- Looking up the tags in order gives the entries in order. -/
theorem flatMap_sort_tags (c : Cast) :
    ((Text.sort c.tags).flatMap fun tag => entryLine (tag, (c.speaker? tag).getD [])) =
      c.sorted.flatMap entryLine := by
  rw [← map_fst_sorted, List.flatMap_map, List.flatMap_def, List.flatMap_def]
  apply congrArg List.flatten
  apply List.map_congr_left
  intro e he
  have hmem : (e.1, e.2) ∈ c.entries := List.mem_mergeSort.mp he
  rw [Cast.speaker?_eq_some_iff.mpr hmem, Option.getD_some]

/-- **The order in which the tags are visited does not show in the record.** The map of speakers has
no order of its own, so this is what makes the record a function of the options. -/
theorem recordInOrder_eq (o : Options) {tags : List Text} (h : tags.Perm o.cast.tags) :
    recordInOrder o tags = optionsRecord o := by
  unfold recordInOrder optionsRecord
  rw [Text.sort_eq_of_perm h, flatMap_sort_tags]

/-- Options with the same settings and the same names behind the same tags have the same record,
however their casts were put together. -/
theorem optionsRecord_congr {o o' : Options} (hdelim : o.delimiter = o'.delimiter)
    (hmarks : o.marks = o'.marks) (hcast : ∀ tag, o.cast.speaker? tag = o'.cast.speaker? tag) :
    optionsRecord o = optionsRecord o' := by
  have hsame : recordInOrder o o'.cast.tags = recordInOrder o' o'.cast.tags := by
    unfold recordInOrder
    simp only [hdelim, hmarks, hcast]
  calc optionsRecord o
      = recordInOrder o o'.cast.tags := (recordInOrder_eq o (perm_tags hcast).symm).symm
    _ = recordInOrder o' o'.cast.tags := hsame
    _ = optionsRecord o' := recordInOrder_eq o' (List.Perm.refl _)

/-- Casts that are the same once sorted give each tag the same name. -/
theorem speaker?_of_sorted_eq {c c' : Cast} (h : c.sorted = c'.sorted) (tag : Text) :
    c.speaker? tag = c'.speaker? tag := by
  apply Option.ext
  intro speaker
  rw [Cast.speaker?_eq_some_iff, Cast.speaker?_eq_some_iff]
  exact (perm_of_sorted_eq h).mem_iff

/-- **The record tells options apart and nothing else.** For any bytes in the settings, two options
have the same record exactly when the delimiter and the three marks are the same and each tag has the
same speaker in both casts, where no cast counts as an empty one; and in whatever order the tags of
the cast come, the same record is written. -/
theorem optionsRecord_canonical :
    (∀ o o' : Options, optionsRecord o = optionsRecord o' ↔
      o.delimiter = o'.delimiter ∧ o.marks.ignore = o'.marks.ignore ∧
        o.marks.call = o'.marks.call ∧ o.marks.jump = o'.marks.jump ∧
        ∀ tag, o.cast.speaker? tag = o'.cast.speaker? tag) ∧
      ∀ (o : Options) (tags : List Text), tags.Perm o.cast.tags →
        recordInOrder o tags = optionsRecord o := by
  refine ⟨?_, fun o tags => recordInOrder_eq o⟩
  intro o o'
  constructor
  · intro h
    obtain ⟨hdelim, hmarks, hcast⟩ := optionsRecord_inj h
    rw [hmarks]
    exact ⟨hdelim, rfl, rfl, rfl, speaker?_of_sorted_eq hcast⟩
  · rintro ⟨hdelim, hignore, hcall, hjump, hcast⟩
    have hmarks : o.marks = o'.marks := by
      cases hm : o.marks
      cases hm' : o'.marks
      simp_all
    exact optionsRecord_congr hdelim hmarks hcast

/-- A cast with a line break and a quote in its tags, in the order in which it was not given. -/
theorem optionsRecord_canonical_of_pair :
    recordInOrder
        { Options.default with
          characters := some (Cast.ofList [(Text.lit "b\"=\n", [0xFF]), (Text.lit "a", [])]) }
        [Text.lit "a", Text.lit "b\"=\n"] =
      optionsRecord
        { Options.default with
          characters := some (Cast.ofList [(Text.lit "b\"=\n", [0xFF]), (Text.lit "a", [])]) } := by
  apply optionsRecord_canonical.2
  exact List.Perm.swap _ _ []

end NovelScript.Build
