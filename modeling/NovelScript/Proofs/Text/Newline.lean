import NovelScript.Proofs.Script.Label
import NovelScript.Proofs.Text.Space
import NovelScript.Proofs.Text.Split
import NovelScript.Script.Literal

/-!
# Where line breaks can be

A line of a script is a line as long as no byte in it ends one. Trimming and cutting take bytes away
and bring none (`trim_sublist`, `replaceFirst_sublist`), words have no white space in them
(`newline_not_mem_collapse`), a literal escapes its line breaks (`newline_not_mem_literal`), and the
name of a label has only letters, digits, underscores and points (`newline_not_mem_labelName`).
-/

namespace NovelScript.Text

/-! ## Cutting -/

/-- To take something out leaves a part of the text. -/
theorem replaceFirst_sublist (old s : Text) : (replaceFirst old [] s).Sublist s := by
  unfold replaceFirst
  cases hcut : cut old s with
  | none => exact List.Sublist.refl s
  | some parts =>
    obtain ⟨x, y⟩ := parts
    have hs := cut_eq_some hcut
    simp [hs]

/-! ## Words -/

/-- A line break is white space. -/
theorem ne_newline_of_spaceWidth {b : UInt8} {r : Text} (h : spaceWidth (b :: r) = 0) :
    b ≠ newline := by
  intro hb
  have hspace : [newline] ∈ spaces := by decide
  apply spaceWidth_eq_zero_iff.mp h [newline] hspace
  simp [hb]

/-- There is no line break in a word, because a line break is white space and ends it. -/
theorem newline_not_mem_wordsFrom {word : Text} (hword : newline ∉ word) (skip : Nat) (s : Text) :
    ∀ w ∈ wordsFrom word skip s, newline ∉ w := by
  fun_induction wordsFrom word skip s with
  | case1 word hempty => simp
  | case2 word hempty => simpa using hword
  | case3 word skip b r ih => exact ih hword
  | case4 word b r hwidth ih =>
    apply ih
    have hb := ne_newline_of_spaceWidth hwidth
    simp [hword, Ne.symm hb]
  | case5 word b r w hwidth hempty ih => exact ih (by simp)
  | case6 word b r w hwidth hempty ih =>
    intro v hv
    rcases List.mem_cons.mp hv with rfl | hv
    · simpa using hword
    · exact ih (by simp) v hv

/-- What is neither in the separator nor in the pieces is not in the text that is put together from
them. -/
theorem not_mem_join {b : UInt8} {sep : Text} (hsep : b ∉ sep) {pieces : List Text}
    (h : ∀ p ∈ pieces, b ∉ p) : b ∉ join sep pieces := by
  induction pieces with
  | nil => simp [join]
  | cons p more ih =>
    cases more with
    | nil => simpa [join] using h p
    | cons q more =>
      have hp : b ∉ p := h p List.mem_cons_self
      have hmore := ih fun r hr => h r (List.mem_cons_of_mem p hr)
      rw [join_cons_cons]
      simp only [List.mem_append]
      rintro ((hb | hb) | hb)
      · exact hp hb
      · exact hsep hb
      · exact hmore hb

/-- There is no line break in words with blanks between them. -/
theorem newline_not_mem_collapse (s : Text) : newline ∉ collapse s :=
  not_mem_join (by decide) (newline_not_mem_wordsFrom (by simp) 0 s)

end NovelScript.Text

namespace NovelScript.Script

open Text (newline)

/-! ## Literals and labels -/

/-- An escaped byte has no line break. -/
theorem newline_not_mem_escapeByte (b : UInt8) : newline ∉ escapeByte b := by
  by_cases hslash : b = 0x5C
  · simp [escapeByte, hslash, newline]
  · by_cases hquote : b = 0x22
    · simp [escapeByte, hquote, newline]
    · by_cases hbreak : b = newline
      · simp [escapeByte, hbreak, newline]
      · simpa [escapeByte, hslash, hquote, hbreak] using Ne.symm hbreak

/-- A literal has no line break. -/
theorem newline_not_mem_literal (s : Text) : newline ∉ literal s := by
  have hquote : newline ≠ 0x22 := by decide
  simp [literal, hquote, newline_not_mem_escapeByte]

/-- The name of a label has no line break. -/
theorem newline_not_mem_labelName (heading : Text) : newline ∉ labelName heading :=
  newline_not_mem_of_isName (Normalization.apart.isName_name heading)

end NovelScript.Script
