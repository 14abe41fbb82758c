import NovelScript.Proofs.Text.Space
import NovelScript.Proofs.Text.Split
import NovelScript.Script.Comment

/-!
# Statement and comment

`Spelled c m` holds of the lines that have the statement `c` and the comment `m`: white space may
stand around either of them, and a hash sign stands between them, unless there is no comment.
Splitting a line finds its parts, and no others: they are the one pair without white space around
them, and without a hash sign in the statement, that the line is spelled with
(**`splitComment_eq_iff`**). White space around a line has no say in this (`splitComment_trim`).

A statement with its comment behind it, as it is written to the script, is one of its spellings
(`spelled_append_commentSuffix`).

* **`splitting_inverts_writing`**: so a line that was split and written can be split again, with
  the same statement and the same comment.
-/

namespace NovelScript.Script

open Text (hash blank White Trimmed)

/-! ## The two sides of the first hash sign -/

/-- No white space has a hash in it. -/
theorem hash_not_mem_space : ∀ w ∈ Text.spaces, hash ∉ w := by decide

/-- A line without a hash has no comment. -/
theorem splitComment_of_not_mem {s : Text} (h : hash ∉ s) : splitComment s = (Text.trim s, []) := by
  rw [splitComment, Text.cut_of_not_mem h]

/-- The comment of a line stands behind its first hash. -/
theorem splitComment_append_cons {a : Text} (ha : hash ∉ a) (b : Text) :
    splitComment (a ++ hash :: b) = (Text.trim a, Text.trim b) := by
  rw [splitComment, Text.cut_append_cons ha]

/-- Both parts are there in the line. -/
theorem splitComment_sublist (s : Text) :
    (splitComment s).1.Sublist s ∧ (splitComment s).2.Sublist s := by
  by_cases h : hash ∈ s
  · obtain ⟨a, b, rfl, ha⟩ := List.eq_append_cons_of_mem h
    rw [splitComment_append_cons ha]
    constructor
    · exact (Text.trim_sublist a).trans (List.sublist_append_left a (hash :: b))
    · exact (Text.trim_sublist b).trans (by simp)
  · rw [splitComment_of_not_mem h]
    exact ⟨Text.trim_sublist s, List.nil_sublist s⟩

/-- A statement ends before the first hash sign. -/
theorem hash_not_mem_splitComment (s : Text) : hash ∉ (splitComment s).1 := by
  by_cases h : hash ∈ s
  · obtain ⟨a, b, rfl, ha⟩ := List.eq_append_cons_of_mem h
    rw [splitComment_append_cons ha]
    intro hmem
    exact ha ((Text.trim_sublist a).subset hmem)
  · intro hmem
    exact h ((splitComment_sublist s).1.subset hmem)

/-! ## Spelling -/

/-- The lines with the statement `c` and a comment: white space around the statement, and, unless
there is no comment, a hash sign and white space around the comment. -/
inductive Spelled (c : Text) : (m s : Text) → Prop
  | bare {w₁ w₂ : Text} (h₁ : White w₁) (h₂ : White w₂) : Spelled c [] (w₁ ++ c ++ w₂)
  | noted {m w₁ w₂ w₃ w₄ : Text} (h₁ : White w₁) (h₂ : White w₂) (h₃ : White w₃) (h₄ : White w₄) :
      Spelled c m (w₁ ++ c ++ w₂ ++ hash :: (w₃ ++ m ++ w₄))

namespace Spelled

variable {c m s : Text}

/-- A line with more white space around it is spelled the same. -/
theorem around (hs : Spelled c m s) {w w' : Text} (hw : White w) (hw' : White w') :
    Spelled c m (w ++ s ++ w') := by
  cases hs with
  | bare h₁ h₂ => simpa using bare (c := c) (hw.append h₁) (h₂.append hw')
  | noted h₁ h₂ h₃ h₄ => simpa using noted (c := c) (m := m) (hw.append h₁) h₂ h₃ (h₄.append hw')

/-- White space around the front of a line does not bring a hash into it. -/
theorem hash_not_mem_front (hc : hash ∉ c) {w₁ w₂ : Text} (h₁ : White w₁) (h₂ : White w₂) :
    hash ∉ w₁ ++ c ++ w₂ := by
  simp [hc, h₁.not_mem hash_not_mem_space, h₂.not_mem hash_not_mem_space]

/-- All hash signs behind the first one are in the comment. -/
theorem count_hash_noted (hc : hash ∉ c) {w₁ w₂ w₃ w₄ : Text} (h₁ : White w₁) (h₂ : White w₂)
    (h₃ : White w₃) (h₄ : White w₄) :
    (w₁ ++ c ++ w₂ ++ hash :: (w₃ ++ m ++ w₄)).count hash = m.count hash + 1 := by
  have hfront := List.count_eq_zero.mpr (hash_not_mem_front hc h₁ h₂)
  have hbefore := List.count_eq_zero.mpr (h₃.not_mem hash_not_mem_space)
  have hbehind := List.count_eq_zero.mpr (h₄.not_mem hash_not_mem_space)
  rw [List.count_append, hfront, List.count_cons_self, List.count_append, List.count_append, hbefore,
    hbehind, Nat.zero_add, Nat.zero_add, Nat.add_zero]

end Spelled

/-- **The parts of a line are the pair that it is spelled with.** Whoever puts together a front
without a hash, a hash and a comment, with white space anywhere around them, gets a line of which
these are the parts, and there are no other lines with these parts. -/
theorem splitComment_eq_iff {s c m : Text} :
    splitComment s = (c, m) ↔ hash ∉ c ∧ Trimmed c ∧ Trimmed m ∧ Spelled c m s := by
  constructor
  · intro h
    have hc : hash ∉ (splitComment s).1 := hash_not_mem_splitComment s
    rw [h] at hc
    by_cases hs : hash ∈ s
    · obtain ⟨a, b, rfl, ha⟩ := List.eq_append_cons_of_mem hs
      rw [splitComment_append_cons ha, Prod.mk.injEq, Text.trim_eq_iff, Text.trim_eq_iff] at h
      obtain ⟨⟨htc, w₁, w₂, h₁, h₂, rfl⟩, htm, w₃, w₄, h₃, h₄, rfl⟩ := h
      exact ⟨hc, htc, htm, .noted h₁ h₂ h₃ h₄⟩
    · rw [splitComment_of_not_mem hs, Prod.mk.injEq, Text.trim_eq_iff] at h
      obtain ⟨⟨htc, w₁, w₂, h₁, h₂, rfl⟩, rfl⟩ := h
      exact ⟨hc, htc, Text.trimmed_nil, .bare h₁ h₂⟩
  · rintro ⟨hc, htc, htm, hs⟩
    cases hs with
    | bare h₁ h₂ =>
      rw [splitComment_of_not_mem (Spelled.hash_not_mem_front hc h₁ h₂),
        Text.trim_eq_iff.mpr ⟨htc, _, _, h₁, h₂, rfl⟩]
    | noted h₁ h₂ h₃ h₄ =>
      rw [splitComment_append_cons (Spelled.hash_not_mem_front hc h₁ h₂),
        Text.trim_eq_iff.mpr ⟨htc, _, _, h₁, h₂, rfl⟩, Text.trim_eq_iff.mpr ⟨htm, _, _, h₃, h₄, rfl⟩]

/-- White space around a line does not matter. -/
theorem splitComment_trim (s : Text) : splitComment (Text.trim s) = splitComment s := by
  obtain ⟨-, w₁, w₂, h₁, h₂, hs⟩ := Text.trim_eq_iff.mp (rfl : Text.trim s = Text.trim s)
  cases hsplit : splitComment (Text.trim s) with
  | mk c m =>
    obtain ⟨hc, htc, htm, hline⟩ := splitComment_eq_iff.mp hsplit
    have haround := hline.around h₁ h₂
    rw [← hs] at haround
    exact (splitComment_eq_iff.mpr ⟨hc, htc, htm, haround⟩).symm

/-! ## Written lines -/

/-- A comment that is not empty is written behind ` # `. -/
theorem commentSuffix_of_ne_nil {comment : Text} (h : comment ≠ []) :
    commentSuffix comment = Text.lit " # " ++ comment := by
  rw [commentSuffix, if_neg (by simpa using h)]

/-- A statement with its comment behind it is spelled with the two. -/
theorem spelled_append_commentSuffix (c m : Text) : Spelled c m (c ++ commentSuffix m) := by
  have hblank : White [blank] := .of_mem (by decide)
  by_cases hm : m = []
  · subst hm
    simpa [commentSuffix] using Spelled.bare (c := c) .nil .nil
  · have hline := Spelled.noted (c := c) (m := m) .nil hblank hblank .nil
    rw [List.nil_append, List.append_nil, List.append_assoc] at hline
    rw [commentSuffix_of_ne_nil hm]
    exact hline

/-- **What was written is split again into what it was written from**, when the front has no hash
and both parts are trimmed. -/
theorem splitComment_append_commentSuffix {c m : Text} (hc : hash ∉ c) (htc : Trimmed c)
    (htm : Trimmed m) : splitComment (c ++ commentSuffix m) = (c, m) :=
  splitComment_eq_iff.mpr ⟨hc, htc, htm, spelled_append_commentSuffix c m⟩

/-- **Splitting and writing are inverse.** Whatever bytes a line has, its statement has no hash sign
in it, and neither the statement nor the comment has white space around it. A line without a hash
sign is its statement with white space before and behind it, and has no comment. Any other line is
white space, the statement, white space, a hash sign, white space, the comment and white space, and
all hash signs but this one are in the comment. Splitting the statement finds no comment in it, and
splitting the statement with its comment behind it, as it is written, gives the two again. -/
theorem splitting_inverts_writing (s : Text) :
    ∃ c m, splitComment s = (c, m) ∧
      hash ∉ c ∧ Trimmed c ∧ Trimmed m ∧
      (hash ∉ s → m = [] ∧ ∃ w₁ w₂, White w₁ ∧ White w₂ ∧ s = w₁ ++ c ++ w₂) ∧
      (hash ∈ s → s.count hash = m.count hash + 1 ∧
        ∃ w₁ w₂ w₃ w₄, White w₁ ∧ White w₂ ∧ White w₃ ∧ White w₄ ∧
          s = w₁ ++ c ++ w₂ ++ [hash] ++ w₃ ++ m ++ w₄) ∧
      splitComment c = (c, []) ∧
      splitComment (c ++ commentSuffix m) = (c, m) := by
  cases hsplit : splitComment s with
  | mk c m =>
    obtain ⟨hc, htc, htm, hline⟩ := splitComment_eq_iff.mp hsplit
    refine ⟨c, m, rfl, hc, htc, htm, ?_, ?_, ?_, splitComment_append_commentSuffix hc htc htm⟩
    · intro hs
      cases hline with
      | bare h₁ h₂ => exact ⟨rfl, _, _, h₁, h₂, rfl⟩
      | noted => simp at hs
    · intro hs
      cases hline with
      | bare h₁ h₂ => exact absurd hs (Spelled.hash_not_mem_front hc h₁ h₂)
      | noted h₁ h₂ h₃ h₄ =>
        exact ⟨Spelled.count_hash_noted hc h₁ h₂ h₃ h₄, _, _, _, _, h₁, h₂, h₃, h₄, by simp⟩
    · simpa [commentSuffix] using splitComment_append_commentSuffix hc htc Text.trimmed_nil

/-- A line with white space of two bytes, bytes that are no characters, and three hash signs. -/
def notedLine : Text :=
  [0xC2, 0xA0, 0xFF] ++ Text.lit "a\t#\n b #c#" ++ [0xE2, 0x80]

/-- A line of bytes that are no text, with a comment that has hashes of its own and ends in the
middle of a character. -/
theorem splitting_inverts_writing_of_noted :
    hash ∈ notedLine ∧
      (∃ w₁ w₂ w₃ w₄, White w₁ ∧ White w₂ ∧ White w₃ ∧ White w₄ ∧
        notedLine = w₁ ++ ([0xFF] ++ Text.lit "a") ++ w₂ ++ [hash] ++ w₃ ++
          (Text.lit "b #c#" ++ [0xE2, 0x80]) ++ w₄) ∧
      splitComment ([0xFF] ++ Text.lit "a # b #c#" ++ [0xE2, 0x80]) =
        ([0xFF] ++ Text.lit "a", Text.lit "b #c#" ++ [0xE2, 0x80]) := by
  have hhash : hash ∈ notedLine := by decide
  have hsplit : splitComment notedLine =
      ([0xFF] ++ Text.lit "a", Text.lit "b #c#" ++ [0xE2, 0x80]) := by decide
  obtain ⟨c, m, h, -, -, -, -, hparts, -, hagain⟩ := splitting_inverts_writing notedLine
  obtain ⟨rfl, rfl⟩ := Prod.mk.inj (h.symm.trans hsplit)
  exact ⟨hhash, (hparts hhash).2, hagain⟩

end NovelScript.Script
