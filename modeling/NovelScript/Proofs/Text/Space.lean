import NovelScript.Text.Space

/-!
# Trimming

What is left of a text when white space is taken away in front of it has none in front any more, and
taking some away at the end cannot bring any to the front: a text that starts a text without white
space in front has none there either. So trimming a text once is enough (**`trim_trim`**).

Trimming goes from one white-space character to the next: no such character starts or ends another
one, so each is taken off as a whole (`trimLeft_append`, `trimRight_append`), and a statement about
trimmed texts is proved along them (`front_induction`, `end_induction`). A trimmed text neither starts
nor ends with white space (`not_isPrefix_trim`, `not_isSuffix_trim`), and nothing else is taken away:
what is left of a text is the one text without white space around it that has only white space before
and behind it there (**`trim_eq_iff`**).
-/

namespace NovelScript.Text

section

variable {width : Text → Nat}

/-- What is left in front is an end of the text. -/
theorem dropLeading_isSuffix (width : Text → Nat) (skip : Nat) (s : Text) :
    dropLeading width skip s <:+ s := by
  fun_induction dropLeading width skip s with
  | case1 => exact List.suffix_refl _
  | case2 skip b r ih => exact ih.trans (List.suffix_cons b r)
  | case3 b r hwidth => exact List.suffix_refl _
  | case4 b r w hwidth ih => exact ih.trans (List.suffix_cons b r)

/-- When nothing more is dropped, nothing more is found. -/
theorem width_dropLeading (hnil : width [] = 0) (skip : Nat) (s : Text) :
    width (dropLeading width skip s) = 0 := by
  fun_induction dropLeading width skip s with
  | case1 => exact hnil
  | case2 skip b r ih => exact ih
  | case3 b r hwidth => exact hwidth
  | case4 b r w hwidth ih => exact ih

/-- Where nothing starts that could be dropped, nothing is. -/
theorem dropLeading_eq_self {s : Text} (h : width s = 0) : dropLeading width 0 s = s := by
  cases s with
  | nil => rfl
  | cons b r =>
    unfold dropLeading
    rw [h]

end

/-- No white space starts a text exactly when none of the kinds of it does. -/
theorem spaceWidth_eq_zero_iff {s : Text} : spaceWidth s = 0 ↔ ∀ w ∈ spaces, ¬ w <+: s := by
  unfold spaceWidth
  cases hfind : spaces.find? (·.isPrefixOf s) with
  | none => simpa using hfind
  | some w =>
    have hmem := List.mem_of_find?_eq_some hfind
    have hpre : w <+: s := by simpa using List.find?_some hfind
    have hlength : ∀ w ∈ spaces, w.length ≠ 0 := by decide
    simp only [hlength w hmem, false_iff]
    intro h
    exact h w hmem hpre

/-- The start of a text that has no white space in front has none there. -/
theorem spaceWidth_of_isPrefix {s t : Text} (hpre : t <+: s) (h : spaceWidth s = 0) :
    spaceWidth t = 0 := by
  rw [spaceWidth_eq_zero_iff] at h ⊢
  intro w hw hwt
  exact h w hw (hwt.trans hpre)

/-- What is left after trimming at the end is a start of the text. -/
theorem trimRight_isPrefix (s : Text) : trimRight s <+: s := by
  unfold trimRight
  rw [← List.reverse_suffix, List.reverse_reverse]
  exact dropLeading_isSuffix _ _ _

/-- To trim leaves a part of the text. -/
theorem trim_sublist (s : Text) : (trim s).Sublist s := by
  have hleft : trimLeft s <:+ s := dropLeading_isSuffix _ _ _
  exact (trimRight_isPrefix (trimLeft s)).sublist.trans hleft.sublist

/-- A trimmed text has no white space at its end. -/
theorem trimRight_trim (s : Text) : trimRight (trim s) = trim s := by
  have hend : spaceWidthRev (trim s).reverse = 0 := by
    unfold trim trimRight
    rw [List.reverse_reverse]
    exact width_dropLeading (by decide) 0 _
  rw [trimRight, dropLeading_eq_self hend, List.reverse_reverse]

/-- A trimmed text has no white space in front. -/
theorem spaceWidth_trim (s : Text) : spaceWidth (trim s) = 0 := by
  apply spaceWidth_of_isPrefix (trimRight_isPrefix (trimLeft s))
  exact width_dropLeading (by decide) 0 s

/-- A text that was trimmed stays as it is. -/
theorem trim_trim (s : Text) : trim (trim s) = trim s := by
  have hleft : trimLeft (trim s) = trim s := dropLeading_eq_self (spaceWidth_trim s)
  calc trim (trim s) = trimRight (trim s) := by rw [trim, hleft]
    _ = trim s := trimRight_trim s

/-! ## One white-space character after the other -/

/-- Bytes that are passed over are dropped. -/
theorem dropLeading_length (width : Text → Nat) (x r : Text) :
    dropLeading width x.length (x ++ r) = dropLeading width 0 r := by
  induction x with
  | nil => rfl
  | cons b x ih => rwa [List.length_cons, List.cons_append, dropLeading]

/-- A piece in front that can be dropped is dropped as a whole. -/
theorem dropLeading_append {width : Text → Nat} {x r : Text} (hx : x ≠ [])
    (h : width (x ++ r) = x.length) : dropLeading width 0 (x ++ r) = dropLeading width 0 r := by
  cases x with
  | nil => exact absurd rfl hx
  | cons b x =>
    rw [List.cons_append, List.length_cons] at h
    rw [List.cons_append, dropLeading, h]
    exact dropLeading_length width x r

/-- White space is not empty, so that dropping it comes to an end. -/
theorem space_ne_nil {w : Text} (hw : w ∈ spaces) : w ≠ [] := by
  have hall : ∀ w ∈ spaces, w ≠ [] := by decide
  exact hall w hw

/-- White-space characters of which none starts another one are told apart by what a text starts
with; `f` is how their bytes are laid out. -/
theorem find?_space {f : Text → Text} (hapart : ∀ v ∈ spaces, ∀ w ∈ spaces, f v <+: f w → v = w)
    {w : Text} (hw : w ∈ spaces) (r : Text) :
    spaces.find? (fun v => (f v).isPrefixOf (f w ++ r)) = some w := by
  cases hfind : spaces.find? (fun v => (f v).isPrefixOf (f w ++ r)) with
  | none =>
    rw [List.find?_eq_none] at hfind
    exact absurd (List.isPrefixOf_iff_prefix.mpr (List.prefix_append (f w) r)) (hfind w hw)
  | some v =>
    have hv := List.mem_of_find?_eq_some hfind
    have hpre : f v <+: f w ++ r := by simpa using List.find?_some hfind
    rcases List.prefix_or_prefix_of_prefix hpre (List.prefix_append (f w) r) with h | h
    · rw [hapart v hv w hw h]
    · rw [hapart w hw v hv h]

/-- White space in front is as wide as it is. No kind of white space starts with another one. -/
theorem spaceWidth_append {w : Text} (hw : w ∈ spaces) (r : Text) :
    spaceWidth (w ++ r) = w.length := by
  have hfind := find?_space (f := id) (by decide) hw r
  dsimp only [id] at hfind
  rw [spaceWidth, hfind]

/-- White space at the end, seen backwards, is as wide as it is. -/
theorem spaceWidthRev_append {w : Text} (hw : w ∈ spaces) (r : Text) :
    spaceWidthRev (w.reverse ++ r) = w.length := by
  rw [spaceWidthRev, find?_space (f := List.reverse) (by decide) hw r]

/-- White space in front is dropped. -/
theorem trimLeft_append {w : Text} (hw : w ∈ spaces) (r : Text) : trimLeft (w ++ r) = trimLeft r :=
  dropLeading_append (space_ne_nil hw) (spaceWidth_append hw r)

/-- White space at the end is dropped. -/
theorem trimRight_append {w : Text} (hw : w ∈ spaces) (r : Text) :
    trimRight (r ++ w) = trimRight r := by
  have hlength : spaceWidthRev (w.reverse ++ r.reverse) = w.reverse.length := by
    rw [spaceWidthRev_append hw, List.length_reverse]
  unfold trimRight
  rw [List.reverse_append, dropLeading_append (by simpa using space_ne_nil hw) hlength]

/-- Where no white space is in front, nothing is dropped there. -/
theorem trimLeft_of_front {s : Text} (h : ∀ w ∈ spaces, ¬ w <+: s) : trimLeft s = s :=
  dropLeading_eq_self (spaceWidth_eq_zero_iff.mpr h)

/-- Where no white space is at the end, nothing is dropped there. -/
theorem trimRight_of_end {s : Text} (h : ∀ w ∈ spaces, ¬ w <:+ s) : trimRight s = s := by
  have hwidth : spaceWidthRev s.reverse = 0 := by
    unfold spaceWidthRev
    cases hfind : spaces.find? (·.reverse.isPrefixOf s.reverse) with
    | none => rfl
    | some w =>
      have hpre : w.reverse <+: s.reverse := by simpa using List.find?_some hfind
      exact absurd (List.reverse_prefix.mp hpre) (h w (List.mem_of_find?_eq_some hfind))
  rw [trimRight, dropLeading_eq_self hwidth, List.reverse_reverse]

/-- A statement about all texts is proved along the white-space characters at one of their ends;
`put` is where a character stands. -/
theorem space_induction {put : Text → Text → Text}
    (hput : ∀ w r, (put w r).length = w.length + r.length) {motive : Text → Prop}
    (space : ∀ w ∈ spaces, ∀ r, motive r → motive (put w r))
    (rest : ∀ s, (∀ w ∈ spaces, ¬ ∃ r, put w r = s) → motive s) (s : Text) : motive s := by
  induction hn : s.length using Nat.strongRecOn generalizing s with
  | ind n ih =>
    by_cases h : ∃ w ∈ spaces, ∃ r, put w r = s
    · obtain ⟨w, hw, r, rfl⟩ := h
      have hpos : 0 < w.length := List.length_pos_iff.mpr (space_ne_nil hw)
      rw [hput] at hn
      exact space w hw r (ih r.length (by omega) r rfl)
    · exact rest s fun w hw hends => h ⟨w, hw, hends⟩

/-- Every text is white-space characters in front of a text with none there. -/
theorem front_induction {motive : Text → Prop}
    (space : ∀ w ∈ spaces, ∀ r, motive r → motive (w ++ r))
    (rest : ∀ s, (∀ w ∈ spaces, ¬ w <+: s) → motive s) (s : Text) : motive s :=
  space_induction (fun _ _ => List.length_append) space rest s

/-- Every text is white-space characters behind a text with none at its end. -/
theorem end_induction {motive : Text → Prop}
    (space : ∀ w ∈ spaces, ∀ r, motive r → motive (r ++ w))
    (rest : ∀ s, (∀ w ∈ spaces, ¬ w <:+ s) → motive s) (s : Text) : motive s :=
  space_induction (fun _ _ => List.length_append.trans (Nat.add_comm _ _)) space rest s

/-! ## Either end first -/

/-- A white-space character does not start in the text before another one and go on inside it.
Without this, what is dropped at the end of a text could depend on what stands in front. -/
theorem not_isPrefix_append_space {s w : Text} (hs : s ≠ []) (h : ∀ v ∈ spaces, ¬ v <+: s)
    (hw : w ∈ spaces) (r : Text) : ∀ v ∈ spaces, ¬ v <+: s ++ (w ++ r) := by
  have hinside : ∀ v ∈ spaces, ∀ w ∈ spaces, w.head?.any v.tail.contains = false := by decide
  intro v hv hpre
  rcases List.prefix_or_prefix_of_prefix hpre (List.prefix_append s (w ++ r)) with hvs | ⟨u, rfl⟩
  · exact h v hv hvs
  · rw [List.prefix_append_right_inj] at hpre
    cases u with
    | nil => exact h _ hv (by simp)
    | cons x u =>
      cases w with
      | nil => exact space_ne_nil hw rfl
      | cons y w =>
        rw [List.cons_append, List.cons_prefix_cons] at hpre
        cases s with
        | nil => exact hs rfl
        | cons b s =>
          have hx := hinside _ hv _ hw
          simp [hpre.1] at hx

/-- One more white space in front does not change the trimmed text. -/
theorem trim_space_append {w : Text} (hw : w ∈ spaces) (r : Text) : trim (w ++ r) = trim r := by
  rw [trim, trimLeft_append hw, trim]

/-- One more white space at the end does not change the trimmed text. -/
theorem trim_append_space {w : Text} (hw : w ∈ spaces) (r : Text) : trim (r ++ w) = trim r := by
  induction r using front_induction with
  | space v hv r ih =>
    rw [List.append_assoc, trim_space_append hv, trim_space_append hv, ih]
  | rest r hr =>
    by_cases hnil : r = []
    · rw [hnil, List.nil_append, ← List.append_nil w]
      exact trim_space_append hw []
    · have hfront := not_isPrefix_append_space hnil hr hw []
      rw [List.append_nil] at hfront
      rw [trim, trimLeft_of_front hfront, trimRight_append hw, trim, trimLeft_of_front hr]

/-- White space does not start a text that was trimmed. -/
theorem not_isPrefix_trim {w : Text} (hw : w ∈ spaces) (s : Text) : ¬ w <+: trim s :=
  spaceWidth_eq_zero_iff.mp (spaceWidth_trim s) w hw

/-- It does not end one either, for what ends in it can be trimmed further. -/
theorem not_isSuffix_trim {w : Text} (hw : w ∈ spaces) (s : Text) : ¬ w <:+ trim s := by
  rintro ⟨r, hr⟩
  have hlength : (trim (r ++ w)).length ≤ r.length := by
    rw [trim_append_space hw]
    exact (trim_sublist r).length_le
  have hpos : 0 < w.length := List.length_pos_iff.mpr (space_ne_nil hw)
  rw [hr, trim_trim, ← hr, List.length_append] at hlength
  omega

/-! ## What is taken away -/

/-- A text of white-space characters and nothing else. -/
inductive White : Text → Prop
  | nil : White []
  | cons {w s : Text} (hw : w ∈ spaces) (hs : White s) : White (w ++ s)

namespace White

/-- One white space is white. -/
theorem of_mem {w : Text} (hw : w ∈ spaces) : White w := by
  rw [← List.append_nil w]
  exact .cons hw .nil

/-- White texts one after the other are white. -/
theorem append {s t : Text} (hs : White s) (ht : White t) : White (s ++ t) := by
  induction hs with
  | nil => exact ht
  | cons hw hs ih =>
    rw [List.append_assoc]
    exact .cons hw ih

/-- A byte that is in no white space is in no white text. -/
theorem not_mem {m : UInt8} (hm : ∀ w ∈ spaces, m ∉ w) {s : Text} (hs : White s) : m ∉ s := by
  induction hs with
  | nil => exact List.not_mem_nil
  | cons hw hs ih =>
    rw [List.mem_append, not_or]
    exact ⟨hm _ hw, ih⟩

end White

/-- A white text in front does not change the trimmed text. -/
theorem trim_white_append {w : Text} (hw : White w) (s : Text) : trim (w ++ s) = trim s := by
  induction hw with
  | nil => rfl
  | cons hv hw ih => rw [List.append_assoc, trim_space_append hv, ih]

/-- A white text at the end does not change the trimmed text. -/
theorem trim_append_white {w : Text} (hw : White w) (s : Text) : trim (s ++ w) = trim s := by
  induction hw generalizing s with
  | nil => rw [List.append_nil]
  | cons hv hw ih => rw [← List.append_assoc, ih, trim_append_space hv]

/-- What is dropped in front is white. -/
theorem exists_white_trimLeft (s : Text) : ∃ w, White w ∧ s = w ++ trimLeft s := by
  induction s using front_induction with
  | space v hv r ih =>
    obtain ⟨w, hw, hr⟩ := ih
    refine ⟨v ++ w, .cons hv hw, ?_⟩
    rw [trimLeft_append hv, List.append_assoc, ← hr]
  | rest s hs => exact ⟨[], .nil, by rw [trimLeft_of_front hs, List.nil_append]⟩

/-- What is dropped at the end is white. -/
theorem exists_white_trimRight (s : Text) : ∃ w, White w ∧ s = trimRight s ++ w := by
  induction s using end_induction with
  | space v hv r ih =>
    obtain ⟨w, hw, hr⟩ := ih
    refine ⟨w ++ v, hw.append (.of_mem hv), ?_⟩
    rw [trimRight_append hv, ← List.append_assoc, ← hr]
  | rest s hs => exact ⟨[], .nil, by rw [trimRight_of_end hs, List.append_nil]⟩

/-- A text without white space around it. -/
def Trimmed (s : Text) : Prop :=
  ∀ w ∈ spaces, ¬ w <+: s ∧ ¬ w <:+ s

/-- What was trimmed is trimmed. -/
theorem trimmed_trim (s : Text) : Trimmed (trim s) :=
  fun _ hw => ⟨not_isPrefix_trim hw s, not_isSuffix_trim hw s⟩

/-- The empty text is trimmed. -/
theorem trimmed_nil : Trimmed [] :=
  trimmed_trim []

/-- A text is trimmed exactly when trimming leaves it as it is. -/
theorem trim_eq_self_iff {s : Text} : trim s = s ↔ Trimmed s := by
  constructor
  · intro h
    rw [← h]
    exact trimmed_trim s
  · intro h
    rw [trim, trimLeft_of_front fun w hw => (h w hw).1, trimRight_of_end fun w hw => (h w hw).2]

/-- **What trimming leaves** has only white space before and behind it, and none of its own at either
end. -/
theorem trim_eq_iff {s t : Text} :
    trim s = t ↔ Trimmed t ∧ ∃ w₁ w₂, White w₁ ∧ White w₂ ∧ s = w₁ ++ t ++ w₂ := by
  constructor
  · rintro rfl
    obtain ⟨w₁, hw₁, hleft⟩ := exists_white_trimLeft s
    obtain ⟨w₂, hw₂, hright⟩ := exists_white_trimRight (trimLeft s)
    refine ⟨trimmed_trim s, w₁, w₂, hw₁, hw₂, ?_⟩
    rw [List.append_assoc, trim, ← hright, ← hleft]
  · rintro ⟨ht, w₁, w₂, hw₁, hw₂, rfl⟩
    rw [trim_append_white hw₂, trim_white_append hw₁, trim_eq_self_iff.mpr ht]

/-- A byte that is no part of white space stays. -/
theorem mem_trim_iff {m : UInt8} (hm : ∀ w ∈ spaces, m ∉ w) {s : Text} : m ∈ trim s ↔ m ∈ s := by
  obtain ⟨-, w₁, w₂, hw₁, hw₂, hs⟩ := trim_eq_iff.mp (rfl : trim s = trim s)
  constructor
  · intro h
    exact (trim_sublist s).subset h
  · intro h
    rw [hs] at h
    simpa [hw₁.not_mem hm, hw₂.not_mem hm] using h

/-- A blank text is white space and nothing else. -/
theorem isBlank_iff_white {s : Text} : isBlank s = true ↔ White s := by
  rw [isBlank, List.isEmpty_iff, trim_eq_iff]
  constructor
  · rintro ⟨-, w₁, w₂, hw₁, hw₂, rfl⟩
    rw [List.append_nil]
    exact hw₁.append hw₂
  · intro h
    exact ⟨trimmed_nil, s, [], h, .nil, by simp⟩

end NovelScript.Text
