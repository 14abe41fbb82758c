import NovelScript.Text.Basic

/-!
# Cutting and joining again

`splitAt` cuts a text at every occurrence of a byte, and `join` puts the byte back between pieces, so
that joining undoes cutting (**`join_splitAt`**). On pieces without the byte cutting undoes joining
(**`splitAt_join`**), so such pieces are known from their joined text (`join_inj`). A text in two
parts with the byte between them is cut part by part (`splitAt_append_cons`).

`cut` cuts at the first occurrence of a separator only: the two parts have it between them
(`cut_eq_some`), and a part is the first one when the separator does not start inside it
(**`cut_append`**).
-/

namespace NovelScript.Text

/-! ## Byte by byte -/

/-- To split a text gives one piece at least. -/
theorem splitAt_ne_nil (sep : UInt8) (s : Text) : splitAt sep s ≠ [] := by
  cases s with
  | nil => simp [splitAt]
  | cons b r =>
    rw [splitAt]
    split
    · simp
    · split <;> simp

/-- The pieces of a text have a first one. -/
theorem exists_splitAt (sep : UInt8) (s : Text) : ∃ piece more, splitAt sep s = piece :: more :=
  List.exists_cons_of_ne_nil (splitAt_ne_nil sep s)

/-- A separator in front gives an empty piece. -/
theorem splitAt_cons_self (sep : UInt8) (s : Text) :
    splitAt sep (sep :: s) = [] :: splitAt sep s := by
  obtain ⟨piece, more, hs⟩ := exists_splitAt sep s
  simp [splitAt, hs]

/-- Another byte goes to the first piece. -/
theorem splitAt_cons_of_ne {sep b : UInt8} (hb : b ≠ sep) {s piece : Text} {more : List Text}
    (hs : splitAt sep s = piece :: more) : splitAt sep (b :: s) = (b :: piece) :: more := by
  simp [splitAt, hs, hb]

/-! ## Pieces and the whole -/

/-- Texts with a separator between them are split by themselves. -/
theorem splitAt_append_cons (sep : UInt8) (s t : Text) :
    splitAt sep (s ++ sep :: t) = splitAt sep s ++ splitAt sep t := by
  induction s with
  | nil => exact splitAt_cons_self sep t
  | cons b r ih =>
    rw [List.cons_append]
    by_cases hb : b = sep
    · rw [hb, splitAt_cons_self, splitAt_cons_self, ih, List.cons_append]
    · obtain ⟨piece, more, hr⟩ := exists_splitAt sep r
      rw [hr, List.cons_append] at ih
      rw [splitAt_cons_of_ne hb ih, splitAt_cons_of_ne hb hr, List.cons_append]

/-- A text without a separator is one piece. -/
theorem splitAt_of_not_mem {sep : UInt8} {s : Text} (h : sep ∉ s) : splitAt sep s = [s] := by
  induction s with
  | nil => rfl
  | cons b r ih =>
    rw [List.mem_cons, not_or] at h
    exact splitAt_cons_of_ne (Ne.symm h.1) (ih h.2)

/-- There is no separator in a piece. The induction is on the text, with the piece that is being
read as the first one. -/
theorem not_mem_of_mem_splitAt {sep : UInt8} {s piece : Text} (h : piece ∈ splitAt sep s) :
    sep ∉ piece := by
  induction s generalizing piece with
  | nil =>
    cases List.mem_singleton.1 h
    exact List.not_mem_nil
  | cons b r ih =>
    by_cases hb : b = sep
    · rw [hb, splitAt_cons_self] at h
      rcases List.mem_cons.1 h with rfl | h
      · exact List.not_mem_nil
      · exact ih h
    · obtain ⟨first, more, hr⟩ := exists_splitAt sep r
      rw [splitAt_cons_of_ne hb hr] at h
      rw [hr] at ih
      rcases List.mem_cons.1 h with rfl | h
      · have hfirst : sep ∉ first := ih List.mem_cons_self
        simp [Ne.symm hb, hfirst]
      · exact ih (List.mem_cons_of_mem _ h)

/-- Another byte stands in a text exactly when it stands in a piece of it. -/
theorem mem_iff_splitAt {sep b : UInt8} (h : b ≠ sep) (s : Text) :
    b ∈ s ↔ ∃ piece ∈ splitAt sep s, b ∈ piece := by
  induction s with
  | nil => simp [splitAt]
  | cons c r ih =>
    rw [List.mem_cons, ih]
    by_cases hc : c = sep
    · rw [hc, splitAt_cons_self]
      simp [h]
    · obtain ⟨first, more, hr⟩ := exists_splitAt sep r
      rw [splitAt_cons_of_ne hc hr, hr]
      simp [or_assoc]

/-- To put texts together, one step. -/
theorem join_cons_cons (sep x y : Text) (more : List Text) :
    join sep (x :: y :: more) = x ++ sep ++ join sep (y :: more) := by
  rw [join, join, List.intercalate_cons_cons]

/-- A text that was split is put together again. -/
theorem join_splitAt (sep : UInt8) (s : Text) : join [sep] (splitAt sep s) = s := by
  induction s with
  | nil => rfl
  | cons b r ih =>
    obtain ⟨first, more, hr⟩ := exists_splitAt sep r
    rw [hr] at ih
    by_cases hb : b = sep
    · rw [hb, splitAt_cons_self, hr, join_cons_cons, ih]
      rfl
    · rw [splitAt_cons_of_ne hb hr, ← ih]
      cases more with
      | nil => rfl
      | cons second more => rfl

/-- Texts that were put together are found again, when none has the separator in it. -/
theorem splitAt_join {sep : UInt8} {pieces : List Text} (hne : pieces ≠ [])
    (h : ∀ piece ∈ pieces, sep ∉ piece) : splitAt sep (join [sep] pieces) = pieces := by
  induction pieces with
  | nil => exact absurd rfl hne
  | cons a more ih =>
    have ha : splitAt sep a = [a] := splitAt_of_not_mem (h a List.mem_cons_self)
    cases more with
    | nil => rwa [join, List.intercalate_singleton]
    | cons b more =>
      have hrest := ih (by simp) fun piece hp => h piece (List.mem_cons_of_mem _ hp)
      rw [join_cons_cons, List.append_assoc, List.singleton_append, splitAt_append_cons, ha, hrest,
        List.singleton_append]

/-- Pieces without the byte are known from their joined text. -/
theorem join_inj {sep : UInt8} {as bs : List Text} (ha : as ≠ []) (hb : bs ≠ [])
    (has : ∀ piece ∈ as, sep ∉ piece) (hbs : ∀ piece ∈ bs, sep ∉ piece)
    (h : join [sep] as = join [sep] bs) : as = bs := by
  rw [← splitAt_join ha has, ← splitAt_join hb hbs, h]

/-! ## The first occurrence -/

/-- A text starts with another one when that is a prefix of it. -/
theorem startsWith_iff {p s : Text} : startsWith p s = true ↔ p <+: s :=
  List.isPrefixOf_iff_prefix

/-- What is cut is the two parts with the separator between them. The induction is on the text, up
to the first place where the separator starts. -/
theorem cut_eq_some {sep s x y : Text} (h : cut sep s = some (x, y)) : s = x ++ sep ++ y := by
  induction s generalizing x with
  | nil =>
    unfold cut at h
    split at h
    · rename_i hsep
      have hnil : sep = [] := by simpa [startsWith] using hsep
      cases h
      simp [hnil]
    · cases h
  | cons b r ih =>
    unfold cut at h
    split at h
    · rename_i hsep
      have hpre : sep <+: b :: r := by simpa [startsWith] using hsep
      cases h
      obtain ⟨more, hmore⟩ := hpre
      simp [← hmore]
    · obtain ⟨⟨x', y'⟩, hcut, heq⟩ := Option.map_eq_some_iff.mp h
      cases heq
      simp [ih hcut]

/-- A text is cut behind `x` when the separator starts nowhere in `x`, not even with its rest behind
`x`. What comes after the separator has no say in this. -/
theorem cut_append {sep x : Text} (h : ∀ i < x.length, ¬ sep <+: (x ++ sep).drop i) (y : Text) :
    cut sep (x ++ sep ++ y) = some (x, y) := by
  induction x with
  | nil =>
    rw [List.nil_append]
    cases hs : sep ++ y with
    | nil =>
      obtain ⟨rfl, rfl⟩ := List.append_eq_nil_iff.mp hs
      rfl
    | cons b r =>
      rw [cut, ← hs, if_pos (startsWith_iff.mpr (List.prefix_append sep y)), List.drop_left]
  | cons b x ih =>
    have hstart : ¬ startsWith sep (b :: (x ++ sep ++ y)) = true := by
      intro hs
      apply h 0 (Nat.zero_lt_succ _)
      apply List.prefix_of_prefix_length_le (startsWith_iff.mp hs)
      · exact List.prefix_append (b :: x ++ sep) y
      · simp only [List.drop_zero, List.length_append]
        omega
    have hrest : ∀ i < x.length, ¬ sep <+: (x ++ sep).drop i := by
      intro i hi
      exact h (i + 1) (Nat.succ_lt_succ hi)
    rw [List.cons_append, List.cons_append, cut, if_neg hstart, ih hrest]
    rfl

/-- A text is cut at the first separator. -/
theorem cut_append_cons {b : UInt8} {x : Text} (h : b ∉ x) (y : Text) :
    cut [b] (x ++ b :: y) = some (x, y) := by
  have hfirst : ∀ i < x.length, ¬ [b] <+: (x ++ [b]).drop i := by
    intro i hi hpre
    rw [List.drop_append_of_le_length (Nat.le_of_lt hi), List.drop_eq_getElem_cons hi] at hpre
    obtain ⟨rfl, -⟩ := List.cons_prefix_cons.mp hpre
    exact h (List.getElem_mem hi)
  rw [← cut_append hfirst y, List.append_assoc, List.singleton_append]

/-- The two sides of the first occurrence of a byte are known from the text. -/
theorem append_cons_inj {b : UInt8} {x y x' y' : Text} (hx : b ∉ x) (hx' : b ∉ x')
    (h : x ++ b :: y = x' ++ b :: y') : x = x' ∧ y = y' := by
  have hcut := cut_append_cons hx y
  rw [h, cut_append_cons hx' y'] at hcut
  simpa [eq_comm] using hcut

/-- Without a separator there is no cut. -/
theorem cut_of_not_mem {b : UInt8} {s : Text} (h : b ∉ s) : cut [b] s = none := by
  cases hcut : cut [b] s with
  | none => rfl
  | some parts =>
    exfalso
    apply h
    rw [cut_eq_some hcut]
    simp

end NovelScript.Text
