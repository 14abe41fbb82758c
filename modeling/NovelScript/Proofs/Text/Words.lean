import NovelScript.Proofs.Text.Space
import NovelScript.Proofs.Text.Split

/-!
# Words

White space between two texts keeps their words apart (**`words_append_space`**): no white-space
character starts in what stands before one and goes on inside it (`not_isPrefix_append_space`). All
that is known about words follows from this. A text without white space in it is one word
(`words_of_solid`), and words are such texts (**`solid_of_mem_words`**).

So the words with single blanks between them have the same words again (**`words_collapse`**), doing
this twice is doing it once (`collapse_collapse`), and the blanks between the words are all the white
space that is left (**`space_of_collapse`**).
-/

namespace NovelScript.Text

/-! ## White space between two texts -/

/-- The word that was begun, if any byte of it was read. -/
def begun (word : Text) : List Text :=
  if word.isEmpty then [] else [word.reverse]

/-- At its end the text gives the word that was begun. -/
theorem wordsFrom_nil (word : Text) : wordsFrom word 0 [] = begun word := rfl

/-- Bytes that belong to white space are passed over. -/
theorem wordsFrom_skip (word x r : Text) :
    wordsFrom word x.length (x ++ r) = wordsFrom word 0 r := by
  induction x with
  | nil => rfl
  | cons b x ih => rwa [List.length_cons, List.cons_append, wordsFrom]

/-- White space ends the word that was begun. -/
theorem wordsFrom_space {w : Text} (hw : w ∈ spaces) (word r : Text) :
    wordsFrom word 0 (w ++ r) = begun word ++ words r := by
  have hwidth := spaceWidth_append hw r
  cases w with
  | nil => exact absurd rfl (space_ne_nil hw)
  | cons b w =>
    rw [List.cons_append, List.length_cons] at hwidth
    rw [List.cons_append, wordsFrom, hwidth]
    dsimp only
    rw [wordsFrom_skip, begun, words]
    split <;> rfl

/-- Any other byte goes on with it. -/
theorem wordsFrom_cons {b : UInt8} {r : Text} (h : ∀ w ∈ spaces, ¬ w <+: b :: r) (word : Text) :
    wordsFrom word 0 (b :: r) = wordsFrom (b :: word) 0 r := by
  rw [wordsFrom, spaceWidth_eq_zero_iff.mpr h]

/-- White space ends a word, and the words behind it are those of what follows. The induction is on
the length, since white space of several bytes is passed over at once. -/
theorem wordsFrom_append_space {w : Text} (hw : w ∈ spaces) (word x y : Text) :
    wordsFrom word 0 (x ++ (w ++ y)) = wordsFrom word 0 x ++ words y := by
  induction hn : x.length using Nat.strongRecOn generalizing x word with
  | ind n ih =>
    by_cases hspace : ∃ v ∈ spaces, v <+: x
    · obtain ⟨v, hv, r, rfl⟩ := hspace
      have hpos : 0 < v.length := List.length_pos_iff.mpr (space_ne_nil hv)
      have hr : words (r ++ (w ++ y)) = words r ++ words y := by
        rw [List.length_append] at hn
        exact ih r.length (by omega) [] r rfl
      rw [List.append_assoc, wordsFrom_space hv, wordsFrom_space hv, hr, List.append_assoc]
    · have hfront : ∀ v ∈ spaces, ¬ v <+: x := fun v hv hpre => hspace ⟨v, hv, hpre⟩
      cases x with
      | nil => rw [List.nil_append, wordsFrom_space hw, wordsFrom_nil]
      | cons b r =>
        have hfront' := not_isPrefix_append_space (List.cons_ne_nil b r) hfront hw y
        rw [List.cons_append] at hfront' ⊢
        rw [wordsFrom_cons hfront', wordsFrom_cons hfront]
        rw [List.length_cons] at hn
        exact ih r.length (by omega) (b :: word) r rfl

/-- **Words split at white space.** -/
theorem words_append_space {w : Text} (hw : w ∈ spaces) (x y : Text) :
    words (x ++ w ++ y) = words x ++ words y := by
  rw [List.append_assoc]
  exact wordsFrom_append_space hw [] x y

/-! ## What a word is -/

/-- A text without white space in it. -/
def Solid (s : Text) : Prop :=
  ∀ w ∈ spaces, ¬ w <:+: s

/-- A text without white space has none further on. -/
theorem Solid.tail {b : UInt8} {s : Text} (h : Solid (b :: s)) : Solid s := by
  intro w hw hin
  exact h w hw (hin.trans (List.suffix_cons b s).isInfix)

/-- A text without white space does not start with any. -/
theorem Solid.front {s : Text} (h : Solid s) : ∀ w ∈ spaces, ¬ w <+: s := by
  intro w hw hpre
  exact h w hw hpre.isInfix

/-- A text without white space in it, or with a first white-space character in it. It is the case
distinction by which words are looked for. -/
theorem solid_or_space (s : Text) :
    Solid s ∨ ∃ x w r, Solid x ∧ w ∈ spaces ∧ s = x ++ w ++ r := by
  have hnil : Solid [] := by
    intro w hw hin
    exact space_ne_nil hw (List.infix_nil.mp hin)
  induction s with
  | nil => exact .inl hnil
  | cons b s ih =>
    by_cases hspace : ∃ w ∈ spaces, w <+: b :: s
    · obtain ⟨w, hw, r, hr⟩ := hspace
      exact .inr ⟨[], w, r, hnil, hw, hr.symm⟩
    -- what is in `b :: x` starts it or is in `x`
    have hcons {x r : Text} (hx : Solid x) (hs : s = x ++ r) : Solid (b :: x) := by
      intro w hw hin
      rcases List.infix_cons_iff.mp hin with hpre | hin
      · apply hspace ⟨w, hw, ?_⟩
        rw [hs, ← List.cons_append]
        exact hpre.trans (List.prefix_append _ r)
      · exact hx w hw hin
    rcases ih with hs | ⟨x, w, r, hx, hw, hs⟩
    · exact .inl (hcons hs (List.append_nil s).symm)
    · refine .inr ⟨b :: x, w, r, hcons hx (hs.trans (List.append_assoc x w r)), hw, ?_⟩
      rw [hs]
      rfl

/-- A text without white space goes on with the word that was begun. -/
theorem wordsFrom_of_solid {s : Text} (h : Solid s) (word : Text) :
    wordsFrom word 0 s = begun (s.reverse ++ word) := by
  induction s generalizing word with
  | nil => rfl
  | cons b s ih =>
    rw [wordsFrom_cons h.front, ih h.tail, List.reverse_cons, List.append_assoc]
    rfl

/-- A text without white space is one word. -/
theorem words_of_solid {s : Text} (h : Solid s) (hs : s ≠ []) : words s = [s] := by
  rw [words, wordsFrom_of_solid h, begun]
  simp [hs]

/-- **A word is not empty and has no white space in it.** The induction is on the text, with the
word that was begun. -/
theorem solid_of_mem_words {s x : Text} (h : x ∈ words s) : x ≠ [] ∧ Solid x := by
  have hone {s : Text} (hs : Solid s) (h : x ∈ words s) : x ≠ [] ∧ Solid x := by
    by_cases hnil : s = []
    · subst hnil
      simp [words, wordsFrom] at h
    · rw [words_of_solid hs hnil, List.mem_singleton] at h
      subst h
      exact ⟨hnil, hs⟩
  induction hn : s.length using Nat.strongRecOn generalizing s with
  | ind n ih =>
    rcases solid_or_space s with hs | ⟨y, w, r, hy, hw, rfl⟩
    · exact hone hs h
    · rw [words_append_space hw, List.mem_append] at h
      have hpos : 0 < w.length := List.length_pos_iff.mpr (space_ne_nil hw)
      rw [List.length_append, List.length_append] at hn
      rcases h with h | h
      · exact hone hy h
      · exact ih r.length (by omega) h rfl

/-! ## Single blanks between words -/

/-- A blank is white space. -/
theorem blank_mem_spaces : [blank] ∈ spaces := by decide

/-- Words with blanks between them are found again. -/
theorem words_join {ws : List Text} (h : ∀ x ∈ ws, x ≠ [] ∧ Solid x) :
    words (join [blank] ws) = ws := by
  induction ws with
  | nil => rfl
  | cons x ws ih =>
    obtain ⟨hne, hx⟩ := h x List.mem_cons_self
    have hmore := ih fun y hy => h y (List.mem_cons_of_mem x hy)
    cases ws with
    | nil =>
      rw [join, List.intercalate_singleton]
      exact words_of_solid hx hne
    | cons y more =>
      rw [join_cons_cons, words_append_space blank_mem_spaces, words_of_solid hx hne, hmore]
      rfl

/-- **The words stay the same** when single blanks are put between them. -/
theorem words_collapse (s : Text) : words (collapse s) = words s :=
  words_join fun _ => solid_of_mem_words

/-- Collapsing twice is collapsing once. -/
theorem collapse_collapse (s : Text) : collapse (collapse s) = collapse s := by
  rw [collapse, words_collapse, collapse]

/-- The only white space that starts with a blank is the blank. -/
theorem eq_blank_of_cons_eq {r w y : Text} (hw : w ∈ spaces) (h : blank :: r = w ++ y) :
    w = [blank] ∧ y = r := by
  have hblank : ∀ v ∈ spaces, v.head? = some blank → v = [blank] := by decide
  cases w with
  | nil => exact absurd rfl (space_ne_nil hw)
  | cons c w =>
    obtain ⟨rfl, hr⟩ := List.cons.inj h
    have hw' := hblank _ hw rfl
    rw [List.cons.injEq] at hw'
    rw [hw'.2] at hr ⊢
    exact ⟨rfl, hr.symm⟩

/-- White space in words with single blanks between them is one of these blanks, and it has some of
the words before it and the others behind it. -/
theorem space_of_join {ws : List Text} (h : ∀ x ∈ ws, x ≠ [] ∧ Solid x) {w x y : Text}
    (hw : w ∈ spaces) (hjoin : join [blank] ws = x ++ w ++ y) :
    w = [blank] ∧ ∃ before after, before ≠ [] ∧ after ≠ [] ∧ ws = before ++ after ∧
      x = join [blank] before ∧ y = join [blank] after := by
  induction ws generalizing x with
  | nil =>
    have hnil : w = [] := by simp_all [join]
    exact absurd hnil (space_ne_nil hw)
  | cons a ws ih =>
    obtain ⟨-, ha⟩ := h a List.mem_cons_self
    cases ws with
    | nil =>
      rw [join, List.intercalate_singleton] at hjoin
      exact absurd ⟨x, y, hjoin.symm⟩ (ha w hw)
    | cons b more =>
      have hbetween (hx : x = a) : w = [blank] ∧ ∃ before after, before ≠ [] ∧ after ≠ [] ∧
          a :: b :: more = before ++ after ∧ x = join [blank] before ∧ y = join [blank] after := by
        rw [hx, join_cons_cons, List.append_assoc, List.append_assoc] at hjoin
        obtain ⟨hw', hy⟩ := eq_blank_of_cons_eq hw (List.append_cancel_left hjoin)
        exact ⟨hw', [a], b :: more, by simp, by simp, rfl, by simpa [join] using hx, hy⟩
      rw [join_cons_cons, List.append_assoc, List.append_assoc] at hjoin
      rcases List.append_eq_append_iff.mp hjoin with ⟨u, rfl, hu⟩ | ⟨u, rfl, hu⟩
      · cases u with
        | nil => exact hbetween (List.append_nil a)
        | cons c u =>
          have hrest : join [blank] (b :: more) = u ++ w ++ y := by
            rw [List.append_assoc]
            exact (List.cons.inj hu).2
          obtain ⟨hw', before, after, hbefore, hafter, hall, rfl, hy⟩ :=
            ih (fun z hz => h z (List.mem_cons_of_mem a hz)) hrest
          refine ⟨hw', a :: before, after, by simp, hafter, by rw [hall]; rfl, ?_, hy⟩
          obtain ⟨z, before, rfl⟩ := List.exists_cons_of_ne_nil hbefore
          rw [join_cons_cons, List.append_assoc, (List.cons.inj hu).1.symm]
          rfl
      · cases u with
        | nil => exact hbetween (List.append_nil x).symm
        | cons c u =>
          -- white space does not start inside the first word
          exfalso
          have hsolid : Solid (c :: u) := by
            intro v hv hin
            exact ha v hv (hin.trans (List.suffix_append x (c :: u)).isInfix)
          apply not_isPrefix_append_space (List.cons_ne_nil c u) hsolid.front blank_mem_spaces
            (join [blank] (b :: more)) w hw
          rw [← hu]
          exact List.prefix_append w y

/-- Words that are put together are not empty. -/
theorem join_ne_nil {ws : List Text} (hne : ws ≠ []) (h : ∀ x ∈ ws, x ≠ [] ∧ Solid x) :
    join [blank] ws ≠ [] := by
  obtain ⟨x, more, rfl⟩ := List.exists_cons_of_ne_nil hne
  intro hnil
  have hwords := words_join h
  rw [hnil] at hwords
  simp [words, wordsFrom] at hwords

/-- **Single blanks are the only white space that is left**: each has something before and behind it
that has no white space next to it. -/
theorem space_of_collapse {s w x y : Text} (hw : w ∈ spaces) (h : collapse s = x ++ w ++ y) :
    w = [blank] ∧ x ≠ [] ∧ y ≠ [] ∧ ∀ v ∈ spaces, ¬ v <:+ x ∧ ¬ v <+: y := by
  obtain ⟨hw', before, after, hbefore, hafter, hall, rfl, rfl⟩ :=
    space_of_join (fun _ => solid_of_mem_words) hw h
  have hwords : ∀ z ∈ before ++ after, z ≠ [] ∧ Solid z := by
    rw [← hall]
    exact fun _ => solid_of_mem_words
  have hb : ∀ z ∈ before, z ≠ [] ∧ Solid z := fun z hz => hwords z (List.mem_append_left _ hz)
  have ha : ∀ z ∈ after, z ≠ [] ∧ Solid z := fun z hz => hwords z (List.mem_append_right _ hz)
  refine ⟨hw', join_ne_nil hbefore hb, join_ne_nil hafter ha, fun v hv => ⟨?_, ?_⟩⟩
  · rintro ⟨t, ht⟩
    obtain ⟨-, _, more, -, hmore, hsplit, -, hnil⟩ :=
      space_of_join hb hv (ht.symm.trans (List.append_nil _).symm)
    exact join_ne_nil hmore (fun z hz => hb z (hsplit ▸ List.mem_append_right _ hz)) hnil.symm
  · rintro ⟨t, ht⟩
    obtain ⟨-, more, _, hmore, -, hsplit, hnil, -⟩ := space_of_join ha hv (x := []) ht.symm
    exact join_ne_nil hmore (fun z hz => ha z (hsplit ▸ List.mem_append_left _ hz)) hnil.symm

end NovelScript.Text
