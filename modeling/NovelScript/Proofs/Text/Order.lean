import NovelScript.Text.Basic

/-!
# The order of texts

Texts are ordered by bytes. Any two can be compared, and the order is transitive, which is what
sorting needs. Texts that come before each other are the same, so that texts have one sorted order
however they were given (**`sort_eq_of_perm`**).
-/

namespace NovelScript.Text

/-- Any two texts are in order, one way or the other. -/
theorem le_total (s t : Text) : (le s t || le t s) = true := by
  induction s generalizing t with
  | nil => rfl
  | cons a s ih =>
    cases t with
    | nil => rfl
    | cons b t =>
      rcases Nat.lt_trichotomy a.toNat b.toNat with h | h | h
      · simp [le, UInt8.lt_iff_toNat_lt.mpr h]
      · obtain rfl := UInt8.toNat_inj.mp h
        simpa [le] using ih t
      · simp [le, UInt8.lt_iff_toNat_lt.mpr h]

/-- The order of texts can be chained. The induction is on the first text, byte by byte. -/
theorem le_trans {s t u : Text} (h : le s t = true) (h' : le t u = true) : le s u = true := by
  induction s generalizing t u with
  | nil => rfl
  | cons a s ih =>
    cases t with
    | nil => cases h
    | cons b t =>
      cases u with
      | nil => cases h'
      | cons c u =>
        simp only [le, Bool.or_eq_true, decide_eq_true_eq, Bool.and_eq_true, beq_iff_eq] at h h' ⊢
        rcases h with h | ⟨rfl, h⟩
        · rcases h' with h' | ⟨rfl, -⟩
          · exact .inl (UInt8.lt_trans h h')
          · exact .inl h
        · rcases h' with h' | ⟨rfl, h'⟩
          · exact .inl h'
          · exact .inr ⟨rfl, ih h h'⟩

/-- Two texts of which neither is in front of the other are one. So there is one way only to sort
different texts. -/
theorem le_antisymm {s t : Text} (h : le s t = true) (h' : le t s = true) : s = t := by
  induction s generalizing t with
  | nil =>
    cases t with
    | nil => rfl
    | cons b t => cases h'
  | cons a s ih =>
    cases t with
    | nil => cases h
    | cons b t =>
      simp only [le, Bool.or_eq_true, decide_eq_true_eq, Bool.and_eq_true, beq_iff_eq,
        UInt8.lt_iff_toNat_lt] at h h'
      rcases h with h | ⟨rfl, h⟩
      · exfalso
        rcases h' with h' | ⟨rfl, -⟩ <;> omega
      · rcases h' with h' | ⟨-, h'⟩
        · exfalso
          omega
        · rw [ih h h']

/-- Texts that start alike are ordered by what follows. -/
theorem le_append_left (p s t : Text) : le (p ++ s) (p ++ t) = le s t := by
  induction p with
  | nil => rfl
  | cons b p ih => simp [le, ih]

/-- Texts of one length that differ are ordered whatever follows them, since they differ before
either of them ends. -/
theorem le_append_of_ne {s t : Text} (hlen : s.length = t.length) (hne : s ≠ t) (u v : Text) :
    le (s ++ u) (t ++ v) = le s t := by
  induction s generalizing t with
  | nil =>
    cases t with
    | nil => exact absurd rfl hne
    | cons b t => simp at hlen
  | cons a s ih =>
    cases t with
    | nil => simp at hlen
    | cons b t =>
      simp only [List.cons_append, le]
      by_cases hab : a = b
      · subst hab
        rw [ih (by simpa using hlen) (by simpa using hne)]
      · rw [beq_false_of_ne hab, Bool.false_and, Bool.false_and]

/-- A text is in order with itself. -/
theorem le_refl (s : Text) : le s s = true := by
  have h := le_total s s
  rwa [Bool.or_self] at h

/-- Texts in order stay in order when the same is put behind both of them, as long as it begins with
a byte that is below whatever the second one has behind the first one. -/
theorem le_append_of_le {s t : Text} (h : le s t = true) {b : UInt8} (u : Text)
    (hb : ∀ c rest, t = s ++ c :: rest → b < c) : le (s ++ b :: u) (t ++ b :: u) = true := by
  induction s generalizing t with
  | nil =>
    cases t with
    | nil => simp [le_refl]
    | cons c t => simp [le, hb c t rfl]
  | cons a s ih =>
    cases t with
    | nil => cases h
    | cons a' t =>
      simp only [le, Bool.or_eq_true, decide_eq_true_eq, Bool.and_eq_true, beq_iff_eq] at h
      simp only [List.cons_append, le, Bool.or_eq_true, decide_eq_true_eq, Bool.and_eq_true,
        beq_iff_eq]
      rcases h with hlt | ⟨rfl, hle⟩
      · exact .inl hlt
      · exact .inr ⟨rfl, ih hle fun c rest ht => hb c rest (by rw [ht, List.cons_append])⟩

/-- Sorted texts are in order. -/
theorem pairwise_sort (ts : List Text) : (sort ts).Pairwise fun s t => le s t = true := by
  apply List.pairwise_mergeSort
  · intro s t u
    exact le_trans
  · exact le_total

/-- To sort texts brings none and takes none away. -/
theorem mem_sort {ts : List Text} {t : Text} : t ∈ sort ts ↔ t ∈ ts :=
  List.mem_mergeSort

/-- The last of the sorted texts is the one behind which no other one sorts. It is the copy that
restoring takes. -/
theorem getLast?_sort {ts : List Text} {m : Text} :
    (sort ts).getLast? = some m ↔ m ∈ ts ∧ ∀ t ∈ ts, le t m = true := by
  have hbefore {init : List Text} {last : Text} (h : sort ts = init ++ [last]) :
      ∀ t ∈ ts, le t last = true := by
    intro t ht
    have hsorted := pairwise_sort ts
    rw [h, List.pairwise_append] at hsorted
    rcases List.mem_append.1 (h ▸ mem_sort.2 ht) with ht | ht
    · exact hsorted.2.2 t ht last (List.mem_singleton_self last)
    · rw [List.mem_singleton.1 ht]
      exact le_refl last
  rcases List.eq_nil_or_concat (sort ts) with hnil | ⟨init, last, hlast⟩
  · rw [hnil]
    simp only [List.getLast?_nil, reduceCtorEq, false_iff, not_and]
    intro hm
    have := mem_sort.2 hm
    simp [hnil] at this
  · rw [List.concat_eq_append] at hlast
    have hmem : last ∈ ts := by
      rw [← mem_sort, hlast]
      simp
    rw [hlast, List.getLast?_concat, Option.some.injEq]
    constructor
    · rintro rfl
      exact ⟨hmem, hbefore hlast⟩
    · rintro ⟨hm, hlatest⟩
      exact le_antisymm (hlatest last hmem) (hbefore hlast m hm)

/-- A list in order that has the same members is the sorted one. -/
theorem eq_sort_of_perm {ts us : List Text} (hperm : us.Perm ts)
    (hsorted : us.Pairwise fun s t => le s t = true) : us = sort ts := by
  have hsame : us.Perm (sort ts) := hperm.trans (List.mergeSort_perm ts le).symm
  apply List.Perm.eq_of_pairwise ?_ hsorted (pairwise_sort ts) hsame
  intro s t _ _ hst hts
  exact le_antisymm hst hts

/-- The order in which texts are given does not show once they are sorted. -/
theorem sort_eq_of_perm {ts us : List Text} (h : us.Perm ts) : sort us = sort ts :=
  eq_sort_of_perm ((List.mergeSort_perm us le).trans h) (pairwise_sort us)

end NovelScript.Text
