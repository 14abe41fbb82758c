import Mathlib.Data.List.Basic

/-!
# Lists that are parts of arrays

A list is kept in an array, as the first so many of its values. What is appended to the list goes
behind it in the array as long as there is room, over whatever stands there, and into a new array
otherwise. How much room a new array gets is left open (`grow`). Two lists that are parts of one
array could get into each other's way like this.

* **`Rows.Owns.append`**: a list in an array of its own can be appended to without a change to the
  arrays that were there before.
* **`Rows.Keeps.mono`**: as long as these stay, the lists in them stay.
-/

namespace NovelScript.Log

/-! ## Arrays -/

/-- An array: the values in it so far, and for how many it has room. -/
structure Row (α : Type) where
  /-- The values so far. -/
  values : List α
  /-- For how many there is room. -/
  room : Nat

/-- A list that is kept in an array: the array, and how many of its values from the first one on. -/
structure Part where
  /-- The number of the array. -/
  row : Nat
  /-- How many values. -/
  length : Nat

/-- Arrays by their numbers. -/
abbrev Rows (α : Type) := List (Row α)

section

variable {α : Type}

/-- What is at a place of a list is still there when the list goes on. -/
theorem getElem?_mono {l l' : List α} (h : l <+: l') {i : Nat} {a : α} (hi : l[i]? = some a) :
    l'[i]? = some a := by
  obtain ⟨more, rfl⟩ := h
  rw [List.getElem?_append_left (List.getElem?_eq_some_iff.mp hi).1, hi]

/-- The array with values written from place `n` on. -/
def Row.write (row : Row α) (n : Nat) (xs : List α) : Row α :=
  { row with values := row.values.take n ++ xs ++ row.values.drop (n + xs.length) }

namespace Rows

/-- The values of a list. A list without an array has none. -/
def read (rows : Rows α) : Option Part → List α
  | none => []
  | some p => (rows[p.row]?.elim [] Row.values).take p.length

/-- For how many values the array of a list has room. -/
def room (rows : Rows α) (part : Option Part) : Nat :=
  (part.bind fun p => rows[p.row]?).elim 0 Row.room

/-- A list in a new array that has room for it and for some more. -/
def fresh (rows : Rows α) (xs : List α) (room : Nat) : Rows α × Option Part :=
  (rows ++ [⟨xs, max xs.length room⟩], some ⟨rows.length, xs.length⟩)

/-- Appends to a list: in its array when there is room, and in a new one otherwise. -/
def append (grow : Nat → Nat → Nat) (rows : Rows α) (part : Option Part) (xs : List α) :
    Rows α × Option Part :=
  let elsewhere :=
    let all := rows.read part ++ xs
    rows.fresh all (grow (rows.room part) all.length)
  match part with
  | none => if xs.isEmpty then (rows, none) else elsewhere
  | some p =>
    if p.length + xs.length ≤ rows.room part then
      (rows.modify p.row (·.write p.length xs), some ⟨p.row, p.length + xs.length⟩)
    else elsewhere

/-! ## Lists that are kept -/

/-- The arrays keep `xs` as this list. -/
def Keeps (rows : Rows α) (part : Option Part) (xs : List α) : Prop :=
  match part with
  | none => xs = []
  | some p => ∃ row, rows[p.row]? = some row ∧ xs <+: row.values ∧ xs.length = p.length

variable {rows rows' base : Rows α} {part : Option Part} {xs : List α}

/-- What is kept in a part of an array is what is read there. -/
theorem Keeps.read (h : Keeps rows part xs) : rows.read part = xs := by
  cases part with
  | none => exact h.symm
  | some p =>
    obtain ⟨row, hrow, hpre, hlength⟩ := h
    rw [Rows.read, hrow, ← hlength]
    exact (List.prefix_iff_eq_take.mp hpre).symm

/-- New arrays leave a list as it is. -/
theorem Keeps.mono (h : Keeps rows part xs) (hrows : rows <+: rows') : Keeps rows' part xs := by
  cases part with
  | none => exact h
  | some p =>
    obtain ⟨row, hrow, hpre⟩ := h
    exact ⟨row, getElem?_mono hrows hrow, hpre⟩

/-- A list in an array that is not among the arrays `base`, which are all still there. -/
structure Owns (base rows : Rows α) (part : Option Part) (xs : List α) : Prop where
  /-- The arrays are still there. -/
  there : base <+: rows
  /-- The list is in none of them. -/
  fresh : ∀ p, part = some p → base.length ≤ p.row
  /-- The list. -/
  keeps : Keeps rows part xs

/-- Without an array nothing is kept, and the list is empty. -/
theorem owns_none (rows : Rows α) : Owns rows rows none [] :=
  ⟨List.prefix_refl rows, by simp, rfl⟩

/-- A list that is put into a fresh array is kept there, whatever room is left behind it. -/
theorem owns_fresh (h : base <+: rows) (xs : List α) (room : Nat) :
    Owns base (rows.fresh xs room).1 (rows.fresh xs room).2 xs where
  there := h.trans (List.prefix_append rows _)
  fresh := by
    rintro p ⟨rfl⟩
    exact h.length_le
  keeps := ⟨_, List.getElem?_concat_length, List.prefix_refl xs, rfl⟩

/-- **What is appended to such a list changes none of the arrays that were there before.** The cases
are those of the program: no array yet, room in the array, and an array that is full. -/
theorem Owns.append (h : Owns base rows part xs) (grow : Nat → Nat → Nat) (ys : List α) :
    Owns base (rows.append grow part ys).1 (rows.append grow part ys).2 (xs ++ ys) := by
  have helsewhere (room : Nat) : Owns base (rows.fresh (rows.read part ++ ys) room).1
      (rows.fresh (rows.read part ++ ys) room).2 (xs ++ ys) := by
    rw [h.keeps.read]
    exact owns_fresh h.there _ room
  cases part with
  | none =>
    unfold Rows.append
    dsimp only
    split
    · rename_i hempty
      rw [List.isEmpty_iff.mp hempty, List.append_nil]
      exact h
    · exact helsewhere _
  | some p =>
    unfold Rows.append
    dsimp only
    split
    -- with room the array is written, and it is none of the old ones
    · obtain ⟨row, hrow, hpre, hlength⟩ := h.keeps
      have htake : row.values.take p.length = xs := by
        rw [← hlength]
        exact (List.prefix_iff_eq_take.mp hpre).symm
      refine ⟨?_, ?_, row.write p.length ys, ?_, ?_, ?_⟩
      · rw [List.prefix_iff_getElem?]
        intro i hi
        have hne : p.row ≠ i := by
          have hp := h.fresh p rfl
          omega
        dsimp only
        rw [List.getElem?_modify_ne _ _ hne]
        exact List.prefix_iff_getElem?.mp h.there i hi
      · rintro q ⟨rfl⟩
        exact h.fresh p rfl
      · rw [List.getElem?_modify_eq, hrow]
        rfl
      · rw [Row.write, htake]
        exact List.prefix_append _ _
      · rw [List.length_append, hlength]
    · exact helsewhere _

/-- Any number of additions leave the list with these behind it, whether or not the array has to
grow on the way. This is the induction behind adding a record's attributes one by one. -/
theorem Owns.foldl_append (h : Owns base rows part xs) (grow : Nat → Nat → Nat) (ys : List α) :
    Owns base
      (ys.foldl (fun (s : Rows α × Option Part) y => s.1.append grow s.2 [y]) (rows, part)).1
      (ys.foldl (fun (s : Rows α × Option Part) y => s.1.append grow s.2 [y]) (rows, part)).2
      (xs ++ ys) := by
  induction ys generalizing rows part xs with
  | nil => rwa [List.append_nil]
  | cons y ys ih =>
    rw [List.append_cons]
    exact ih (h.append grow [y])

end Rows

end

end NovelScript.Log
