/-!
# Loops that end

A turn of a loop goes on with another state or leaves with a result; nothing in a turn says that the
loop ever leaves. `Exits turn n a b` says that it does: in its turn number `n` from the state `a`,
with the result `b`.

**`exists_exits`** is how loops here are shown to end, and with what: every turn makes the state
smaller and does not change what the rest of the loop is to give.
-/

namespace NovelScript

variable {α β : Type} {turn : α → α ⊕ β}

/-- From `a` the loop leaves with `b` in turn number `n`. -/
inductive Exits (turn : α → α ⊕ β) : Nat → α → β → Prop where
  | last {a : α} {b : β} (h : turn a = .inr b) : Exits turn 1 a b
  | more {n : Nat} {a next : α} {b : β} (h : turn a = .inl next) (hn : Exits turn n next b) :
    Exits turn (n + 1) a b

/-- A loop whose turns keep `result`, make `size` smaller and leave with `result` ends with it. The
loops of the program are unbounded, and this is how each of them is known to end, and with what. -/
theorem exists_exits (result : α → β) (size : α → Nat)
    (hlast : ∀ a b, turn a = .inr b → b = result a)
    (hmore : ∀ a next, turn a = .inl next → result next = result a ∧ size next < size a) (a : α) :
    ∃ n ≤ size a + 1, Exits turn n a (result a) := by
  induction hn : size a using Nat.strongRecOn generalizing a with
  | ind n ih =>
    cases hturn : turn a with
    | inr b =>
      obtain rfl := hlast a b hturn
      exact ⟨1, by omega, .last hturn⟩
    | inl next =>
      obtain ⟨hresult, hsize⟩ := hmore a next hturn
      obtain ⟨m, hm, hexits⟩ := ih (size next) (by omega) next rfl
      rw [hresult] at hexits
      exact ⟨m + 1, by omega, .more hturn hexits⟩

end NovelScript
