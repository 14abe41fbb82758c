import NovelScript.Proofs.Script.Step
import NovelScript.Script.Cursor

/-!
# The loop of a pass over any stream

Streams here are arbitrary: opening and closing tokens need not match, and kinds and contents are
what they are. `Reaches s tokens index p` says that the loop comes to stand before the token at
`index` with the state `p`.

* `Reaches.sound` and `Reaches.index_le_length`: at every such place the state is sound and the
  place is at most the end of the stream.
* `Reaches.run_eq`: from there on the run is the run over what is left.
* `Reaches.ends`: the loop comes to the end of the stream or to a step that fails.
* **`run_eq_error_iff`**: so the errors of a run are the errors of the steps it comes to, and
  **`pass_invariant`** says which those are.
-/

namespace NovelScript.Script

open Markdown (Kind Token)

/-! ## The places of the loop -/

/-- On a natural number the cursor reads the list. -/
theorem Cursor.current?_natCast (tokens : List Token) (index : Nat) :
    (Cursor.mk tokens index).current? = tokens[index]? := by
  have hn : ¬ (index : Int) < 0 := by omega
  simp [Cursor.current?, Cursor.at?, hn]

/-- A cursor is not done exactly when it stands before the end. -/
theorem Cursor.done_natCast (tokens : List Token) (index : Nat) :
    (Cursor.mk tokens index).done = false ↔ index < tokens.length := by
  simp [Cursor.done]

/-- One round of the loop: the current token is read and its step succeeds; the next place is behind
what the step consumed. -/
def Iterates (s : Setting) (tokens : List Token) (index : Nat) (p : Pass) (next : Nat) (q : Pass) :
    Prop :=
  ∃ t extra, (Cursor.mk tokens index).current? = some t ∧
    Pass.step s index t (tokens.drop (index + 1)) p = .ok (q, extra) ∧ next = index + 1 + extra

/-- An action that a token asks for and that succeeds is a round of the loop. -/
theorem Iterates.of_asks {s : Setting} {tokens : List Token} {index : Nat} {p q : Pass} {t : Token}
    {a : Action} (ht : (Cursor.mk tokens index).current? = some t)
    (ha : Asks s t (tokens.drop (index + 1)) a) (hp : a.perform s p = .ok q) :
    Iterates s tokens index p (index + 1 + a.extra) q :=
  ⟨t, a.extra, ht, Pass.step_eq_ok_iff.mpr ⟨a, ha, hp, rfl⟩, rfl⟩

/-- The loop comes to stand at `index` with the state `p`. -/
inductive Reaches (s : Setting) (tokens : List Token) : Nat → Pass → Prop where
  | start : Reaches s tokens 0 {}
  | next {index next : Nat} {p q : Pass} (h : Reaches s tokens index p)
      (hi : Iterates s tokens index p next q) : Reaches s tokens next q

/-- The loop stops at `index` with the state `p` because the step there fails. -/
def Stops (s : Setting) (tokens : List Token) (index : Nat) (p : Pass) (e : PassError) : Prop :=
  ∃ t, (Cursor.mk tokens index).current? = some t ∧
    Pass.step s index t (tokens.drop (index + 1)) p = .error e

/-- A stream behind a place where there is a token. -/
theorem drop_of_current? {tokens : List Token} {index : Nat} {t : Token}
    (h : (Cursor.mk tokens index).current? = some t) :
    index < tokens.length ∧ tokens.drop index = t :: tokens.drop (index + 1) := by
  rw [Cursor.current?_natCast] at h
  obtain ⟨hlt, rfl⟩ := List.getElem?_eq_some_iff.mp h
  exact ⟨hlt, List.drop_eq_getElem_cons hlt⟩

/-- **A round keeps the invariant**, moves forward and stays within the stream. -/
theorem Iterates.advances {s : Setting} {tokens : List Token} {index next : Nat} {p q : Pass}
    (hi : Iterates s tokens index p next q) (h : p.Sound) :
    q.Sound ∧ index < next ∧ next ≤ tokens.length := by
  obtain ⟨t, extra, ht, hs, rfl⟩ := hi
  obtain ⟨hq, -, hextra⟩ := Pass.sound_of_step h hs
  obtain ⟨hlt, -⟩ := drop_of_current? ht
  rw [List.length_drop] at hextra
  exact ⟨hq, by omega, by omega⟩

namespace Reaches

variable {s : Setting} {tokens : List Token} {index : Nat} {p : Pass}

/-- What is reached by steps from the start is sound. -/
theorem sound (h : Reaches s tokens index p) : p.Sound := by
  induction h with
  | start => exact Pass.sound_start
  | next _ hi ih => exact (hi.advances ih).1

/-- The position never leaves the tokens. -/
theorem index_le_length (h : Reaches s tokens index p) : index ≤ tokens.length := by
  cases h with
  | start => exact Nat.zero_le _
  | next h hi => exact (hi.advances h.sound).2.2

/-- What the whole run gives is what the run gives from any place it comes to. -/
theorem run_eq (h : Reaches s tokens index p) :
    Pass.run s 0 tokens {} = Pass.run s index (tokens.drop index) p := by
  induction h with
  | start => rw [List.drop_zero]
  | next _ hi ih =>
    obtain ⟨t, extra, ht, hs, rfl⟩ := hi
    rw [ih, (drop_of_current? ht).2, Pass.run_of_step hs, List.drop_drop]

/-- Where the pass is stopped, it fails with what stopped it. -/
theorem run_eq_error (h : Reaches s tokens index p) {e : PassError}
    (hs : Stops s tokens index p e) : Pass.run s 0 tokens {} = .error e := by
  obtain ⟨t, ht, hs⟩ := hs
  rw [h.run_eq, (drop_of_current? ht).2, Pass.run_of_step_error hs]

/-- Where the pass reaches the end of the tokens, it ends in the state reached there. -/
theorem run_eq_ok (h : Reaches s tokens tokens.length p) : Pass.run s 0 tokens {} = .ok p := by
  rw [h.run_eq, List.drop_length, Pass.run_nil]

/-- From every place the loop comes to the end of the stream or to a step that fails. The induction
is on what is left of the stream, as a step takes one token at least. -/
theorem ends (h : Reaches s tokens index p) :
    (∃ q, Reaches s tokens tokens.length q) ∨
      ∃ last q e, Reaches s tokens last q ∧ Stops s tokens last q e := by
  -- each round leaves fewer tokens
  induction hn : tokens.length - index using Nat.strongRecOn generalizing index p with
  | ind n ih =>
    rcases Nat.lt_or_ge index tokens.length with hlt | hge
    · have ht : (Cursor.mk tokens index).current? = some tokens[index] := by
        rw [Cursor.current?_natCast, List.getElem?_eq_getElem hlt]
      cases hs : Pass.step s index tokens[index] (tokens.drop (index + 1)) p with
      | error e => exact .inr ⟨index, p, e, h, _, ht, hs⟩
      | ok r =>
        obtain ⟨q, extra⟩ := r
        have hnext := h.next ⟨_, extra, ht, hs, rfl⟩
        exact ih _ (by omega) hnext rfl
    · have hend : index = tokens.length := Nat.le_antisymm h.index_le_length hge
      subst hend
      exact .inl ⟨p, h⟩

end Reaches

/-! ## The outcome of a pass -/

variable {s : Setting} {tokens : List Token}

/-- A pass that gives a script comes to the end of the stream. -/
theorem run_eq_ok_iff {p : Pass} :
    Pass.run s 0 tokens {} = .ok p ↔ Reaches s tokens tokens.length p := by
  constructor
  · intro hr
    rcases (Reaches.start : Reaches s tokens 0 {}).ends with ⟨q, hq⟩ | ⟨last, q, e, hq, hs⟩
    · rw [hq.run_eq_ok] at hr
      cases hr
      exact hq
    · rw [hq.run_eq_error hs] at hr
      cases hr
  · exact Reaches.run_eq_ok

/-- **The errors of a pass** are the errors of the steps that its loop comes to. -/
theorem run_eq_error_iff {e : PassError} :
    Pass.run s 0 tokens {} = .error e ↔
      ∃ index p, Reaches s tokens index p ∧ Stops s tokens index p e := by
  constructor
  · intro hr
    rcases (Reaches.start : Reaches s tokens 0 {}).ends with ⟨q, hq⟩ | ⟨last, q, e', hq, hs⟩
    · rw [hq.run_eq_ok] at hr
      cases hr
    · rw [hq.run_eq_error hs] at hr
      cases hr
      exact ⟨last, q, hq, hs⟩
  · rintro ⟨index, p, h, hs⟩
    exact h.run_eq_error hs

/-- The whole pass fails exactly when its loop does, and for the same cause; nothing behind the loop
can fail. -/
theorem ofTokens_eq_error_iff {e : PassError} :
    ofTokens s tokens = .error e ↔ Pass.run s 0 tokens {} = .error e := by
  unfold ofTokens
  cases Pass.run s 0 tokens {} <;> simp [Except.map]

/-- A pass stops for want of a token at `index` exactly when its loop comes to that place and the
token there lacks what it needs. -/
theorem ofTokens_eq_malformed_iff {index : Nat} {kind : Kind} {need : Need} :
    ofTokens s tokens = .error (.malformed index kind need) ↔
      ∃ p t, Reaches s tokens index p ∧ (Cursor.mk tokens index).current? = some t ∧
        s.escapes t = false ∧ t.kind = kind ∧ Lacks kind (tokens.drop (index + 1)) need := by
  rw [ofTokens_eq_error_iff, run_eq_error_iff]
  constructor
  · rintro ⟨i, p, h, t, ht, hs⟩
    obtain ⟨he, ⟨need', hl, hm⟩ | ⟨-, hm⟩⟩ := (Pass.step_eq_error_iff h.sound).mp hs
    · cases hm
      exact ⟨p, t, h, ht, he, rfl, hl⟩
    · cases hm
  · rintro ⟨p, t, h, ht, he, rfl, hl⟩
    exact ⟨index, p, h, t, ht, (Pass.step_eq_error_iff h.sound).mpr ⟨he, .inl ⟨need, hl, rfl⟩⟩⟩

/-- A pass stops for its indentation exactly when its loop comes to a token that closes too much. -/
theorem ofTokens_eq_invalidIndent_iff {level : Int} :
    ofTokens s tokens = .error (.invalidIndent level) ↔ level = -1 ∧
      ∃ index p t, Reaches s tokens index p ∧ (Cursor.mk tokens index).current? = some t ∧
        s.escapes t = false ∧ Overcloses t p := by
  rw [ofTokens_eq_error_iff, run_eq_error_iff]
  constructor
  · rintro ⟨index, p, h, t, ht, hs⟩
    obtain ⟨he, ⟨need', -, hm⟩ | ⟨ho, hm⟩⟩ := (Pass.step_eq_error_iff h.sound).mp hs
    · cases hm
    · cases hm
      exact ⟨rfl, index, p, t, h, ht, he, ho⟩
  · rintro ⟨rfl, index, p, t, h, ht, he, ho⟩
    exact ⟨index, p, h, t, ht, (Pass.step_eq_error_iff h.sound).mpr ⟨he, .inr ⟨ho, rfl⟩⟩⟩

/-- **The invariant of a pass over any stream.** Wherever the loop comes to stand, the level is not
negative, the flag is the top of the stack of lists, and the place is within the stream; where the
cursor is not done there is a current token, and a round moves strictly forward to a place within
the stream. So the loop ends: with a script at the end of the stream, or with an error. It is
`malformed` exactly when the token at that place is not escaped and really lacks what a token of its
kind needs, and `invalidIndent` exactly when a token that is not escaped closes an item, or the
menu of the innermost list, at level zero. -/
theorem pass_invariant (s : Setting) (tokens : List Token) :
    (∀ index p, Reaches s tokens index p →
      0 ≤ p.level ∧ p.conditional = p.lists.headD false ∧ index ≤ tokens.length ∧
      ((Cursor.mk tokens index).done = false →
        ∃ t, (Cursor.mk tokens index).current? = some t) ∧
      ∀ next q, Iterates s tokens index p next q → index < next ∧ next ≤ tokens.length) ∧
    ((∃ p, Reaches s tokens tokens.length p ∧ ofTokens s tokens = .ok p.out) ∨
      ∃ e, ofTokens s tokens = .error e) ∧
    (∀ index kind need, ofTokens s tokens = .error (.malformed index kind need) ↔
      ∃ p t, Reaches s tokens index p ∧ (Cursor.mk tokens index).current? = some t ∧
        s.escapes t = false ∧ t.kind = kind ∧ Lacks kind (tokens.drop (index + 1)) need) ∧
    (∀ level, ofTokens s tokens = .error (.invalidIndent level) ↔ level = -1 ∧
      ∃ index p t, Reaches s tokens index p ∧ (Cursor.mk tokens index).current? = some t ∧
        s.escapes t = false ∧ Overcloses t p) := by
  refine ⟨?_, ?_, fun _ _ _ => ofTokens_eq_malformed_iff, fun _ => ofTokens_eq_invalidIndent_iff⟩
  · intro index p h
    refine ⟨h.sound.level_nonneg, h.sound.conditional_eq, h.index_le_length, ?_, ?_⟩
    · intro hd
      rw [Cursor.done_natCast] at hd
      rw [Cursor.current?_natCast]
      exact ⟨tokens[index], List.getElem?_eq_getElem hd⟩
    · intro next q hi
      exact (hi.advances h.sound).2
  · rcases (Reaches.start : Reaches s tokens 0 {}).ends with ⟨q, hq⟩ | ⟨last, q, e, hq, hs⟩
    · refine .inl ⟨q, hq, ?_⟩
      unfold ofTokens
      rw [hq.run_eq_ok]
      rfl
    · exact .inr ⟨e, ofTokens_eq_error_iff.mpr (hq.run_eq_error hs)⟩

end NovelScript.Script
