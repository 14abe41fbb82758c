import NovelScript.Script.Pass

/-!
# What an action does to a pass

The state of a pass and what a token asks for meet in `Action.perform` only, so this is where
everything that holds of single steps is said:

* `Pass.Sound` is the invariant: the level is not negative, and the flag of the innermost list is
  the top of the stack of lists. **`Action.advances_perform`**: every action keeps it.
* At a level that is a natural number `k` every writing operation succeeds, and what it writes is
  a function of `k` (`indented_of_level`, `line_of_level`, `pieces_of_level`).
* **`Action.perform_eq_error_iff`**: from a sound state an action fails only by closing an item or
  a menu at level zero.
* `Action.advances_of_perform`: an action never takes back what was written.
-/

namespace NovelScript.Script

open Markdown (Kind Token)

/-! ## Writing at a level -/

/-- The blanks of a level that is a natural number. -/
@[simp] theorem indent_natCast (k : Nat) : indent (k : Int) = .ok (margin k) := by
  simp [indent]

/-- A line of the script at a level. -/
def lineAt (k : Nat) (s : Text) : Text :=
  margin k ++ s ++ [Text.newline]

namespace Pass

/-- Writing puts the text behind what was written. -/
@[simp] theorem out_write (p : Pass) (s : Text) : (p.write s).out = p.out ++ s := rfl

/-- Writing does not change the level. -/
@[simp] theorem level_write (p : Pass) (s : Text) : (p.write s).level = p.level := rfl

/-- Writing does not change whether a menu is conditional. -/
@[simp] theorem conditional_write (p : Pass) (s : Text) :
    (p.write s).conditional = p.conditional := rfl

/-- Writing opens and closes no list. -/
@[simp] theorem lists_write (p : Pass) (s : Text) : (p.write s).lists = p.lists := rfl

/-- Writing opens and closes no quote. -/
@[simp] theorem quotes_write (p : Pass) (s : Text) : (p.write s).quotes = p.quotes := rfl

/-- To write nothing changes nothing. -/
@[simp] theorem write_nil (p : Pass) : p.write [] = p := by
  simp [write]

/-- Texts are written one after the other. -/
@[simp] theorem write_write (p : Pass) (s t : Text) : (p.write s).write t = p.write (s ++ t) := by
  simp [write]

/-- At a level that is a number a text is written behind its margin. -/
theorem indented_of_level {p : Pass} {k : Nat} (h : p.level = k) (f : Text → Text) :
    p.indented f = .ok (p.write (f (margin k))) := by
  unfold indented
  rw [h, indent_natCast]
  rfl

/-- At a level that is a number a line is written behind its margin, with a line break at its
end. -/
theorem line_of_level {p : Pass} {k : Nat} (h : p.level = k) (s : Text) :
    p.line s = .ok (p.write (lineAt k s)) :=
  indented_of_level h _

/-- The lines of a list, one after the other. -/
theorem foldlM_line_of_level {k : Nat} (ls : List Text) {p : Pass} (h : p.level = k) :
    ls.foldlM line p = .ok (p.write (ls.flatMap (lineAt k))) := by
  induction ls generalizing p with
  | nil => simp [pure, Except.pure]
  | cons l ls ih =>
    rw [List.foldlM_cons, line_of_level h]
    have hq : (p.write (lineAt k l)).level = k := h
    simp only [bind, Except.bind, ih hq, write_write, List.flatMap_cons]

/-- At a level that is a number each piece that says something is a line of its own. -/
theorem pieces_of_level {p : Pass} {k : Nat} (h : p.level = k) (s : Setting)
    (ps : List Markdown.Piece) :
    p.pieces s ps = .ok (p.write ((ps.filterMap (pieceLine s)).flatMap (lineAt k))) :=
  foldlM_line_of_level _ h

/-! ## The invariant -/

/-- The invariant of a pass between two tokens: the level is not negative, and the flag says what
the innermost open list is (`false` when none is open). -/
structure Sound (p : Pass) : Prop where
  level_nonneg : 0 ≤ p.level
  conditional_eq : p.conditional = p.lists.headD false

/-- The pass that has not read anything is sound. -/
theorem sound_start : Sound {} := ⟨Int.le_refl 0, rfl⟩

namespace Sound

/-- In a sound state the level is a number; it is an integer in the program only because it could
get below zero. -/
theorem exists_level {p : Pass} (h : p.Sound) : ∃ k : Nat, p.level = k :=
  Int.eq_ofNat_of_zero_le h.level_nonneg

/-- Writing keeps a state sound. -/
theorem write {p : Pass} (h : p.Sound) (s : Text) : (p.write s).Sound :=
  ⟨h.level_nonneg, h.conditional_eq⟩

/-- A heading keeps a state sound, since it sets the level to one. -/
theorem heading {p : Pass} (h : p.Sound) (s : Setting) (content : Text) :
    (p.heading s content).Sound := by
  unfold Pass.heading
  split
  · exact ⟨by simp, h.conditional_eq⟩
  · exact ⟨by simp, h.conditional_eq⟩

end Sound

/-! ## Single operations

At a level `k` the state after each operation is known in full. -/

/-- To open a quote writes `extend ` behind the margin, without a line break, and remembers where it
did. -/
theorem openQuote_of_level {p : Pass} {k : Nat} (h : p.level = k) :
    p.openQuote = .ok { p with
      out := p.out ++ (margin k ++ Text.lit "extend ")
      level := (k - 1 : Nat)
      quotes := decide (0 < k) :: p.quotes } := by
  have hl : (if (0 : Int) < k then (k : Int) - 1 else k) = (k - 1 : Nat) := by
    split <;> omega
  unfold openQuote
  rw [indented_of_level h, h, hl]
  simp [Except.map, write]

/-- A list of branches only opens; any other list starts a menu, which writes a line and goes one
level down. -/
theorem openList_of_level {p : Pass} {k : Nat} (h : p.level = k) (first : Text) :
    p.openList first = .ok (if Text.startsWith [question] first
      then { p with lists := true :: p.lists, conditional := true }
      else { p with
        out := p.out ++ lineAt k (Text.lit "menu:")
        level := (k + 1 : Nat)
        conditional := false
        lists := false :: p.lists }) := by
  unfold openList
  cases hb : Text.startsWith [question] first with
  | true => rfl
  | false =>
    have hq : ({ p with lists := false :: p.lists, conditional := false } : Pass).level = k := h
    simp only [Bool.false_eq_true, if_false, line_of_level hq]
    simp [Except.map, nest, write, h]

/-- To open an item writes its header and goes one level down. -/
theorem openItem_of_level {p : Pass} {k : Nat} (h : p.level = k) (label : Text) :
    p.openItem label = .ok { p with
      out := p.out ++ lineAt k (headerText label)
      level := (k + 1 : Nat) } := by
  unfold openItem
  rw [line_of_level h]
  simp [Except.map, nest, write, h]

/-- Going up from a level that is not zero. -/
theorem dedent_of_level_succ {p : Pass} {k : Nat} (h : p.level = (k + 1 : Nat)) :
    p.dedent = .ok { p with level := k } := by
  unfold dedent
  rw [if_neg (by omega), h]
  simp

/-- There is no level above the first one; to ask for it is the failure of an invalid indent. -/
theorem dedent_of_level_zero {p : Pass} (h : p.level = 0) :
    p.dedent = .error (.invalidIndent (-1)) := by
  simp [dedent, h]

/-- What stands behind a heading: its line, behind an empty line when something is written. -/
theorem out_heading (s : Setting) (p : Pass) (content : Text) :
    (p.heading s content).out =
      p.out ++ ((if !p.out.isEmpty then [Text.newline] else []) ++ labelLine s content) := by
  cases hout : p.out with
  | nil => simp [heading, hout]
  | cons b out => simp [heading, hout]

/-! ## Actions on sound states -/

/-- The operation went on from `p`: it gave a sound state, and what was written is still there. -/
def Advances (p : Pass) (r : Except PassError Pass) : Prop :=
  ∃ q, r = .ok q ∧ q.Sound ∧ p.out <+: q.out

/-- A sound state with text behind what `p` wrote is an advance. -/
theorem Advances.of_out {p q : Pass} (s : Text) (hq : q.Sound) (ho : q.out = p.out ++ s) :
    Advances p (.ok q) :=
  ⟨q, rfl, hq, s, ho.symm⟩

/-- A sound state with the text of `p` is an advance. -/
theorem Advances.of_out_eq {p q : Pass} (hq : q.Sound) (ho : q.out = p.out) :
    Advances p (.ok q) :=
  ⟨q, rfl, hq, ho ▸ List.prefix_rfl⟩

/-- Writing is a step from a sound state to a sound state. -/
theorem Sound.advances_write {p : Pass} (h : p.Sound) (s : Text) : Advances p (.ok (p.write s)) :=
  .of_out s (h.write s) rfl

/-- To write an indented text is a step from a sound state to a sound state. -/
theorem Sound.advances_indented {p : Pass} (h : p.Sound) (f : Text → Text) :
    Advances p (p.indented f) := by
  obtain ⟨k, hk⟩ := h.exists_level
  rw [indented_of_level hk]
  exact h.advances_write _

/-- To write pieces is a step from a sound state to a sound state. -/
theorem Sound.advances_pieces {p : Pass} (h : p.Sound) (s : Setting) (ps : List Markdown.Piece) :
    Advances p (p.pieces s ps) := by
  obtain ⟨k, hk⟩ := h.exists_level
  rw [pieces_of_level hk]
  exact h.advances_write _

/-- To open a quote is a step from a sound state to a sound state. -/
theorem Sound.advances_openQuote {p : Pass} (h : p.Sound) : Advances p p.openQuote := by
  obtain ⟨k, hk⟩ := h.exists_level
  rw [openQuote_of_level hk]
  exact .of_out _ ⟨Int.natCast_nonneg _, h.conditional_eq⟩ rfl

/-- To close a quote is a step from a sound state to a sound state. -/
theorem Sound.advances_closeQuote {p : Pass} (h : p.Sound) : Advances p (.ok p.closeQuote) := by
  have hl := h.level_nonneg
  unfold closeQuote
  split
  · exact .of_out_eq h rfl
  · refine .of_out_eq ⟨?_, h.conditional_eq⟩ rfl
    simp only
    split <;> omega

/-- A heading is a step from a sound state to a sound state. -/
theorem Sound.advances_heading {p : Pass} (h : p.Sound) (s : Setting) (content : Text) :
    Advances p (.ok (p.heading s content)) :=
  .of_out _ (h.heading s content) (out_heading s p content)

/-- To open a list is a step from a sound state to a sound state. -/
theorem Sound.advances_openList {p : Pass} (h : p.Sound) (first : Text) :
    Advances p (p.openList first) := by
  obtain ⟨k, hk⟩ := h.exists_level
  rw [openList_of_level hk]
  split
  · exact .of_out_eq ⟨h.level_nonneg, rfl⟩ rfl
  · exact .of_out _ ⟨Int.natCast_nonneg _, rfl⟩ rfl

/-- To open an item is a step from a sound state to a sound state. -/
theorem Sound.advances_openItem {p : Pass} (h : p.Sound) (label : Text) :
    Advances p (p.openItem label) := by
  obtain ⟨k, hk⟩ := h.exists_level
  rw [openItem_of_level hk]
  exact .of_out _ ⟨Int.natCast_nonneg _, h.conditional_eq⟩ rfl

/-- To go up one level is such a step wherever there is one to go up from. -/
theorem Sound.advances_dedent {p : Pass} (h : p.Sound) (hl : p.level ≠ 0) :
    Advances p p.dedent := by
  obtain ⟨k, hk⟩ := h.exists_level
  obtain ⟨j, rfl⟩ : ∃ j, k = j + 1 := ⟨k - 1, by omega⟩
  rw [dedent_of_level_succ hk]
  exact .of_out_eq ⟨Int.natCast_nonneg _, h.conditional_eq⟩ rfl

end Pass

namespace Action

open Pass (Advances Sound)

/-- The action closes an item, or the menu of the innermost list, at level zero. -/
def Overcloses (a : Action) (p : Pass) : Prop :=
  p.level = 0 ∧ (a = .closeItem ∨ a = .closeList ∧ p.lists.head? = some false)

/-- To close what is not open fails, and with the level that would have been reached. -/
theorem perform_of_overcloses {a : Action} {p : Pass} (h : a.Overcloses p) (s : Setting) :
    a.perform s p = .error (.invalidIndent (-1)) := by
  obtain ⟨hl, rfl | ⟨rfl, hh⟩⟩ := h
  · exact Pass.dedent_of_level_zero hl
  · obtain ⟨lists, hlists⟩ := List.head?_eq_some_iff.mp hh
    simp only [perform, Pass.closeList, hlists, Bool.false_eq_true, if_false]
    exact Pass.dedent_of_level_zero hl

/-- To close a list is a step from a sound state to a sound state, unless it would go above the
first level. -/
theorem advances_closeList {p : Pass} (h : p.Sound) (ho : ¬ closeList.Overcloses p) :
    Advances p p.closeList := by
  unfold Pass.closeList
  split
  · exact .of_out_eq h rfl
  · rename_i branches lists hlists
    have hq : Sound { p with lists := lists, conditional := lists.headD false } :=
      ⟨h.level_nonneg, rfl⟩
    cases branches with
    | true => exact .of_out_eq hq rfl
    | false =>
      have hl : p.level ≠ 0 := fun hl => ho ⟨hl, .inr ⟨rfl, by simp [hlists]⟩⟩
      exact hq.advances_dedent hl

/-- **Every action keeps the invariant**: from a sound state it goes on to a sound state, unless it
closes what is not open. -/
theorem advances_perform {p : Pass} (h : p.Sound) {a : Action} (ho : ¬ a.Overcloses p)
    (s : Setting) : Advances p (a.perform s p) := by
  cases a with
  | escape content => exact h.advances_indented _
  | openQuote => exact h.advances_openQuote
  | code content => exact h.advances_indented _
  | pieces ps => exact h.advances_pieces s ps
  | heading content => exact h.advances_heading s content
  | openList first => exact h.advances_openList first
  | openItem label => exact h.advances_openItem label
  | closeItem => exact h.advances_dedent fun hl => ho ⟨hl, .inl rfl⟩
  | closeList => exact advances_closeList h ho
  | closeQuote => exact h.advances_closeQuote
  | remark content => exact h.advances_indented _
  | skip => exact .of_out_eq h rfl

/-- **When an action fails**: exactly when it closes an item or a menu at level zero. -/
theorem perform_eq_error_iff {p : Pass} (h : p.Sound) {a : Action} {s : Setting} {e : PassError} :
    a.perform s p = .error e ↔ a.Overcloses p ∧ e = .invalidIndent (-1) := by
  constructor
  · intro he
    by_cases ho : a.Overcloses p
    · rw [perform_of_overcloses ho] at he
      cases he
      exact ⟨ho, rfl⟩
    · obtain ⟨q, hq, -⟩ := advances_perform h ho s
      rw [hq] at he
      cases he
  · rintro ⟨ho, rfl⟩
    exact perform_of_overcloses ho s

/-- An action that succeeds goes from a sound state to a sound one and takes nothing back. -/
theorem advances_of_perform {p q : Pass} (h : p.Sound) {a : Action} {s : Setting}
    (hp : a.perform s p = .ok q) : q.Sound ∧ p.out <+: q.out := by
  have ho : ¬ a.Overcloses p := by
    intro ho
    rw [perform_of_overcloses ho] at hp
    cases hp
  obtain ⟨q', hq', hs, hout⟩ := advances_perform h ho s
  rw [hp] at hq'
  cases hq'
  exact ⟨hs, hout⟩

end Action

end NovelScript.Script
