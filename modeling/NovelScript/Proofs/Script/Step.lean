import NovelScript.Proofs.Script.Action

/-!
# What a step reads

A step is an action that its token asks for, and only headings, bullet lists and list items look
beyond their own token. `Asks` is the table of actions as a relation; `actionOf_eq_ok_iff` says that
it is what `actionOf` computes. What the lookahead can do:

* `actionOf_eq_error_iff`: an action is refused exactly when the token is not escaped and something
  it needs is missing (`Lacks`).
* `Asks.extra_le_length`: the tokens that an action consumes are there.
* `Asks.append`: an action that was found does not change when more tokens follow.
* **`Pass.step_eq_error_iff`** puts this together with what actions do: from a sound state a step
  stops for want of a token, or by closing an item or a menu at level zero, and for no other
  reason.
-/

namespace NovelScript.Script

open Markdown (Kind Token)

/-! ## Lookahead -/

/-- There is no inline text at a position when the tokens end before it, or another token stands
there. -/
theorem inlineAt?_eq_none_iff {rest : List Token} {n : Nat} :
    inlineAt? rest n = none ↔ ∀ t, rest[n]? = some t → t.isInline = false := by
  simp [inlineAt?, Option.filter_eq_none_iff]

/-- Where inline text is found there is a token. -/
theorem lt_length_of_inlineAt? {rest : List Token} {n : Nat} {content : Text}
    (h : inlineAt? rest n = some content) : n < rest.length := by
  simp only [inlineAt?, Option.map_eq_some_iff, Option.filter_eq_some_iff] at h
  obtain ⟨t, ⟨ht, -⟩, -⟩ := h
  exact (List.getElem?_eq_some_iff.mp ht).1

/-- Inline text that is found is found whatever is put behind. -/
theorem inlineAt?_append {rest : List Token} {n : Nat} {content : Text}
    (h : inlineAt? rest n = some content) (more : List Token) :
    inlineAt? (rest ++ more) n = some content := by
  unfold inlineAt?
  rw [List.getElem?_append_left (lt_length_of_inlineAt? h)]
  exact h

/-- What a token of a kind lacks among the tokens behind it: a heading needs its text in the next
place, a bullet list any token in the third, and an item its label in the second. -/
def Lacks (kind : Kind) (rest : List Token) : Need → Prop
  | .headingText => kind = .headingOpen ∧ ∀ t, rest[0]? = some t → t.isInline = false
  | .firstItem => kind = .bulletListOpen ∧ rest[2]? = none
  | .itemLabel => kind = .listItemOpen ∧ ∀ t, rest[1]? = some t → t.isInline = false

/-- Do tokens of the kind look at the tokens behind them? -/
def looksAhead : Kind → Bool
  | .headingOpen => true
  | .bulletListOpen => true
  | .listItemOpen => true
  | _ => false

/-- Three kinds of tokens look ahead: headings, lists and items. -/
theorem looksAhead_cases (kind : Kind) :
    kind = .headingOpen ∨ kind = .bulletListOpen ∨ kind = .listItemOpen ∨
      looksAhead kind = false := by
  cases kind <;> simp [looksAhead]

section

variable {s : Setting} {t : Token}

/-- A heading takes its text from the token behind it. -/
theorem actionOf_heading (he : s.escapes t = false) (hk : t.kind = .headingOpen)
    (rest : List Token) :
    actionOf s t rest =
      match inlineAt? rest 0 with
      | some content => .ok (.heading content)
      | none => .error .headingText := by
  cases hn : inlineAt? rest 0 <;> simp [actionOf, he, hk, hn]

/-- A list looks at the label of its first item, three tokens on, to see whether its items are
branches or the choices of a menu. -/
theorem actionOf_openList (he : s.escapes t = false) (hk : t.kind = .bulletListOpen)
    (rest : List Token) :
    actionOf s t rest =
      match rest[2]? with
      | some first => .ok (.openList first.content)
      | none => .error .firstItem := by
  cases hn : rest[2]? <;> simp [actionOf, he, hk, hn]

/-- An item takes its label from the second token behind it. -/
theorem actionOf_openItem (he : s.escapes t = false) (hk : t.kind = .listItemOpen)
    (rest : List Token) :
    actionOf s t rest =
      match inlineAt? rest 1 with
      | some label => .ok (.openItem label)
      | none => .error .itemLabel := by
  cases hn : inlineAt? rest 1 <;> simp [actionOf, he, hk, hn]

/-- A token that looks at no other token asks for an action by itself. -/
theorem actionOf_alone (he : s.escapes t = false) (hk : looksAhead t.kind = false)
    (rest : List Token) : actionOf s t rest = .ok (.ofToken t) := by
  unfold actionOf
  rw [if_neg (Bool.eq_false_iff.mp he)]
  cases hkind : t.kind with
  | headingOpen | bulletListOpen | listItemOpen =>
    rw [hkind] at hk
    cases hk
  | _ => rfl

end

/-- **When an action is refused**: the token is not escaped and lacks what its kind needs. The cases
are the three kinds that look ahead, and all others, which are never refused. -/
theorem actionOf_eq_error_iff {s : Setting} {t : Token} {rest : List Token} {need : Need} :
    actionOf s t rest = .error need ↔ s.escapes t = false ∧ Lacks t.kind rest need := by
  cases he : s.escapes t with
  | true => simp [actionOf, he]
  | false =>
    rw [eq_self, true_and]
    rcases looksAhead_cases t.kind with hk | hk | hk | hk
    · rw [actionOf_heading he hk, hk]
      cases hn : inlineAt? rest 0 with
      | none => cases need <;> simp [Lacks, ← inlineAt?_eq_none_iff, hn]
      | some content => cases need <;> simp [Lacks, ← inlineAt?_eq_none_iff, hn]
    · rw [actionOf_openList he hk, hk]
      cases hn : rest[2]? with
      | none => cases need <;> simp [Lacks, hn]
      | some first => cases need <;> simp [Lacks, hn]
    · rw [actionOf_openItem he hk, hk]
      cases hn : inlineAt? rest 1 with
      | none => cases need <;> simp [Lacks, ← inlineAt?_eq_none_iff, hn]
      | some label => cases need <;> simp [Lacks, ← inlineAt?_eq_none_iff, hn]
    · rw [actionOf_alone he hk]
      generalize t.kind = kind at hk
      refine iff_of_false nofun fun hlacks => ?_
      cases need <;> obtain ⟨rfl, -⟩ := hlacks <;> cases hk

/-- The table of actions: what a token with `rest` behind it asks for. -/
inductive Asks (s : Setting) (t : Token) (rest : List Token) : Action → Prop where
  | escape (he : s.escapes t = true) : Asks s t rest (.escape t.content)
  | heading {content : Text} (he : s.escapes t = false) (hk : t.kind = .headingOpen)
      (hn : inlineAt? rest 0 = some content) : Asks s t rest (.heading content)
  | openList {first : Token} (he : s.escapes t = false) (hk : t.kind = .bulletListOpen)
      (hn : rest[2]? = some first) : Asks s t rest (.openList first.content)
  | openItem {label : Text} (he : s.escapes t = false) (hk : t.kind = .listItemOpen)
      (hn : inlineAt? rest 1 = some label) : Asks s t rest (.openItem label)
  | alone (he : s.escapes t = false) (hk : looksAhead t.kind = false) : Asks s t rest (.ofToken t)

/-- The action that is found is the one of the table. With `actionOf_eq_error_iff` it says all about
`actionOf`, and the pass is seen as a table of actions from here on. -/
theorem actionOf_eq_ok_iff {s : Setting} {t : Token} {rest : List Token} {a : Action} :
    actionOf s t rest = .ok a ↔ Asks s t rest a := by
  constructor
  · intro h
    cases he : s.escapes t with
    | true =>
      rw [actionOf, if_pos he] at h
      cases h
      exact .escape he
    | false =>
      rcases looksAhead_cases t.kind with hk | hk | hk | hk
      · rw [actionOf_heading he hk] at h
        split at h
        · rename_i content hn
          cases h
          exact .heading he hk hn
        · cases h
      · rw [actionOf_openList he hk] at h
        split at h
        · rename_i first hn
          cases h
          exact .openList he hk hn
        · cases h
      · rw [actionOf_openItem he hk] at h
        split at h
        · rename_i label hn
          cases h
          exact .openItem he hk hn
        · cases h
      · rw [actionOf_alone he hk] at h
        cases h
        exact .alone he hk
  · intro h
    cases h with
    | escape he => rw [actionOf, if_pos he]
    | heading he hk hn => rw [actionOf_heading he hk, hn]
    | openList he hk hn => rw [actionOf_openList he hk, hn]
    | openItem he hk hn => rw [actionOf_openItem he hk, hn]
    | alone he hk => exact actionOf_alone he hk rest

/-- A token asks for one action. -/
theorem Asks.unique {s : Setting} {t : Token} {rest : List Token} {a b : Action}
    (h : Asks s t rest a) (h' : Asks s t rest b) : a = b :=
  Except.ok.inj ((actionOf_eq_ok_iff.mpr h).symm.trans (actionOf_eq_ok_iff.mpr h'))

/-- A token that needs nothing behind it consumes nothing behind it. -/
theorem Action.extra_ofToken (t : Token) : (Action.ofToken t).extra = 0 := by
  unfold Action.ofToken
  split <;> rfl

/-- The tokens that an action consumes are there. -/
theorem Asks.extra_le_length {s : Setting} {t : Token} {rest : List Token} {a : Action}
    (h : Asks s t rest a) : a.extra ≤ rest.length := by
  cases h with
  | escape => exact Nat.zero_le _
  | heading _ _ hn => exact lt_length_of_inlineAt? hn
  | openList => exact Nat.zero_le _
  | openItem _ _ hn => exact lt_length_of_inlineAt? hn
  | alone =>
    rw [Action.extra_ofToken]
    exact Nat.zero_le _

/-- More tokens behind those that are there change nothing. -/
theorem Asks.append {s : Setting} {t : Token} {rest : List Token} {a : Action}
    (h : Asks s t rest a) (more : List Token) : Asks s t (rest ++ more) a := by
  cases h with
  | escape he => exact .escape he
  | heading he hk hn => exact .heading he hk (inlineAt?_append hn more)
  | openList he hk hn =>
    refine .openList he hk ?_
    rw [List.getElem?_append_left (List.getElem?_eq_some_iff.mp hn).1]
    exact hn
  | openItem he hk hn => exact .openItem he hk (inlineAt?_append hn more)
  | alone he hk => exact .alone he hk

/-- Which tokens close too much: those that close an item, or the menu of the innermost list, at
level zero. -/
def Overcloses (t : Token) (p : Pass) : Prop :=
  p.level = 0 ∧
    (t.kind = .listItemClose ∨ t.kind = .bulletListClose ∧ p.lists.head? = some false)

/-- The end of an item asks for the item to be closed, and nothing else does. -/
theorem Action.ofToken_eq_closeItem_iff {t : Token} :
    Action.ofToken t = .closeItem ↔ t.kind = .listItemClose := by
  unfold Action.ofToken
  split <;> simp_all

/-- The end of a list asks for the list to be closed, and nothing else does. -/
theorem Action.ofToken_eq_closeList_iff {t : Token} :
    Action.ofToken t = .closeList ↔ t.kind = .bulletListClose := by
  unfold Action.ofToken
  split <;> simp_all

/-- An action closes too much exactly when its token does and is not escaped. -/
theorem Asks.overcloses_iff {s : Setting} {t : Token} {rest : List Token} {a : Action}
    (h : Asks s t rest a) (p : Pass) :
    a.Overcloses p ↔ s.escapes t = false ∧ Overcloses t p := by
  unfold Action.Overcloses Overcloses
  cases h with
  | escape he => simp [he]
  | heading he hk hn => simp [hk]
  | openList he hk hn => simp [hk]
  | openItem he hk hn => simp [hk]
  | alone he hk =>
    simp only [he, true_and, Action.ofToken_eq_closeItem_iff, Action.ofToken_eq_closeList_iff]

/-! ## Steps -/

namespace Pass

/-- A step that succeeds is an action that does. -/
theorem step_eq_ok_iff {s : Setting} {index : Nat} {t : Token} {rest : List Token} {p q : Pass}
    {extra : Nat} :
    step s index t rest p = .ok (q, extra) ↔
      ∃ a, Asks s t rest a ∧ a.perform s p = .ok q ∧ a.extra = extra := by
  unfold step
  cases ha : actionOf s t rest with
  | error need =>
    simp only [reduceCtorEq, ← actionOf_eq_ok_iff, ha, false_and, exists_false]
  | ok a =>
    simp only [← actionOf_eq_ok_iff, ha, Except.ok.injEq, exists_eq_left']
    cases hp : a.perform s p with
    | error e => simp [Except.map]
    | ok r => simp [Except.map]

/-- The step over a token that is not escaped and needs nothing behind it. -/
theorem step_of_alone {s : Setting} {t : Token} (he : s.escapes t = false)
    (hk : looksAhead t.kind = false) (index : Nat) (rest : List Token) {p q : Pass}
    (hp : (Action.ofToken t).perform s p = .ok q) : step s index t rest p = .ok (q, 0) :=
  step_eq_ok_iff.mpr ⟨_, .alone he hk, hp, Action.extra_ofToken t⟩

/-- A step that fails is an action that was refused or that fails. -/
theorem step_eq_error_iff_or {s : Setting} {index : Nat} {t : Token} {rest : List Token} {p : Pass}
    {e : PassError} :
    step s index t rest p = .error e ↔
      (∃ need, actionOf s t rest = .error need ∧ e = .malformed index t.kind need) ∨
        ∃ a, Asks s t rest a ∧ a.perform s p = .error e := by
  unfold step
  cases ha : actionOf s t rest with
  | error need => simp [← actionOf_eq_ok_iff, ha, eq_comm]
  | ok a =>
    simp only [← actionOf_eq_ok_iff, ha, Except.ok.injEq, exists_eq_left', reduceCtorEq, false_and,
      exists_false, false_or]
    cases hp : a.perform s p with
    | error e' => simp [Except.map]
    | ok r => simp [Except.map]

/-- A token that closes too much asks for an action. -/
theorem asks_of_overcloses {s : Setting} {t : Token} {p : Pass} (he : s.escapes t = false)
    (ho : Overcloses t p) (rest : List Token) : Asks s t rest (.ofToken t) := by
  obtain ⟨-, hk | ⟨hk, -⟩⟩ := ho
  · exact .alone he (by rw [hk]; rfl)
  · exact .alone he (by rw [hk]; rfl)

/-- **When a step stops**: from a sound state, exactly when its token is not escaped and either
lacks what it needs or closes too much. -/
theorem step_eq_error_iff {s : Setting} {index : Nat} {t : Token} {rest : List Token} {p : Pass}
    (h : p.Sound) {e : PassError} :
    step s index t rest p = .error e ↔ s.escapes t = false ∧
      ((∃ need, Lacks t.kind rest need ∧ e = .malformed index t.kind need) ∨
        Overcloses t p ∧ e = .invalidIndent (-1)) := by
  rw [step_eq_error_iff_or]
  constructor
  · rintro (⟨need, ha, rfl⟩ | ⟨a, ha, hp⟩)
    · obtain ⟨he, hl⟩ := actionOf_eq_error_iff.mp ha
      exact ⟨he, .inl ⟨need, hl, rfl⟩⟩
    · obtain ⟨ho, rfl⟩ := (Action.perform_eq_error_iff h).mp hp
      obtain ⟨he, ho⟩ := (ha.overcloses_iff p).mp ho
      exact ⟨he, .inr ⟨ho, rfl⟩⟩
  · rintro ⟨he, ⟨need, hl, rfl⟩ | ⟨ho, rfl⟩⟩
    · exact .inl ⟨need, actionOf_eq_error_iff.mpr ⟨he, hl⟩, rfl⟩
    · have ha := asks_of_overcloses he ho rest
      exact .inr ⟨_, ha, Action.perform_of_overcloses ((ha.overcloses_iff p).mpr ⟨he, ho⟩) s⟩

/-- A step that succeeds goes from a sound state to a sound one, takes back nothing that was
written, and stays within the tokens. -/
theorem sound_of_step {s : Setting} {index : Nat} {t : Token} {rest : List Token} {p q : Pass}
    {extra : Nat} (h : p.Sound) (hs : step s index t rest p = .ok (q, extra)) :
    q.Sound ∧ p.out <+: q.out ∧ extra ≤ rest.length := by
  obtain ⟨a, ha, hp, rfl⟩ := step_eq_ok_iff.mp hs
  obtain ⟨hq, ho⟩ := Action.advances_of_perform h hp
  exact ⟨hq, ho, ha.extra_le_length⟩

/-! ## The run, one token at a time -/

/-- Without tokens the pass is at its end. -/
theorem run_nil (s : Setting) (index : Nat) (p : Pass) : run s index [] p = .ok p := by
  rw [run]

/-- A step that succeeds is followed by the rest of the pass. -/
theorem run_of_step {s : Setting} {index : Nat} {t : Token} {rest : List Token} {p q : Pass}
    {extra : Nat} (h : step s index t rest p = .ok (q, extra)) :
    run s index (t :: rest) p = run s (index + 1 + extra) (rest.drop extra) q := by
  rw [run, h]

/-- A step that fails ends the pass. -/
theorem run_of_step_error {s : Setting} {index : Nat} {t : Token} {rest : List Token} {p : Pass}
    {e : PassError} (h : step s index t rest p = .error e) :
    run s index (t :: rest) p = .error e := by
  rw [run, h]

end Pass

end NovelScript.Script
