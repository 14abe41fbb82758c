import NovelScript.Script.Pass

/-!
# What a script depends on

A pass looks at the options only through the marks, the delimiter and the speakers that identifiers
stand for, so settings that agree there give the same script (**`ofTokens_congr`**). What an
identifier stands for depends on the entries of the cast and not on their order
(**`resolve_ofCast`**): a tag has one speaker, and a name stands for itself.
-/

namespace NovelScript

/-! ## Casts -/

namespace Cast

/-- When all keys differ, what is found under a key is the entry of that key. -/
theorem lookup_eq_some_of_nodup {l : List (Text × Text)} (h : (l.map Prod.fst).Nodup)
    {a b : Text} : l.lookup a = some b ↔ (a, b) ∈ l := by
  rw [List.lookup_eq_some_iff]
  constructor
  · rintro ⟨l₁, l₂, rfl, -⟩
    simp
  · intro hmem
    obtain ⟨l₁, l₂, rfl⟩ := List.append_of_mem hmem
    refine ⟨l₁, l₂, rfl, fun p hp => ?_⟩
    rw [List.map_append, List.nodup_append] at h
    have hne := h.2.2 p.1 (List.mem_map_of_mem hp) a (by simp)
    simpa using Ne.symm hne

/-- The speaker of a tag is the one of its entry in the cast. -/
theorem speaker?_eq_some_iff {c : Cast} {tag speaker : Text} :
    c.speaker? tag = some speaker ↔ (tag, speaker) ∈ c.entries :=
  lookup_eq_some_of_nodup c.nodup

/-- The tags of a cast are those that have a speaker. -/
theorem mem_tags_iff {c : Cast} {tag : Text} : tag ∈ c.tags ↔ ∃ s, c.speaker? tag = some s := by
  simp [tags, speaker?_eq_some_iff]

/-- A tag without an entry has no speaker. -/
theorem speaker?_eq_none_iff {c : Cast} {tag : Text} : c.speaker? tag = none ↔ tag ∉ c.tags := by
  rw [mem_tags_iff, not_exists, Option.eq_none_iff_forall_ne_some]

end Cast

namespace Script

open Markdown (Token)

/-! ## Speakers -/

namespace Speakers

/-- Among names that stand for themselves each is found under itself, and nothing else is found. -/
theorem lookup_names {names : List (Text × Text)} (h : ∀ p ∈ names, p.1 = p.2) {a b : Text} :
    names.lookup a = some b ↔ a = b ∧ (a, a) ∈ names := by
  induction names with
  | nil => simp
  | cons p names ih =>
    have ih := ih fun q hq => h q (List.mem_cons_of_mem _ hq)
    obtain ⟨x, y⟩ := p
    have hxy : x = y := h (x, y) List.mem_cons_self
    subst hxy
    rw [List.lookup_cons]
    split
    · rename_i heq
      have heq : a = x := by simpa using heq
      subst heq
      simp
    · rename_i heq
      have heq : a ≠ x := by simpa using heq
      rw [ih]
      simp [heq]

/-- Entries that are made one after the other stand in the table with the last one in front. -/
theorem table_foldl_enter (f : Text × Text → Text × Text) (es : List (Text × Text)) (s : Speakers) :
    (es.foldl (fun s e => s.enter (f e).1 (f e).2) s).table = (es.map f).reverse ++ s.table := by
  induction es generalizing s with
  | nil => rfl
  | cons e es ih =>
    rw [List.foldl_cons, ih, List.map_cons, List.reverse_cons, List.append_assoc]
    rfl

/-- The table that is made from two orders: first all names for themselves, and over them the
tags. -/
theorem table_ofOrders (names tags : List (Text × Text)) :
    (ofOrders names tags).table = tags.reverse ++ (names.map fun e => (e.2, e.2)).reverse := by
  have htags := table_foldl_enter id tags
    (names.foldl (fun s e => s.enter e.2 e.2) (⟨[]⟩ : Speakers))
  have hnames := table_foldl_enter (fun e => (e.2, e.2)) names ⟨[]⟩
  rw [List.map_id] at htags
  rw [List.append_nil] at hnames
  rw [ofOrders]
  dsimp only [id] at htags hnames ⊢
  rw [htags, hnames]

/-- In whatever orders the entries are gone through, a tag stands for its speaker, and a name that is
no tag for itself. -/
theorem lookup_ofOrders {c : Cast} {names tags : List (Text × Text)}
    (hnames : names.Perm c.entries) (htags : tags.Perm c.entries) (a b : Text) :
    (ofOrders names tags).table.lookup a = some b ↔
      (a, b) ∈ c.entries ∨ ((∀ x, (a, x) ∉ c.entries) ∧ a = b ∧ ∃ tag, (tag, a) ∈ c.entries) := by
  have hnodup : (tags.reverse.map Prod.fst).Nodup := by
    have hperm : (tags.reverse.map Prod.fst).Perm (c.entries.map Prod.fst) :=
      ((List.reverse_perm tags).trans htags).map Prod.fst
    exact hperm.nodup_iff.2 c.nodup
  have htag (x : Text) : tags.reverse.lookup a = some x ↔ (a, x) ∈ c.entries := by
    rw [Cast.lookup_eq_some_of_nodup hnodup, List.mem_reverse, htags.mem_iff]
  have hnone : tags.reverse.lookup a = none ↔ ∀ x, (a, x) ∉ c.entries := by
    rw [Option.eq_none_iff_forall_ne_some]
    exact forall_congr' fun x => not_congr (htag x)
  have hname : (names.map fun e => (e.2, e.2)).reverse.lookup a = some b ↔
      a = b ∧ ∃ tag, (tag, a) ∈ c.entries := by
    have hself : ∀ p ∈ (names.map fun e => (e.2, e.2)).reverse, p.1 = p.2 := by
      intro p hp
      obtain ⟨e, -, rfl⟩ := List.mem_map.1 (List.mem_reverse.1 hp)
      rfl
    rw [lookup_names hself]
    simp [hnames.mem_iff]
  rw [table_ofOrders, List.lookup_append, Option.or_eq_some_iff, htag, hnone, hname]

/-- The order of the entries has no meaning. -/
theorem resolve_ofCast {c c' : Cast} (h : c.entries.Perm c'.entries) :
    (ofCast c).resolve = (ofCast c').resolve := by
  funext id
  refine Option.ext fun b => ?_
  rw [resolve, resolve, ofCast, ofCast, lookup_ofOrders (.refl _) (.refl _),
    lookup_ofOrders (.refl _) (.refl _)]
  simp only [h.mem_iff]

/-- A dialogue depends on the speakers only through how they are resolved. -/
theorem dialogue_congr {s s' : Speakers} (h : s.resolve = s'.resolve) :
    s.dialogue = s'.dialogue := by
  funext content delimiter
  rw [dialogue, dialogue, h]

end Speakers

/-! ## Settings -/

/-- The settings agree in all that shows in a script. -/
structure Setting.Alike (s s' : Setting) : Prop where
  marks : s.options.marks = s'.options.marks
  delimiter : s.options.delimiter = s'.options.delimiter
  speakers : s.speakers.resolve = s'.speakers.resolve
  label : s.label = s'.label

namespace Setting.Alike

variable {s s' : Setting}

/-- Settings that are alike give the same statement for each content. -/
theorem statement (h : s.Alike s') :
    Script.statement s.options s.speakers = Script.statement s'.options s'.speakers := by
  funext content
  rw [Script.statement, Script.statement, h.marks, h.delimiter, Speakers.dialogue_congr h.speakers]

/-- Settings that are alike give the same line for each piece. -/
theorem pieceLine (h : s.Alike s') : Pass.pieceLine s = Pass.pieceLine s' := by
  funext piece
  rw [Pass.pieceLine, Pass.pieceLine, h.statement]

/-- Settings that are alike ask for the same action at each token. -/
theorem actionOf (h : s.Alike s') : Script.actionOf s = Script.actionOf s' := by
  funext t rest
  have hescapes : s.escapes t = s'.escapes t := by rw [escapes, escapes, h.marks]
  rw [Script.actionOf, Script.actionOf, hescapes]

/-- Settings that are alike perform each action alike. -/
theorem perform (h : s.Alike s') (a : Action) (p : Pass) : a.perform s p = a.perform s' p := by
  cases a with
  | escape content => rw [Action.perform, Action.perform, Pass.escape, Pass.escape, h.marks]
  | pieces ps => rw [Action.perform, Action.perform, Pass.pieces, Pass.pieces, h.pieceLine]
  | heading content =>
    rw [Action.perform, Action.perform, Pass.heading, Pass.heading, Pass.labelLine, Pass.labelLine,
      h.label]
  | _ => rfl

/-- Settings that are alike take the same step at each token. -/
theorem step (h : s.Alike s') (index : Nat) (t : Token) (rest : List Token) (p : Pass) :
    Pass.step s index t rest p = Pass.step s' index t rest p := by
  rw [Pass.step, Pass.step, h.actionOf]
  split
  · rfl
  · rw [h.perform]

/-- Settings that are alike come to the same end, by induction on the tokens. -/
theorem run (h : s.Alike s') (index : Nat) (tokens : List Token) (p : Pass) :
    Pass.run s index tokens p = Pass.run s' index tokens p := by
  fun_induction Pass.run s index tokens p with
  | case1 index p => rw [Pass.run]
  | case2 index p t rest e hstep => rw [Pass.run, ← h.step, hstep]
  | case3 index p t rest q extra hstep ih => rw [Pass.run, ← h.step, hstep, ih]

end Setting.Alike

/-- Settings that agree give the same script. -/
theorem ofTokens_congr {s s' : Setting} (h : s.Alike s') : ofTokens s = ofTokens s' := by
  funext tokens
  rw [ofTokens, ofTokens, h.run]

end Script

end NovelScript
