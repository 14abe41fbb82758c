import NovelScript.Proofs.Script.Loop

/-!
# Sections are independent

A heading starts a section: it sets the level, and when no list and no quote is open nothing that
was read before it can be seen behind it, except that something was written. So a stream that starts
with a heading gives the same text behind another stream as it gives alone.

* `Pass.run_append`: a pass that got through a stream goes on from there when more tokens follow;
  no lookahead reached beyond the end.
* **`Pass.run_behind`**: two passes that differ only in what stands in front of what they wrote, and
  in how many tokens were read before, stay like that. This is a simulation, step by step
  (`Action.perform_behind`, `Pass.step_behind`).
* **`ofTokens_append_heading`**: the statement about sections.
-/

namespace NovelScript.Script

open Markdown (Kind Token)

/-! ## More tokens behind a stream -/

namespace Pass

/-- A step that succeeded does not look at tokens that are put behind the others. -/
theorem step_append {s : Setting} {index : Nat} {t : Token} {rest : List Token} {p : Pass}
    {r : Pass × Nat} (h : step s index t rest p = .ok r) (more : List Token) :
    step s index t (rest ++ more) p = .ok r := by
  obtain ⟨a, ha, hp, he⟩ := step_eq_ok_iff.mp h
  exact step_eq_ok_iff.mpr ⟨a, ha.append more, hp, he⟩

/-- A pass that gets through `tokens` goes on with what follows, from the state that it has reached.
A failure would have ended it. -/
theorem run_append {s : Setting} {index : Nat} {tokens : List Token} {p q : Pass}
    (h : run s index tokens p = .ok q) (more : List Token) :
    run s index (tokens ++ more) p = run s (index + tokens.length) more q := by
  fun_induction run s index tokens p with
  | case1 index p =>
    cases h
    rfl
  | case2 index p t rest e hs => cases h
  | case3 index p t rest r extra hs ih =>
    obtain ⟨a, ha, -, rfl⟩ := step_eq_ok_iff.mp hs
    have hextra := ha.extra_le_length
    rw [List.cons_append, run_of_step (step_append hs more), List.drop_append_of_le_length hextra,
      ih h]
    congr 1
    rw [List.length_drop, List.length_cons]
    omega

/-! ## Text in front -/

/-- The pass with text in front of everything it wrote. -/
def behind (before : Text) (p : Pass) : Pass :=
  { p with out := before ++ p.out }

variable (before : Text) (p : Pass)

/-- To write an indented text does not depend on what was written before. -/
theorem indented_behind (f : Text → Text) :
    (p.behind before).indented f = (p.indented f).map (behind before) := by
  unfold indented
  cases h : indent p.level with
  | error e => simp [behind, h, Except.map]
  | ok blanks => simp [behind, write, h, Except.map]

/-- To write pieces does not depend on what was written before. -/
theorem pieces_behind (s : Setting) (ps : List Markdown.Piece) :
    (p.behind before).pieces s ps = (p.pieces s ps).map (behind before) := by
  unfold pieces
  generalize ps.filterMap (pieceLine s) = ls
  induction ls generalizing p with
  | nil => rfl
  | cons l ls ih =>
    simp only [List.foldlM_cons, line, indented_behind]
    cases p.indented fun blanks => blanks ++ l ++ [Text.newline] with
    | error e => rfl
    | ok q => exact ih q

/-- The same with a change of the state that does not see the text. -/
theorem map_indented_behind (f : Text → Text) {g : Pass → Pass}
    (hg : ∀ q, g (behind before q) = behind before (g q)) :
    ((p.behind before).indented f).map g = ((p.indented f).map g).map (behind before) := by
  rw [indented_behind]
  cases p.indented f with
  | error e => rfl
  | ok q => exact congrArg Except.ok (hg q)

/-- To open a quote does not depend on what was written before. -/
theorem openQuote_behind : (p.behind before).openQuote = p.openQuote.map (behind before) :=
  map_indented_behind before p _ fun _ => rfl

/-- To open an item does not depend on what was written before. -/
theorem openItem_behind (label : Text) :
    (p.behind before).openItem label = (p.openItem label).map (behind before) :=
  map_indented_behind before p _ fun _ => rfl

/-- To open a list does not depend on what was written before. -/
theorem openList_behind (first : Text) :
    (p.behind before).openList first = (p.openList first).map (behind before) := by
  unfold openList
  cases Text.startsWith [question] first with
  | true => rfl
  | false =>
    exact map_indented_behind before { p with lists := false :: p.lists, conditional := false } _
      fun _ => rfl

/-- To close a quote does not depend on what was written before, since it writes nothing and looks
at the quotes alone. -/
theorem closeQuote_behind : (p.behind before).closeQuote = p.closeQuote.behind before := by
  obtain ⟨out, level, conditional, lists, quotes⟩ := p
  cases quotes with
  | nil => rfl
  | cons lowered quotes => rfl

/-- To go up a level does not depend on what was written before. -/
theorem dedent_behind : (p.behind before).dedent = p.dedent.map (behind before) := by
  by_cases hl : p.level = 0
  · simp [dedent, behind, hl, Except.map]
  · simp [dedent, behind, hl, Except.map]

/-- To close a list does not depend on what was written before. -/
theorem closeList_behind : (p.behind before).closeList = p.closeList.map (behind before) := by
  obtain ⟨out, level, conditional, lists, quotes⟩ := p
  cases lists with
  | nil => rfl
  | cons branches lists =>
    cases branches with
    | true => rfl
    | false => exact dedent_behind before ⟨out, level, lists.headD false, lists, quotes⟩

/-- A heading looks at what was written only to see whether there is anything. -/
theorem heading_behind (s : Setting) (content : Text) (h : p.out ≠ []) :
    (p.behind before).heading s content = (p.heading s content).behind before := by
  simp [heading, behind, write, h]

end Pass

/-- **Actions and text in front**: an action does the same whatever stands in front, once something
is written. -/
theorem Action.perform_behind (before : Text) {p : Pass} (h : p.out ≠ []) (s : Setting)
    (a : Action) : a.perform s (p.behind before) = (a.perform s p).map (Pass.behind before) := by
  cases a with
  | escape content => exact Pass.indented_behind before p _
  | openQuote => exact Pass.openQuote_behind before p
  | code content => exact Pass.indented_behind before p _
  | pieces ps => exact Pass.pieces_behind before p s ps
  | heading content => exact congrArg Except.ok (Pass.heading_behind before p s content h)
  | openList first => exact Pass.openList_behind before p first
  | openItem label => exact Pass.openItem_behind before p label
  | closeItem => exact Pass.dedent_behind before p
  | closeList => exact Pass.closeList_behind before p
  | closeQuote => exact congrArg Except.ok (Pass.closeQuote_behind before p)
  | remark content => exact Pass.indented_behind before p _
  | skip => rfl

/-! ## Tokens in front -/

/-- The same error when `n` more tokens stand in front. -/
def PassError.later (n : Nat) : PassError → PassError
  | .invalidIndent level => .invalidIndent level
  | .malformed index kind need => .malformed (n + index) kind need

namespace Pass

/-- The outcome of a pass behind `before` and `n` tokens. -/
def outcomeBehind (before : Text) (n : Nat) (r : Except PassError Pass) : Except PassError Pass :=
  (r.map (behind before)).mapError (PassError.later n)

/-- **A step and its image**: from a state with text in front, `n` tokens later, a step that
succeeded succeeds and consumes as much. -/
theorem step_behind {s : Setting} {index : Nat} {t : Token} {rest : List Token} {p q : Pass}
    {extra : Nat} (before : Text) (n : Nat) (ho : p.out ≠ [])
    (h : step s index t rest p = .ok (q, extra)) :
    step s (n + index) t rest (p.behind before) = .ok (q.behind before, extra) := by
  obtain ⟨a, ha, hp, he⟩ := step_eq_ok_iff.mp h
  refine step_eq_ok_iff.mpr ⟨a, ha, ?_, he⟩
  rw [Action.perform_behind before ho, hp]
  rfl

/-- A step that failed fails with the error `n` tokens later. -/
theorem step_behind_error {s : Setting} {index : Nat} {t : Token} {rest : List Token} {p : Pass}
    {e : PassError} (before : Text) (n : Nat) (hp : p.Sound)
    (h : step s index t rest p = .error e) :
    step s (n + index) t rest (p.behind before) = .error (e.later n) := by
  have hb : (p.behind before).Sound := ⟨hp.level_nonneg, hp.conditional_eq⟩
  obtain ⟨he, ⟨need, hl, rfl⟩ | ⟨ho, rfl⟩⟩ := (step_eq_error_iff hp).mp h
  · exact (step_eq_error_iff hb).mpr ⟨he, .inl ⟨need, hl, rfl⟩⟩
  · exact (step_eq_error_iff hb).mpr ⟨he, .inr ⟨ho, rfl⟩⟩

/-- **A run and its image.** The induction is along the run; what carries it is that the state is
sound and that something is written already. -/
theorem run_behind {s : Setting} {index : Nat} {tokens : List Token} {p : Pass} (before : Text)
    (n : Nat) (hp : p.Sound) (ho : p.out ≠ []) :
    run s (n + index) tokens (p.behind before) = outcomeBehind before n (run s index tokens p) := by
  fun_induction run s index tokens p with
  | case1 index p => rw [run_nil]; rfl
  | case2 index p t rest e hs =>
    rw [run_of_step_error (step_behind_error before n hp hs)]
    rfl
  | case3 index p t rest q extra hs ih =>
    obtain ⟨hq, hout, -⟩ := sound_of_step hp hs
    have hne : q.out ≠ [] := fun h => ho (List.prefix_nil.mp (h ▸ hout))
    rw [run_of_step (step_behind before n ho hs), ← ih hq hne]
    congr 1
    omega

end Pass

/-! ## Sections -/

/-- What stands between two sections: an empty line, when anything stands before. -/
def separator (before : Text) : Text :=
  if before = [] then [] else [Text.newline]

/-- A heading behind a section in which every list and quote was closed leaves the state that it
leaves at the start of a script, with the section in front. -/
theorem Pass.heading_eq_behind {p : Pass} (hp : p.Sound) (hl : p.lists = []) (hq : p.quotes = [])
    (s : Setting) (content : Text) :
    p.heading s content =
      (({} : Pass).heading s content).behind (p.out ++ separator p.out) := by
  have hc : p.conditional = false := by
    rw [hp.conditional_eq, hl]
    rfl
  obtain ⟨out, level, conditional, lists, quotes⟩ := p
  simp only at hl hq hc
  subst hl hq hc
  cases out with
  | nil => simp [Pass.heading, Pass.behind, Pass.write, separator]
  | cons b out => simp [Pass.heading, Pass.behind, Pass.write, separator]

/-- A script that starts with a label is not empty. -/
theorem Pass.out_heading_ne_nil (s : Setting) (content : Text) :
    (({} : Pass).heading s content).out ≠ [] := by
  simp [Pass.heading, Pass.write, Pass.labelLine]

/-- The run over a section behind a pass whose lists and quotes are closed is the run over the
section alone, with what was written before in front of it. The heading sets the level, so the level
before it does not matter. -/
theorem run_heading_behind {s : Setting} {t : Token} {rest : List Token} {p : Pass} (n : Nat)
    (hp : p.Sound) (hl : p.lists = []) (hq : p.quotes = []) (hk : t.kind = .headingOpen)
    (he : s.escapes t = false) :
    Pass.run s n (t :: rest) p =
      Pass.outcomeBehind (p.out ++ separator p.out) n (Pass.run s 0 (t :: rest) {}) := by
  cases hn : inlineAt? rest 0 with
  | none =>
    have hlacks : Lacks t.kind rest .headingText := ⟨hk, inlineAt?_eq_none_iff.mp hn⟩
    have hs : Pass.step s n t rest p = .error (.malformed n t.kind .headingText) :=
      (Pass.step_eq_error_iff hp).mpr ⟨he, .inl ⟨.headingText, hlacks, rfl⟩⟩
    have hs₀ : Pass.step s 0 t rest {} = .error (.malformed 0 t.kind .headingText) :=
      (Pass.step_eq_error_iff Pass.sound_start).mpr ⟨he, .inl ⟨.headingText, hlacks, rfl⟩⟩
    rw [Pass.run_of_step_error hs, Pass.run_of_step_error hs₀]
    rfl
  | some content =>
    have ha : Asks s t rest (.heading content) := .heading he hk hn
    have hs : Pass.step s n t rest p = .ok (p.heading s content, 1) :=
      Pass.step_eq_ok_iff.mpr ⟨_, ha, rfl, rfl⟩
    have hs₀ : Pass.step s 0 t rest {} = .ok (({} : Pass).heading s content, 1) :=
      Pass.step_eq_ok_iff.mpr ⟨_, ha, rfl, rfl⟩
    obtain ⟨hsound, -, -⟩ := Pass.sound_of_step Pass.sound_start hs₀
    rw [Pass.run_of_step hs, Pass.run_of_step hs₀, Pass.heading_eq_behind hp hl hq,
      ← Pass.run_behind _ n hsound (Pass.out_heading_ne_nil s content)]

/-- **Labels are independent sections.** Let the pass over `front` succeed with every list and quote
closed, and let the rest of the stream start with a heading that is not escaped. Then the script of
both is the script of `front`, an empty line when that is not empty, and the script of the rest
alone; and an error of the rest alone is the error of both, its place counted from the start of
`front`. -/
theorem ofTokens_append_heading (o : Options) (label : Text → Text) {front rest : List Token}
    {t : Token} {p : Pass} (hrun : Pass.run (.of o label) 0 front {} = .ok p) (hl : p.lists = [])
    (hq : p.quotes = []) (hk : t.kind = .headingOpen)
    (he : (Setting.of o label).escapes t = false) :
    ∃ a, ofTokens (.of o label) front = .ok a ∧
      (∀ b, ofTokens (.of o label) (t :: rest) = .ok b →
        ofTokens (.of o label) (front ++ t :: rest) = .ok (a ++ separator a ++ b)) ∧
      (∀ index kind need,
        ofTokens (.of o label) (t :: rest) = .error (.malformed index kind need) →
        ofTokens (.of o label) (front ++ t :: rest) =
          .error (.malformed (front.length + index) kind need)) ∧
      ∀ level, ofTokens (.of o label) (t :: rest) = .error (.invalidIndent level) →
        ofTokens (.of o label) (front ++ t :: rest) = .error (.invalidIndent level) := by
  have hp : p.Sound := (run_eq_ok_iff.mp hrun).sound
  have happ := Pass.run_append hrun (t :: rest)
  rw [run_heading_behind _ hp hl hq hk he, Nat.zero_add] at happ
  refine ⟨p.out, by rw [ofTokens, hrun]; rfl, ?_, ?_, ?_⟩
  · intro b hb
    unfold ofTokens at hb ⊢
    rw [happ]
    cases hr : Pass.run (.of o label) 0 (t :: rest) {} with
    | error e =>
      rw [hr] at hb
      cases hb
    | ok q =>
      rw [hr] at hb
      cases hb
      rfl
  · intro index kind need hb
    rw [ofTokens_eq_error_iff] at hb ⊢
    rw [happ, hb]
    rfl
  · intro level hb
    rw [ofTokens_eq_error_iff] at hb ⊢
    rw [happ, hb]
    rfl

/-- A label with a line of narration, and a second label: between them stands an empty line. -/
theorem ofTokens_two_sections :
    Pass.run (.of Options.default id) 0
        [{ kind := .headingOpen }, { kind := .inline, content := Text.lit "A" },
          { kind := .headingClose },
          { kind := .inline, content := Text.lit "x", pieces := [⟨.text, Text.lit "x"⟩] }] {} =
      .ok { out := Text.lit "label A:\n    \"x\"\n", level := 1 } ∧
    ofTokens (.of Options.default id)
        ([{ kind := .headingOpen }, { kind := .inline, content := Text.lit "A" },
          { kind := .headingClose },
          { kind := .inline, content := Text.lit "x", pieces := [⟨.text, Text.lit "x"⟩] }] ++
        [{ kind := .headingOpen }, { kind := .inline, content := Text.lit "B" },
          { kind := .headingClose }]) =
      .ok (Text.lit "label A:\n    \"x\"\n" ++ [Text.newline] ++ Text.lit "label B:\n") := by
  have hrun : Pass.run (.of Options.default id) 0
      [{ kind := .headingOpen }, { kind := .inline, content := Text.lit "A" },
        { kind := .headingClose },
        { kind := .inline, content := Text.lit "x", pieces := [⟨.text, Text.lit "x"⟩] }] {} =
      .ok { out := Text.lit "label A:\n    \"x\"\n", level := 1 } := by
    rw [Pass.run_of_step rfl, Action.extra, List.drop_succ_cons, List.drop_zero,
      Pass.run_of_step rfl, Action.extra_ofToken, List.drop_zero,
      Pass.run_of_step rfl, Action.extra_ofToken, List.drop_zero, Pass.run_nil]
    exact congrArg Except.ok (by decide +kernel)
  have hrest : ofTokens (.of Options.default id)
      [{ kind := .headingOpen }, { kind := .inline, content := Text.lit "B" },
        { kind := .headingClose }] = .ok (Text.lit "label B:\n") := by
    rw [ofTokens, Pass.run_of_step rfl, Action.extra, List.drop_succ_cons, List.drop_zero,
      Pass.run_of_step rfl, Action.extra_ofToken, List.drop_zero, Pass.run_nil]
    exact congrArg Except.ok (by decide +kernel)
  have hk : ({ kind := .headingOpen } : Token).kind = .headingOpen := rfl
  have he : (Setting.of Options.default id).escapes { kind := .headingOpen } = false := by decide
  obtain ⟨a, ha, hb, -⟩ := ofTokens_append_heading Options.default id hrun rfl rfl hk he
  have hout : a = Text.lit "label A:\n    \"x\"\n" := by
    rw [ofTokens, hrun] at ha
    exact (Except.ok.inj ha).symm
  subst hout
  exact ⟨hrun, hb _ hrest⟩

end NovelScript.Script
