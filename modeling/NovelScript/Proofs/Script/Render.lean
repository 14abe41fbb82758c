import NovelScript.Proofs.Markdown.Shape
import NovelScript.Proofs.Script.Step

/-!
# The script of a tree

A document is a tree before it is a stream, and its script can be said on the tree: `renderBlock`
is given the level and writes a block, with no state and no look at what follows. The pass over the
stream of a shaped document does the same (`run_blockTokens`):

* as long as every item has a label, the pass behind the tokens of blocks is the pass before them
  with the rendered text written, whatever lists and quotes were open around them;
* the first item without a label stops it, at the place of that item.

Both are one statement, by induction over the tree, since a stop inside a block is a stop of what
contains it. `outcome` is the case distinction, and `Renders` the statement for tokens between any
others and any state around them; it is closed under what containers do (`Renders.append`,
`Renders.between_skip`, `Renders.quote`, …), which leaves one application to each kind of block
(`renders_block`). **`ofTokens_blockTokens`** is the statement for whole documents, where headings
start labels.
-/

namespace NovelScript.Script

open Markdown

/-! ## Rendering -/

section render

variable (s : Setting)

/-- Text of the document at a level: the rest as it is when the text is escaped, else `plain`. -/
def escapedOr (k : Nat) (content plain : Text) : Text :=
  if Text.startsWith s.options.marks.ignore content
  then lineAt k (Text.trim (content.drop s.options.marks.ignore.length))
  else plain

/-- Does a list hold branches? So it is when its first label starts with a question mark. -/
def branches : List (Block Running) → Bool
  | .item body :: _ => (label? body).any fun r => Text.startsWith [question] r.content
  | _ => false

/-- The header of an item with this body. -/
def renderHeader (k : Nat) (body : List (Block Running)) : Text :=
  match label? body with
  | some r => lineAt k (Pass.headerText r.content)
  | none => []

mutual

/-- The script of a block at a level. A list of branches stands at the level of its list, a menu one
level below its own line, the blocks of an item one level below its header, and quoted blocks one
level above the keyword, or at level zero. -/
def renderBlock (k : Nat) : Block Running → Text
  | .heading _ _ => []
  | .paragraph r =>
    escapedOr s k r.content ((r.pieces.filterMap (Pass.pieceLine s)).flatMap (lineAt k))
  | .list true items => renderBlocks k items
  | .list false items =>
    if branches items then renderBlocks k items
    else lineAt k (Text.lit "menu:") ++ renderBlocks (k + 1) items
  | .item body => renderHeader k body ++ renderTail (k + 1) body
  | .quote body => margin k ++ Text.lit "extend " ++ renderBlocks (k - 1) body
  | .fence _ content => escapedOr s k content (Pass.codeText content (margin k))
  | .code content => escapedOr s k content []
  | .markup content => escapedOr s k content (lineAt k (remark content))
  | .rule => []

/-- The script of blocks one after the other. -/
def renderBlocks (k : Nat) : List (Block Running) → Text
  | [] => []
  | b :: more => renderBlock k b ++ renderBlocks k more

/-- The script of all blocks but the first. -/
def renderTail (k : Nat) : List (Block Running) → Text
  | [] => []
  | _ :: more => renderBlocks k more

end

/-- The script of top-level blocks at a level; `started` when something is written already. A
heading starts a label, behind an empty line when something is written, and the level after it is
one. -/
def renderFrom (k : Nat) (started : Bool) : List (Block Running) → Text
  | [] => []
  | .heading _ r :: more =>
    (if started then [Text.newline] else []) ++ Pass.labelLine s r.content ++ renderFrom 1 true more
  | b :: more =>
    renderBlock s k b ++ renderFrom k (started || !(renderBlock s k b).isEmpty) more

/-- The script of a document. -/
def render (trees : List (Block Running)) : Text :=
  renderFrom s 0 false trees

end render

/-! ## The outcome -/

/-- The first item without a label. -/
def firstUnlabelled (items : List PlacedItem) : Option PlacedItem :=
  items.find? fun x => (label? x.body).isNone

/-- What becomes of a pass that comes to these items: it stops at the first without a label, else it
is `r`. -/
def outcome {α : Type} (items : List PlacedItem) (r : Except PassError α) : Except PassError α :=
  match firstUnlabelled items with
  | some x => .error (.malformed x.position .listItemOpen .itemLabel)
  | none => r

section outcome

variable {α : Type}

/-- Without items there is nothing that could be malformed. -/
@[simp] theorem outcome_nil (r : Except PassError α) : outcome [] r = r := rfl

/-- Items are looked at in their order, and the first one without a label decides. -/
theorem outcome_append (xs ys : List PlacedItem) (r : Except PassError α) :
    outcome (xs ++ ys) r = outcome xs (outcome ys r) := by
  unfold outcome firstUnlabelled
  rw [List.find?_append]
  cases xs.find? fun x => (label? x.body).isNone <;> rfl

/-- What is made of the result does not change which item is the first without a label. -/
theorem map_outcome {β : Type} (f : α → β) (items : List PlacedItem) (r : Except PassError α) :
    (outcome items r).map f = outcome items (r.map f) := by
  unfold outcome
  cases firstUnlabelled items <;> rfl

/-- An item with a label is passed over. -/
theorem outcome_cons_of_label {x : PlacedItem} {r : Running} (h : label? x.body = some r)
    (xs : List PlacedItem) (e : Except PassError α) : outcome (x :: xs) e = outcome xs e := by
  simp [outcome, firstUnlabelled, h]

/-- An item without a label is the failure, at its position. -/
theorem outcome_cons_of_no_label {x : PlacedItem} (h : label? x.body = none)
    (xs : List PlacedItem) (e : Except PassError α) :
    outcome (x :: xs) e = .error (.malformed x.position .listItemOpen .itemLabel) := by
  simp [outcome, firstUnlabelled, h]

end outcome

/-! ## Single tokens -/

section tokens

variable {s : Setting} {index : Nat} {rest : List Token} {p q : Pass}

/-- A token whose action is known and succeeds: the pass goes on behind it, and behind the tokens
that the action has taken. -/
theorem Pass.run_of_asks {t : Token} {a : Action} (ha : Asks s t rest a)
    (hp : a.perform s p = .ok q) :
    run s index (t :: rest) p = run s (index + 1 + a.extra) (rest.drop a.extra) q :=
  run_of_step (step_eq_ok_iff.mpr ⟨a, ha, hp, rfl⟩)

/-- The same for a token that looks at none of those behind it. -/
theorem Pass.run_of_asks_alone {t : Token} (ha : Asks s t rest (.ofToken t))
    (hp : (Action.ofToken t).perform s p = .ok q) :
    run s index (t :: rest) p = run s (index + 1) rest q := by
  rw [run_of_asks ha hp, Action.extra_ofToken]
  rfl

/-- Tokens without content are not escaped, since no setting escapes everything. -/
theorem escapes_bare (hi : s.options.marks.ignore ≠ []) (kind : Kind) (tag : Text) (level : Int) :
    s.escapes (bare kind tag level) = false := by
  cases h : s.options.marks.ignore with
  | nil => exact absurd h hi
  | cons b ignore => simp [Setting.escapes, bare, Text.startsWith, h]

/-- A token without content asks for what its kind says, unless it looks ahead. The mark of escaped
lines must not be empty, since otherwise every token would be escaped. -/
theorem asks_bare (hi : s.options.marks.ignore ≠ []) {kind : Kind} (hk : looksAhead kind = false)
    (tag : Text) (level : Int) (rest : List Token) :
    Asks s (bare kind tag level) rest (.ofToken (bare kind tag level)) :=
  .alone (escapes_bare hi _ _ _) hk

/-- A token without content that asks for nothing is passed over. -/
theorem Pass.run_bare_skip (hi : s.options.marks.ignore ≠ []) {kind : Kind}
    (hk : looksAhead kind = false) {tag : Text} {level : Int}
    (hs : Action.ofToken (bare kind tag level) = .skip) :
    run s index (bare kind tag level :: rest) p = run s (index + 1) rest p :=
  run_of_asks_alone (asks_bare hi hk tag level rest) (by rw [hs]; rfl)

/-- The token that closes the label of an item is passed over. -/
theorem Pass.run_label_close (hi : s.options.marks.ignore ≠ []) {closing : Kind}
    (hclosing : closing = .headingClose ∨ closing = .paragraphClose) {tag : Text} {level : Int} :
    run s index (bare closing tag level :: rest) p = run s (index + 1) rest p := by
  rcases hclosing with rfl | rfl
  · exact run_bare_skip hi rfl rfl
  · exact run_bare_skip hi rfl rfl

/-- An item without a label lacks it. -/
theorem lacks_itemLabel (level : Int) {body : List (Block Running)} (hlabel : label? body = none)
    {rest : List Token} (hrest : NoInlineFirst rest) :
    Lacks .listItemOpen
      (blockTokens (level + 1) body ++ bare .listItemClose (Text.lit "li") level :: rest)
      .itemLabel := by
  refine ⟨rfl, ?_⟩
  rw [← List.getElem?_tail]
  exact noInlineFirst_tail_of_label?_eq_none hlabel rfl hrest

/-- A list opens by the text of the third token behind its own. -/
theorem Pass.run_openList (hi : s.options.marks.ignore ≠ []) {tag : Text} {level : Int}
    {first : Token} (hn : rest[2]? = some first) (hq : p.openList first.content = .ok q) :
    run s index (bare .bulletListOpen tag level :: rest) p = run s (index + 1) rest q :=
  run_of_asks (.openList (escapes_bare hi _ _ _) rfl hn) hq

/-- A token with content writes its text, escaped or not. -/
theorem Pass.run_content {t : Token} (hk : looksAhead t.kind = false) {k : Nat} (hl : p.level = k)
    {plain : Text} (hp : (Action.ofToken t).perform s p = .ok (p.write plain)) :
    run s index (t :: rest) p =
      run s (index + 1) rest (p.write (escapedOr s k t.content plain)) := by
  unfold escapedOr
  cases he : s.escapes t with
  | true =>
    have hperform : (Action.escape t.content).perform s p = .ok (p.write (lineAt k
        (Text.trim (t.content.drop s.options.marks.ignore.length)))) := line_of_level hl _
    rw [run_of_asks (.escape he) hperform, if_pos (by exact he)]
    rfl
  | false =>
    have ha : Asks s t rest (.ofToken t) := .alone he hk
    rw [run_of_asks_alone ha hp, if_neg (by simpa [Setting.escapes] using he)]

end tokens

/-! ## Tokens that render -/

/-- The tokens render to `text`, and `items` are the items in them: from every sound state the pass
over them stops at the first item without a label; when there is none, the pass behind them is the
pass before them with the text of its level written, and nothing else is different. -/
def Renders (s : Setting) (tokens : List Token) (items : Nat → List PlacedItem)
    (text : Nat → Text) : Prop :=
  ∀ ⦃k index : Nat⦄ ⦃rest : List Token⦄ ⦃p : Pass⦄, NoInlineFirst rest → p.Sound → p.level = k →
    Pass.run s index (tokens ++ rest) p =
      outcome (items index) (Pass.run s (index + tokens.length) rest (p.write (text k)))

namespace Renders

variable {s : Setting} {tokens more : List Token} {items others : Nat → List PlacedItem}
  {text words : Nat → Text}

/-- No tokens are rendered as no text. -/
theorem nil : Renders s [] (fun _ => []) fun _ => [] := by
  intro k index rest p _ _ _
  simp

/-- **Groups of tokens one after the other are rendered one after the other.** Only tokens that do
not begin with inline text may come behind, so that an item cannot take its label from its
successor. -/
theorem append (h : Renders s tokens items text) (hm : Renders s more others words)
    (hfirst : ∀ rest, NoInlineFirst rest → NoInlineFirst (more ++ rest)) :
    Renders s (tokens ++ more) (fun i => items i ++ others (i + tokens.length))
      fun k => text k ++ words k := by
  intro k index rest p hr hp hl
  rw [List.append_assoc, h (hfirst rest hr) hp hl, hm hr (hp.write _) hl, outcome_append,
    Pass.write_write, List.length_append, Nat.add_assoc]

/-- A token with content. -/
theorem content {t : Token} (hk : looksAhead t.kind = false)
    (hp : ∀ {k : Nat} {p : Pass}, p.level = k →
      (Action.ofToken t).perform s p = .ok (p.write (text k))) :
    Renders s [t] (fun _ => []) fun k => escapedOr s k t.content (text k) := by
  intro k index rest p _ _ hl
  exact Pass.run_content hk hl (hp hl)

/-- The end of a list whose blocks were rendered restores the state before the list: a list of
branches left the level alone, a menu is one level below its line. -/
theorem closeList_write {p : Pass} (hp : p.Sound) {k : Nat} (hl : p.level = k) (w : Text) :
    Pass.closeList (Pass.write { p with conditional := true, lists := true :: p.lists } w) =
        .ok (p.write w) ∧
      Pass.closeList (Pass.write { p with
        out := p.out ++ lineAt k (Text.lit "menu:")
        level := (k + 1 : Nat)
        conditional := false
        lists := false :: p.lists } w) =
        .ok (p.write (lineAt k (Text.lit "menu:") ++ w)) := by
  have hc := hp.conditional_eq
  obtain ⟨out, level, conditional, lists, quotes⟩ := p
  simp only at hl hc
  subst hl hc
  constructor
  · rfl
  · simp only [Pass.closeList, Pass.write, Bool.false_eq_true, if_false]
    rw [Pass.dedent_of_level_succ rfl, List.append_assoc]

variable (hi : s.options.marks.ignore ≠ [])

include hi

/-- Tokens between an opening and a closing one: the opening token leads to a state `q` from which
they render, and the closing token leads on to `r`. -/
theorem run_between (h : Renders s tokens items text) {opening closing : Kind} {tag : Text}
    {level : Int} {index : Nat} {rest : List Token} {p q r : Pass} {j : Nat}
    (hopen : Pass.run s index
        (bare opening tag level :: (tokens ++ bare closing tag level :: rest)) p =
      Pass.run s (index + 1) (tokens ++ bare closing tag level :: rest) q)
    (hq : q.Sound) (hj : q.level = j) (hc : looksAhead closing = false)
    (hinline : closing ≠ .inline)
    (hclose : (Action.ofToken (bare closing tag level)).perform s (q.write (text j)) = .ok r) :
    Pass.run s index (between opening closing tag level tokens ++ rest) p =
      outcome (items (index + 1))
        (Pass.run s (index + (between opening closing tag level tokens).length) rest r) := by
  have hfirst : NoInlineFirst (bare closing tag level :: rest) :=
    .cons (by simpa [Token.isInline, bare] using hinline) rest
  rw [between_append, hopen, h hfirst hq hj,
    Pass.run_of_asks_alone (asks_bare hi hc tag level rest) hclose, length_between]
  congr 2
  omega

/-- A pair that asks for nothing. -/
theorem between_skip (h : Renders s tokens items text) {opening closing : Kind} {tag : Text}
    {level : Int} (ho : looksAhead opening = false)
    (hos : Action.ofToken (bare opening tag level) = .skip) (hc : looksAhead closing = false)
    (hinline : closing ≠ .inline) (hcs : Action.ofToken (bare closing tag level) = .skip) :
    Renders s (between opening closing tag level tokens) (fun i => items (i + 1)) text := by
  intro k index rest p _ hp hl
  exact h.run_between hi (Pass.run_bare_skip hi ho hos) hp hl hc hinline (by rw [hcs]; rfl)

/-- A quote writes its keyword and its blocks one level up, and gives the level back. -/
theorem quote (h : Renders s tokens items text) (tag : Text) (level : Int) :
    Renders s (between .blockquoteOpen .blockquoteClose tag level tokens) (fun i => items (i + 1))
      fun k => margin k ++ Text.lit "extend " ++ text (k - 1) := by
  intro k index rest p _ hp hl
  have hopen : (Action.ofToken (bare .blockquoteOpen tag level)).perform s p = _ :=
    Pass.openQuote_of_level hl
  refine h.run_between hi (Pass.run_of_asks_alone (asks_bare hi rfl _ _ _) hopen)
    ⟨Int.natCast_nonneg _, hp.conditional_eq⟩ rfl rfl (by simp) ?_
  obtain ⟨out, level', conditional, lists, quotes⟩ := p
  simp only at hl
  subst hl
  cases k with
  | zero => simp [Action.ofToken, bare, Action.perform, Pass.closeQuote, Pass.write]
  | succ k => simp [Action.ofToken, bare, Action.perform, Pass.closeQuote, Pass.write]

/-- An item without a label stops the pass, whatever is in it. -/
theorem item_of_no_label {level : Int} {body : List (Block Running)} (hlabel : label? body = none) :
    Renders s ((Block.item body).tokens level) (fun i => (Block.item body).items i) text := by
  intro k index rest p hr hp hl
  simp only [Block.tokens, between_append, Block.items]
  rw [outcome_cons_of_no_label hlabel]
  exact Pass.run_of_step_error ((Pass.step_eq_error_iff hp).mpr
    ⟨escapes_bare hi _ _ _, .inl ⟨.itemLabel, lacks_itemLabel level hlabel hr, rfl⟩⟩)

/-- An item with a label writes its header and its other blocks one level down. The tokens of the
label are taken together with the opening token, so the text that is rendered starts behind them. -/
theorem item_of_label {level : Int} {first : Block Running} {more : List (Block Running)}
    {r : Running} (hlabel : label? (first :: more) = some r)
    (h : Renders s (blockTokens (level + 1) more) (fun i => blockItems i more)
      fun k => renderBlocks s k more) :
    Renders s ((Block.item (first :: more)).tokens level)
      (fun i => (Block.item (first :: more)).items i)
      fun k => renderBlock s k (.item (first :: more)) := by
  intro k index rest p hr hp hl
  obtain ⟨_, _, heq, hitems, opening, closing, tag, hclosing, htokens⟩ :=
    exists_of_label?_eq_some hlabel
  cases heq
  have hlength : (blockTokens (level + 1) (first :: more)).length =
      (blockTokens (level + 1) more).length + 3 := by
    simpa using congrArg List.length (htokens (level + 1) [])
  have hopen : (Action.openItem r.content).perform s p = _ := Pass.openItem_of_level hl r.content
  have hsound : Pass.Sound { p with
      out := p.out ++ lineAt k (Pass.headerText r.content)
      level := (k + 1 : Nat) } := ⟨Int.natCast_nonneg _, hp.conditional_eq⟩
  have hclose : (Action.ofToken (bare .listItemClose (Text.lit "li") level)).perform s
      (Pass.write { p with
        out := p.out ++ lineAt k (Pass.headerText r.content)
        level := (k + 1 : Nat) } (renderBlocks s (k + 1) more)) =
      .ok (p.write (renderBlock s k (.item (first :: more)))) := by
    refine (Pass.dedent_of_level_succ rfl).trans ?_
    simp [renderBlock, renderHeader, hlabel, renderTail, Pass.write, hl]
  simp only [Block.tokens, between_append, length_between, Block.items]
  -- the first two tokens of the body are consumed with the opening one, the third is passed over
  rw [outcome_cons_of_label hlabel, htokens,
    Pass.run_of_asks (.openItem (escapes_bare hi _ _ _) rfl rfl) hopen]
  simp only [Action.extra, List.drop_succ_cons, List.drop_zero]
  rw [Pass.run_label_close hi hclosing, h (.cons rfl rest) hsound rfl,
    Pass.run_of_asks_alone (asks_bare hi rfl _ _ _) hclose, hitems, hlength]
  congr 2
  omega

/-- A list whose first item has no label stops at that item; branches or menu, it does not
matter. -/
theorem bulletList_of_no_label {level : Int} {body : List (Block Running)}
    {more : List (Block Running)} (hlabel : label? body = none)
    (h : Renders s (blockTokens (level + 1) (.item body :: more))
      (fun i => blockItems i (.item body :: more)) text) :
    Renders s ((Block.list false (.item body :: more)).tokens level)
      (fun i => (Block.list false (.item body :: more)).items i) words := by
  intro k index rest p hr hp hl
  obtain ⟨first, hn⟩ : ∃ first, (blockTokens (level + 1) (.item body :: more) ++
      bare .bulletListClose (Text.lit "ul") level :: rest)[2]? = some first := by
    refine ⟨_, List.getElem?_eq_getElem ?_⟩
    simp only [blockTokens, Block.tokens, List.length_append, length_between, List.length_cons]
    omega
  obtain ⟨q, hq, hsound, -⟩ := hp.advances_openList first.content
  obtain ⟨j, hj⟩ := hsound.exists_level
  have hstops : ∀ r : Except PassError Pass,
      outcome (blockItems (index + 1) (.item body :: more)) r =
        .error (.malformed (index + 1) .listItemOpen .itemLabel) := by
    intro r
    rw [blockItems, Block.items, List.cons_append, outcome_cons_of_no_label hlabel]
  simp only [Block.tokens, Block.items]
  rw [between_append, Pass.run_openList hi hn hq, h (.cons rfl rest) hsound hj, hstops, hstops]

/-- A list whose first item has a label is a list of branches or a menu, by that label. The other
items do not matter for this. -/
theorem bulletList_of_label {level : Int} {body : List (Block Running)}
    {more : List (Block Running)} {r : Running} (hlabel : label? body = some r)
    (h : Renders s (blockTokens (level + 1) (.item body :: more))
      (fun i => blockItems i (.item body :: more)) fun k => renderBlocks s k (.item body :: more)) :
    Renders s ((Block.list false (.item body :: more)).tokens level)
      (fun i => (Block.list false (.item body :: more)).items i)
      fun k => renderBlock s k (.list false (.item body :: more)) := by
  intro k index rest p hr hp hl
  have hn := getElem?_blockTokens_item hlabel more (level + 1)
    (bare .bulletListClose (Text.lit "ul") level :: rest)
  have hbranches : branches (.item body :: more) = Text.startsWith [question] r.content := by
    simp [branches, hlabel]
  have hq := Pass.openList_of_level hl r.content
  simp only [Block.tokens, Block.items]
  cases hb : Text.startsWith [question] r.content with
  | true =>
    rw [hb, if_pos rfl] at hq
    rw [renderBlock, hbranches, hb, if_pos rfl]
    exact h.run_between hi (Pass.run_openList hi hn hq) ⟨hp.level_nonneg, rfl⟩ hl rfl (by simp)
      (closeList_write hp hl _).1
  | false =>
    rw [hb, if_neg Bool.false_ne_true] at hq
    rw [renderBlock, hbranches, hb, if_neg Bool.false_ne_true]
    exact h.run_between hi (Pass.run_openList hi hn hq) ⟨Int.natCast_nonneg _, rfl⟩ rfl rfl
      (by simp) (closeList_write hp hl _).2

end Renders

/-! ## Blocks -/

section blocks

variable {s : Setting}

-- the induction is over the tree; the level of the tokens, the level of the script and the state
-- are general in `Renders`, so the hypotheses for inner blocks serve every nesting
mutual

/-- **Every block that may stand inside another one renders.** The induction is on the tree, mutual
with the one for lists of blocks; each kind of block has a lemma of its own above. -/
theorem renders_block (hi : s.options.marks.ignore ≠ []) (level : Int) :
    (b : Block Running) → b.shaped false = true →
      Renders s (b.tokens level) (fun i => b.items i) fun k => renderBlock s k b
  | .heading _ _, h => by simp [Block.shaped] at h
  | .paragraph r, _ => by
      have hinline : Renders s [inlineToken r (level + 1)] _ _ :=
        .content rfl fun hl => Pass.pieces_of_level hl s r.pieces
      exact hinline.between_skip hi rfl rfl rfl (by simp) rfl
  | .list true items, h => by
      simp only [Block.shaped, Bool.and_eq_true] at h
      have hitems := renders_blockTokens hi (level + 1) items h.2
      exact hitems.between_skip hi rfl rfl rfl (by simp) rfl
  | .list false items, h => by
      obtain ⟨body, more, heq⟩ := exists_item_of_shaped h
      simp only [Block.shaped, Bool.and_eq_true] at h
      have hitems := renders_blockTokens hi (level + 1) items h.2
      subst heq
      cases hlabel : label? body with
      | none => exact .bulletList_of_no_label hi hlabel hitems
      | some r => exact .bulletList_of_label hi hlabel hitems
  | .item [], _ => .item_of_no_label hi rfl
  | .item (first :: more), h => by
      simp only [Block.shaped, shapedBlocks, Bool.and_eq_true] at h
      have hmore := renders_blockTokens hi (level + 1) more h.2
      cases hlabel : label? (first :: more) with
      | none => exact .item_of_no_label hi hlabel
      | some r => exact .item_of_label hi hlabel hmore
  | .quote body, h => by
      simp only [Block.shaped] at h
      exact (renders_blockTokens hi (level + 1) body h).quote hi _ _
  | .fence _ _, _ => .content rfl fun hl => Pass.indented_of_level hl _
  | .code _, _ => .content rfl fun _ => by simp [Action.ofToken, Action.perform]
  | .markup _, _ => .content rfl fun hl => Pass.line_of_level hl _
  | .rule, _ => by
      intro k index rest p _ _ _
      simp only [renderBlock, Pass.write_nil]
      exact Pass.run_bare_skip hi rfl rfl

/-- Blocks one after the other render one after the other. -/
theorem renders_blockTokens (hi : s.options.marks.ignore ≠ []) (level : Int) :
    (bs : List (Block Running)) → shapedBlocks false false bs = true →
      Renders s (blockTokens level bs) (fun i => blockItems i bs) fun k => renderBlocks s k bs
  | [], _ => .nil
  | b :: more, h => by
      simp only [shapedBlocks, Bool.and_eq_true] at h
      have hb := renders_block hi level b h.1
      have hmore := renders_blockTokens hi level more h.2
      have happ := hb.append hmore fun rest hr => noInlineFirst_blockTokens level more hr
      simpa only [blockTokens, blockItems, renderBlocks, b.length_tokens 0 level] using happ

end

end blocks

/-! ## Documents -/

/-- A heading is one step, and its closing token asks for nothing. -/
theorem run_heading {s : Setting} (hi : s.options.marks.ignore ≠ []) {depth : Nat} {r : Running}
    {index : Nat} {rest : List Token} {p : Pass} :
    Pass.run s index ((Block.heading depth r).tokens 0 ++ rest) p =
      Pass.run s (index + ((Block.heading depth r).tokens 0).length) rest
        (p.heading s r.content) := by
  rw [Block.tokens, between_append,
    Pass.run_of_asks (.heading (escapes_bare hi _ _ _) rfl rfl) rfl]
  exact Pass.run_bare_skip hi rfl rfl

/-- A shaped block in front is rendered, and the rest is rendered from where it ends. -/
theorem renderFrom_cons_of_shaped {b : Block Running} (h : b.shaped false = true) (s : Setting)
    (k : Nat) (started : Bool) (more : List (Block Running)) :
    renderFrom s k started (b :: more) =
      renderBlock s k b ++ renderFrom s k (started || !(renderBlock s k b).isEmpty) more := by
  cases b with
  | heading depth r => simp [Block.shaped] at h
  | _ => rfl

/-- The run over top-level blocks. The induction is over the blocks; a heading changes the level
for those behind it. -/
theorem run_blockTokens {s : Setting} (hi : s.options.marks.ignore ≠ [])
    {bs : List (Block Running)} (hs : shapedBlocks true true bs = true) {k index : Nat} {p : Pass}
    (hp : p.Sound) (hl : p.level = k) :
    (Pass.run s index (blockTokens 0 bs) p).map (·.out) =
      outcome (blockItems index bs) (.ok (p.out ++ renderFrom s k (!p.out.isEmpty) bs)) := by
  induction bs generalizing k index p with
  | nil => simp [blockTokens, Pass.run_nil, blockItems, renderFrom, Except.map]
  | cons b more ih =>
    simp only [shapedBlocks, Bool.and_eq_true] at hs
    obtain ⟨hb, hmore⟩ := hs
    rw [blockTokens, blockItems]
    rcases heading_or_shaped hb with ⟨depth, r, rfl⟩ | hb
    · have hstarted : (!(p.heading s r.content).out.isEmpty) = true := by
        simp [Pass.out_heading, Pass.labelLine]
      rw [run_heading hi, ih hmore (hp.heading s r.content) rfl, hstarted, Pass.out_heading]
      simp only [Block.items, List.nil_append, renderFrom, List.append_assoc]
    · have hfirst : NoInlineFirst (blockTokens 0 more) := by
        simpa only [List.append_nil] using noInlineFirst_blockTokens 0 more .nil
      have hrun : Pass.run s index (b.tokens 0 ++ blockTokens 0 more) p = _ :=
        renders_block hi 0 b hb hfirst hp hl
      have hempty : (!(p.out ++ renderBlock s k b).isEmpty) =
          (!p.out.isEmpty || !(renderBlock s k b).isEmpty) := by
        cases hout : p.out <;> simp
      rw [hrun, map_outcome, ih hmore (hp.write _) hl, outcome_append,
        renderFrom_cons_of_shaped hb, Pass.out_write, hempty, List.append_assoc]

/-- **The script of a stream is the script of its tree**, or the error of its first item without a
label. -/
theorem ofTokens_blockTokens {s : Setting} (hi : s.options.marks.ignore ≠ [])
    {trees : List (Block Running)} (hs : shapedBlocks true true trees = true) :
    ofTokens s (blockTokens 0 trees) = outcome (blockItems 0 trees) (.ok (render s trees)) :=
  run_blockTokens hi hs Pass.sound_start rfl

end NovelScript.Script
