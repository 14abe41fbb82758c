import NovelScript.Proofs.Script.Options
import NovelScript.Proofs.Script.Render

/-!
# The level that a document leaves behind

A heading sets the level to one, wherever it stands, while the lists and quotes around it still have
levels to give back. `blockLevel?` follows the level alone over a tree: it is `none` when a list or
an item is to give back a level that a heading in it has taken away.

* **`leads_blockTokens`**: the pass over the stream of labelled blocks does what `levels?` says,
  from any sound state, and what was open around the blocks is open behind them.
* `levels?_ne_none`: where no list holds a heading behind a label, nothing goes wrong.
* **`ofTokens_invalidIndent`**: when a document stops with an invalid level. A menu with an item
  that holds a heading behind its label is such a document (`ofTokens_heading_in_menu`).
-/

namespace NovelScript.Markdown

variable {ρ : Type}

mutual

/-- Are the lists of the block, at any depth, lists of items, at least one, and has every item a
label? Headings may stand anywhere. -/
def Block.labelled : Block ρ → Bool
  | .list _ items => !items.isEmpty && items.all Block.isItem && labelledBlocks items
  | .item body => (label? body).isSome && labelledBlocks body
  | .quote body => labelledBlocks body
  | _ => true

/-- The same for blocks one after the other. -/
def labelledBlocks : List (Block ρ) → Bool
  | [] => true
  | b :: more => b.labelled && labelledBlocks more

end

mutual

/-- Is there no heading inside a list, labels aside? `heading` says whether one may stand here. -/
def Block.listsPlain (heading : Bool) : Block ρ → Bool
  | .heading _ _ => heading
  | .list _ items => listsPlainBlocks false items
  | .item body => listsPlainTail body
  | .quote body => listsPlainBlocks heading body
  | _ => true

/-- The same for blocks one after the other. -/
def listsPlainBlocks (heading : Bool) : List (Block ρ) → Bool
  | [] => true
  | b :: more => b.listsPlain heading && listsPlainBlocks heading more

/-- The same for the blocks of an item behind its label. -/
def listsPlainTail : List (Block ρ) → Bool
  | [] => true
  | _ :: more => listsPlainBlocks false more

end

/-- A list of labelled items starts with one. -/
theorem exists_item_of_labelled {ordered : Bool} {items : List (Block ρ)}
    (h : (Block.list ordered items).labelled = true) :
    ∃ body more r, items = .item body :: more ∧ label? body = some r := by
  simp only [Block.labelled, Bool.and_eq_true] at h
  obtain ⟨⟨hne, hall⟩, hitems⟩ := h
  obtain ⟨body, more, rfl⟩ := exists_item_cons hne hall
  simp only [labelledBlocks, Block.labelled, Bool.and_eq_true] at hitems
  obtain ⟨r, hr⟩ := Option.isSome_iff_exists.mp hitems.1.1
  exact ⟨body, more, r, rfl, hr⟩

end NovelScript.Markdown

namespace NovelScript.Script

open Markdown

/-! ## Levels of a tree -/

/-- One level up; there is none above zero. -/
def up? : Nat → Option Nat
  | 0 => none
  | k + 1 => some k

mutual

/-- The level behind a block that starts at level `k`; `none` when it falls below zero. -/
def blockLevel? (k : Nat) : Block Running → Option Nat
  | .heading _ _ => some 1
  | .list true items => levels? k items
  | .list false items => if branches items then levels? k items else (levels? (k + 1) items).bind up?
  | .item body => (levelsTail? (k + 1) body).bind up?
  | .quote body => (levels? (k - 1) body).map fun j => if 0 < k then j + 1 else j
  | _ => some k

/-- The level behind blocks one after the other. -/
def levels? (k : Nat) : List (Block Running) → Option Nat
  | [] => some k
  | b :: more => (blockLevel? k b).bind fun j => levels? j more

/-- The level behind all blocks but the first. -/
def levelsTail? (k : Nat) : List (Block Running) → Option Nat
  | [] => some k
  | _ :: more => levels? k more

end

/-! ## Lists without headings -/

-- inside a list the level behind a block is the level before it; outside of lists a heading may
-- change it, but there is nothing to give back but the level of a quote
mutual

/-- A block that has no heading, neither itself nor in its lists, leaves the level where it was. The
proof follows the tree, mutual with the one for lists of blocks. -/
theorem blockLevel?_of_listsPlain (k : Nat) :
    (b : Block Running) → b.listsPlain false = true → blockLevel? k b = some k
  | .heading _ _, h => by simp [Block.listsPlain] at h
  | .paragraph _, _ => rfl
  | .list true items, h => by
      rw [Block.listsPlain] at h
      rw [blockLevel?, levels?_of_listsPlain k items h]
  | .list false items, h => by
      rw [Block.listsPlain] at h
      rw [blockLevel?, levels?_of_listsPlain k items h, levels?_of_listsPlain (k + 1) items h]
      split
      · rfl
      · rfl
  | .item [], _ => rfl
  | .item (_ :: more), h => by
      rw [Block.listsPlain, listsPlainTail] at h
      rw [blockLevel?, levelsTail?, levels?_of_listsPlain (k + 1) more h]
      rfl
  | .quote body, h => by
      rw [Block.listsPlain] at h
      rw [blockLevel?, levels?_of_listsPlain (k - 1) body h]
      cases k with
      | zero => rfl
      | succ k => simp
  | .fence _ _, _ => rfl
  | .code _, _ => rfl
  | .markup _, _ => rfl
  | .rule, _ => rfl

/-- Such blocks, one after the other, leave the level where it was. -/
theorem levels?_of_listsPlain (k : Nat) :
    (bs : List (Block Running)) → listsPlainBlocks false bs = true → levels? k bs = some k
  | [], _ => rfl
  | b :: more, h => by
      simp only [listsPlainBlocks, Bool.and_eq_true] at h
      rw [levels?, blockLevel?_of_listsPlain k b h.1]
      exact levels?_of_listsPlain k more h.2

end

mutual

/-- Where a heading may stand, a block without headings in its lists does not fail: the level of a
heading is set outside of every list, and so no list is closed at a level that is too low. -/
theorem blockLevel?_ne_none (k : Nat) :
    (b : Block Running) → b.listsPlain true = true → blockLevel? k b ≠ none
  | .quote body, h => by
      rw [Block.listsPlain] at h
      rw [blockLevel?, Ne, Option.map_eq_none_iff]
      exact levels?_ne_none (k - 1) body h
  | .heading _ _, _ => by simp [blockLevel?]
  | .paragraph r, _ => by simp [blockLevel?]
  | .list ordered items, h => by
      have hplain : (Block.list ordered items).listsPlain false = true := h
      simp [blockLevel?_of_listsPlain k _ hplain]
  | .item body, h => by
      have hplain : (Block.item body).listsPlain false = true := h
      simp [blockLevel?_of_listsPlain k _ hplain]
  | .fence _ _, _ => by simp [blockLevel?]
  | .code _, _ => by simp [blockLevel?]
  | .markup _, _ => by simp [blockLevel?]
  | .rule, _ => by simp [blockLevel?]

/-- Where no list holds a heading behind a label, the level never falls below zero. -/
theorem levels?_ne_none (k : Nat) :
    (bs : List (Block Running)) → listsPlainBlocks true bs = true → levels? k bs ≠ none
  | [], _ => by simp [levels?]
  | b :: more, h => by
      simp only [listsPlainBlocks, Bool.and_eq_true] at h
      obtain ⟨j, hj⟩ := Option.ne_none_iff_exists'.mp (blockLevel?_ne_none k b h.1)
      rw [levels?, hj]
      exact levels?_ne_none j more h.2

end

/-! ## Tokens that lead to a level -/

/-- The state `q` is sound and at level `j`, and the same lists and quotes are open as in `p`. -/
structure Pass.Level (p q : Pass) (j : Nat) : Prop where
  sound : q.Sound
  level_eq : q.level = j
  lists_eq : q.lists = p.lists
  quotes_eq : q.quotes = p.quotes

/-- The tokens lead from every level to the one that `next` says: from every sound state the pass
goes on behind them at that level, with the same lists and quotes open, and where there is no such
level it stops with an invalid one. -/
structure Leads (s : Setting) (tokens : List Token) (next : Nat → Option Nat) : Prop where
  goes : ∀ (index : Nat) (rest : List Token) {k j : Nat} {p : Pass}, p.Sound → p.level = k →
    next k = some j → ∃ q, p.Level q j ∧
      Pass.run s index (tokens ++ rest) p = Pass.run s (index + tokens.length) rest q
  stops : ∀ (index : Nat) (rest : List Token) {k : Nat} {p : Pass}, p.Sound → p.level = k →
    next k = none → Pass.run s index (tokens ++ rest) p = .error (.invalidIndent (-1))

/-- What a closing token makes of a state: a state at level `i` with the lists and quotes of `p`
open, or an invalid level where there is no `i`. -/
def Pass.Closes (p : Pass) (i : Option Nat) (r : Except PassError Pass) : Prop :=
  match i with
  | some i => ∃ q, p.Level q i ∧ r = .ok q
  | none => r = .error (.invalidIndent (-1))

/-- An action that fails stops the pass. -/
theorem Pass.run_of_asks_error {s : Setting} {index : Nat} {t : Token} {rest : List Token}
    {p : Pass} {a : Action} {e : PassError} (ha : Asks s t rest a)
    (hp : a.perform s p = .error e) : run s index (t :: rest) p = .error e :=
  run_of_step_error (step_eq_error_iff_or.mpr (.inr ⟨a, ha, hp⟩))

namespace Leads

variable {s : Setting} {tokens more : List Token} {next next' : Nat → Option Nat}

/-- No tokens leave the level where it was. -/
theorem nil : Leads s [] some where
  goes index rest k j p hp hl hj := by
    cases hj
    exact ⟨p, ⟨hp, hl, rfl, rfl⟩, rfl⟩
  stops index rest k p hp hl hj := by cases hj

/-- Groups of tokens one after the other lead from level to level, and where the first one fails the
second one is not come to. -/
theorem append (h : Leads s tokens next) (hm : Leads s more next') :
    Leads s (tokens ++ more) fun k => (next k).bind next' where
  goes index rest k j p hp hl hj := by
    obtain ⟨i, hi, hj⟩ := Option.bind_eq_some_iff.mp hj
    obtain ⟨q, hq, hrun⟩ := h.goes index (more ++ rest) hp hl hi
    obtain ⟨r, hr, hrun'⟩ := hm.goes (index + tokens.length) rest hq.sound hq.level_eq hj
    refine ⟨r, ⟨hr.sound, hr.level_eq, hr.lists_eq.trans hq.lists_eq,
      hr.quotes_eq.trans hq.quotes_eq⟩, ?_⟩
    rw [List.append_assoc, hrun, hrun', List.length_append, Nat.add_assoc]
  stops index rest k p hp hl hj := by
    rw [List.append_assoc]
    cases hi : next k with
    | none => exact h.stops index (more ++ rest) hp hl hi
    | some i =>
      rw [hi, Option.bind_some] at hj
      obtain ⟨q, hq, hrun⟩ := h.goes index (more ++ rest) hp hl hi
      rw [hrun]
      exact hm.stops _ rest hq.sound hq.level_eq hj

/-- A token that only writes leaves the level. -/
theorem writes {t : Token} (text : Nat → Text) (hk : looksAhead t.kind = false)
    (hw : ∀ {k : Nat} {p : Pass}, p.level = k →
      (Action.ofToken t).perform s p = .ok (p.write (text k))) :
    Leads s [t] some where
  goes index rest k j p hp hl hj := by
    cases hj
    exact ⟨_, ⟨hp.write _, hl, rfl, rfl⟩, Pass.run_content hk hl (hw hl)⟩
  stops index rest k p hp hl hj := by cases hj

/-- An ending item or menu gives back the level that it took, if it is still there. -/
theorem closes_dedent {p r : Pass} {j : Nat} (hr : p.Level r j) : p.Closes (up? j) r.dedent := by
  obtain ⟨hsound, hlevel, hlists, hquotes⟩ := hr
  cases j with
  | zero => exact Pass.dedent_of_level_zero hlevel
  | succ j =>
    refine ⟨{ r with level := j }, ⟨⟨Int.natCast_nonneg _, hsound.conditional_eq⟩, rfl, hlists,
      hquotes⟩, ?_⟩
    exact Pass.dedent_of_level_succ hlevel

variable (hi : s.options.marks.ignore ≠ [])

include hi

/-- Tokens that are enclosed: those in `front` lead from `k` to a state at level `enter k`, and
`close k` says what the closing token makes of the level behind the tokens. -/
theorem enclosed (h : Leads s tokens next) (front : List Token) {closing : Kind} {tag : Text}
    {level : Int} (enter : Nat → Nat) (close : Nat → Nat → Option Nat)
    (hc : looksAhead closing = false)
    (hopen : ∀ (index : Nat) (rest : List Token) {k : Nat} {p : Pass}, p.Sound → p.level = k →
      ∃ q : Pass, q.Sound ∧ q.level = enter k ∧
        Pass.run s index (front ++ (tokens ++ bare closing tag level :: rest)) p =
          Pass.run s (index + front.length) (tokens ++ bare closing tag level :: rest) q ∧
        ∀ {j : Nat} {r : Pass}, q.Level r j →
          p.Closes (close k j) ((Action.ofToken (bare closing tag level)).perform s r)) :
    Leads s (front ++ tokens ++ [bare closing tag level])
      fun k => (next (enter k)).bind (close k) where
  goes index rest k i p hp hl hj := by
    obtain ⟨j, hj, hclose⟩ := Option.bind_eq_some_iff.mp hj
    obtain ⟨q, hq, hql, hrun, hend⟩ := hopen index rest hp hl
    obtain ⟨r, hr, hrun'⟩ :=
      h.goes (index + front.length) (bare closing tag level :: rest) hq hql hj
    have hend := hend hr
    rw [hclose] at hend
    obtain ⟨r', hr', hperform⟩ := hend
    refine ⟨r', hr', ?_⟩
    simp only [List.append_assoc, List.singleton_append, List.length_append, List.length_singleton]
    rw [hrun, hrun', Pass.run_of_asks_alone (asks_bare hi hc tag level rest) hperform]
    congr 1
    omega
  stops index rest k p hp hl hj := by
    obtain ⟨q, hq, hql, hrun, hend⟩ := hopen index rest hp hl
    simp only [List.append_assoc, List.singleton_append]
    rw [hrun]
    cases hn : next (enter k) with
    | none => exact h.stops _ _ hq hql hn
    | some j =>
      rw [hn, Option.bind_some] at hj
      obtain ⟨r, hr, hrun'⟩ :=
        h.goes (index + front.length) (bare closing tag level :: rest) hq hql hn
      have hend := hend hr
      rw [hj] at hend
      rw [hrun']
      exact Pass.run_of_asks_error (asks_bare hi hc tag level rest) hend

/-- A pair that asks for nothing. -/
theorem between_skip (h : Leads s tokens next) {opening closing : Kind} {tag : Text} {level : Int}
    (ho : looksAhead opening = false) (hos : Action.ofToken (bare opening tag level) = .skip)
    (hc : looksAhead closing = false) (hcs : Action.ofToken (bare closing tag level) = .skip) :
    Leads s (Markdown.between opening closing tag level tokens) next := by
  have hb : Leads s (Markdown.between opening closing tag level tokens)
      fun k => (next k).bind some := by
    refine h.enclosed hi [bare opening tag level] id (fun _ => some) hc ?_
    intro index rest k p hp hl
    refine ⟨p, hp, hl, Pass.run_bare_skip hi ho hos, ?_⟩
    intro j r hr
    rw [hcs]
    exact ⟨r, hr, rfl⟩
  simpa only [Option.bind_fun_some] using hb

/-- A quote gives its level back, whatever the level of the blocks in it has become, because it
remembers whether it went up. -/
theorem quote (h : Leads s tokens next) (tag : Text) (level : Int) :
    Leads s (Markdown.between .blockquoteOpen .blockquoteClose tag level tokens)
      fun k => (next (k - 1)).map fun j => if 0 < k then j + 1 else j := by
  simp only [Option.map_eq_bind]
  refine h.enclosed hi [bare .blockquoteOpen tag level] (· - 1)
    (fun k j => some (if 0 < k then j + 1 else j)) rfl ?_
  intro index rest k p hp hl
  have hopen : (Action.ofToken (bare .blockquoteOpen tag level)).perform s p = _ :=
    Pass.openQuote_of_level hl
  refine ⟨_, ?_, ?_, Pass.run_of_asks_alone (asks_bare hi rfl _ _ _) hopen, ?_⟩
  · exact ⟨Int.natCast_nonneg _, hp.conditional_eq⟩
  · rfl
  intro j r hr
  obtain ⟨hsound, hlevel, hlists, hquotes⟩ := hr
  refine ⟨{ r with level := (if 0 < k then j + 1 else j : Nat), quotes := p.quotes },
    ⟨⟨Int.natCast_nonneg _, hsound.conditional_eq⟩, rfl, hlists, rfl⟩, ?_⟩
  simp only [Action.ofToken, bare, Action.perform, Pass.closeQuote, hquotes, hlevel]
  by_cases hk : 0 < k
  · simp [hk]
  · simp [hk]

/-- A list of branches leaves the level to its items: it takes none for itself and gives none
back. -/
theorem branches (h : Leads s tokens next) {tag : Text} {level : Int} {first : Token}
    (hn : ∀ rest, (tokens ++ bare .bulletListClose tag level :: rest)[2]? = some first)
    (hb : Text.startsWith [question] first.content = true) :
    Leads s (Markdown.between .bulletListOpen .bulletListClose tag level tokens) next := by
  have hlist : Leads s (Markdown.between .bulletListOpen .bulletListClose tag level tokens)
      fun k => (next k).bind some := by
    refine h.enclosed hi [bare .bulletListOpen tag level] id (fun _ => some) rfl ?_
    intro index rest k p hp hl
    have hopen := Pass.openList_of_level hl first.content
    rw [hb, if_pos rfl] at hopen
    refine ⟨_, ?_, ?_, Pass.run_openList hi (hn rest) hopen, ?_⟩
    · exact ⟨hp.level_nonneg, rfl⟩
    · exact hl
    intro j r hr
    obtain ⟨hsound, hlevel, hlists, hquotes⟩ := hr
    refine ⟨{ r with lists := p.lists, conditional := p.lists.headD false },
      ⟨⟨hsound.level_nonneg, rfl⟩, hlevel, rfl, hquotes⟩, ?_⟩
    simp only [Action.ofToken, bare, Action.perform, Pass.closeList, hlists, if_true]
  simpa only [Option.bind_fun_some] using hlist

/-- A menu takes a level for its items and wants it back. When its items have lost a level, there is
none to give back at the top, and this is the failure. -/
theorem menu (h : Leads s tokens next) {tag : Text} {level : Int} {first : Token}
    (hn : ∀ rest, (tokens ++ bare .bulletListClose tag level :: rest)[2]? = some first)
    (hb : Text.startsWith [question] first.content = false) :
    Leads s (Markdown.between .bulletListOpen .bulletListClose tag level tokens)
      fun k => (next (k + 1)).bind up? := by
  refine h.enclosed hi [bare .bulletListOpen tag level] (· + 1) (fun _ => up?) rfl ?_
  intro index rest k p hp hl
  have hopen := Pass.openList_of_level hl first.content
  rw [hb, if_neg Bool.false_ne_true] at hopen
  refine ⟨_, ?_, ?_, Pass.run_openList hi (hn rest) hopen, ?_⟩
  · exact ⟨Int.natCast_nonneg _, rfl⟩
  · rfl
  intro j r hr
  obtain ⟨hsound, hlevel, hlists, hquotes⟩ := hr
  have hclosed : p.Level { r with lists := p.lists, conditional := p.lists.headD false } j :=
    ⟨⟨hsound.level_nonneg, rfl⟩, hlevel, rfl, hquotes⟩
  simpa only [Action.ofToken, bare, Action.perform, Pass.closeList, hlists, Bool.false_eq_true,
    if_false] using closes_dedent hclosed

/-- An item with a label takes a level for the blocks behind it and wants it back. -/
theorem item {level : Int} {first : Block Running} {more : List (Block Running)} {r : Running}
    (hlabel : label? (first :: more) = some r)
    (h : Leads s (blockTokens (level + 1) more) next) :
    Leads s ((Block.item (first :: more)).tokens level) fun k => (next (k + 1)).bind up? := by
  obtain ⟨opening, closing, tag, hclosing, htokens⟩ := exists_tokens_item hlabel level
  rw [htokens]
  refine h.enclosed hi _ (· + 1) (fun _ => up?) rfl ?_
  intro index rest k p hp hl
  have hopen : (Action.openItem r.content).perform s p = _ := Pass.openItem_of_level hl r.content
  -- the label is consumed with the opening token, its closing token is passed over
  refine ⟨_, ?_, ?_, (Pass.run_of_asks (.openItem (escapes_bare hi _ _ _) rfl rfl) hopen).trans
    (Pass.run_label_close hi hclosing), ?_⟩
  · exact ⟨Int.natCast_nonneg _, hp.conditional_eq⟩
  · rfl
  intro j q hq
  exact closes_dedent ⟨hq.sound, hq.level_eq, hq.lists_eq, hq.quotes_eq⟩

/-- A heading sets the level to one, whatever it was. It is the only block that does not give back
what it took. -/
theorem heading (depth : Nat) (r : Running) (level : Int) :
    Leads s ((Block.heading depth r).tokens level) fun _ => some 1 where
  goes index rest k j p hp hl hj := by
    cases hj
    have hperform : (Action.heading r.content).perform s p = .ok (p.heading s r.content) := rfl
    refine ⟨p.heading s r.content, ⟨hp.heading s r.content, rfl, ?_, ?_⟩, ?_⟩
    · unfold Pass.heading
      split
      · rfl
      · rfl
    · unfold Pass.heading
      split
      · rfl
      · rfl
    · rw [Block.tokens, between_append,
        Pass.run_of_asks (.heading (escapes_bare hi _ _ _) rfl rfl) hperform]
      exact Pass.run_bare_skip hi rfl rfl
  stops index rest k p hp hl hj := by cases hj

end Leads

/-! ## Blocks -/

section blocks

variable {s : Setting}

mutual

/-- The tokens of a labelled block lead where the block does, or fail where it does. The proof
follows the tree, mutual with the one for lists of blocks. -/
theorem leads_block (hi : s.options.marks.ignore ≠ []) (level : Int) :
    (b : Block Running) → b.labelled = true → Leads s (b.tokens level) fun k => blockLevel? k b
  | .heading depth r, _ => .heading hi depth r level
  | .paragraph r, _ => by
      have hinline : Leads s [inlineToken r (level + 1)] some :=
        .writes _ rfl fun hl => Pass.pieces_of_level hl s r.pieces
      exact hinline.between_skip hi rfl rfl rfl rfl
  | .list true items, h => by
      simp only [Block.labelled, Bool.and_eq_true] at h
      exact (leads_blockTokens hi (level + 1) items h.2).between_skip hi rfl rfl rfl rfl
  | .list false items, h => by
      obtain ⟨body, more, r, heq, hlabel⟩ := exists_item_of_labelled h
      simp only [Block.labelled, Bool.and_eq_true] at h
      have hitems := leads_blockTokens hi (level + 1) items h.2
      have hn : ∀ rest, (blockTokens (level + 1) items ++
          bare .bulletListClose (Text.lit "ul") level :: rest)[2]? =
            some (inlineToken r (level + 1 + 1 + 1)) := by
        intro rest
        rw [heq]
        exact getElem?_blockTokens_item hlabel more (level + 1) _
      have hbranches : branches items = Text.startsWith [question] r.content := by
        simp [branches, heq, hlabel]
      simp only [blockLevel?, hbranches]
      cases hb : Text.startsWith [question] r.content with
      | true => exact hitems.branches hi hn hb
      | false => exact hitems.menu hi hn hb
  | .item [], h => by simp [Block.labelled, label?] at h
  | .item (first :: more), h => by
      simp only [Block.labelled, labelledBlocks, Bool.and_eq_true] at h
      obtain ⟨r, hlabel⟩ := Option.isSome_iff_exists.mp h.1
      exact .item hi hlabel (leads_blockTokens hi (level + 1) more h.2.2)
  | .quote body, h => by
      simp only [Block.labelled] at h
      exact (leads_blockTokens hi (level + 1) body h).quote hi (Text.lit "blockquote") level
  | .fence _ _, _ => .writes _ rfl fun hl => Pass.indented_of_level hl _
  | .code _, _ => .writes (fun _ => []) rfl fun _ => by simp [Action.ofToken, Action.perform]
  | .markup _, _ => .writes _ rfl fun hl => Pass.line_of_level hl _
  | .rule, _ => .writes (fun _ => []) rfl fun _ => by simp [Action.ofToken, bare, Action.perform]

/-- **The pass over labelled blocks keeps to the levels of their tree.** -/
theorem leads_blockTokens (hi : s.options.marks.ignore ≠ []) (level : Int) :
    (bs : List (Block Running)) → labelledBlocks bs = true →
      Leads s (blockTokens level bs) fun k => levels? k bs
  | [], _ => .nil
  | b :: more, h => by
      simp only [labelledBlocks, Bool.and_eq_true] at h
      exact (leads_block hi level b h.1).append (leads_blockTokens hi level more h.2)

end

end blocks

/-! ## Documents -/

/-- A labelled document has a script unless its levels fall below zero. The levels are computed from
the tree alone, without the pass. -/
theorem ofTokens_of_levels? {s : Setting} (hi : s.options.marks.ignore ≠ [])
    {trees : List (Block Running)} (hs : labelledBlocks trees = true) :
    (levels? 0 trees ≠ none → ∃ script, ofTokens s (blockTokens 0 trees) = .ok script) ∧
      (levels? 0 trees = none → ofTokens s (blockTokens 0 trees) = .error (.invalidIndent (-1))) := by
  have hleads := leads_blockTokens hi 0 trees hs
  constructor
  · intro h
    obtain ⟨j, hj⟩ := Option.ne_none_iff_exists'.mp h
    obtain ⟨q, -, hrun⟩ := hleads.goes 0 [] Pass.sound_start rfl hj
    rw [List.append_nil, Pass.run_nil] at hrun
    exact ⟨q.out, by rw [ofTokens, hrun]; rfl⟩
  · intro h
    have hrun := hleads.stops 0 [] Pass.sound_start rfl h
    rw [List.append_nil] at hrun
    rw [ofTokens, hrun]
    rfl

/-- **Which documents end below level zero.** Let the options be accepted, and let every list of the
document have items and every item a label; headings may stand anywhere. The pass stops with an
invalid level exactly when the levels of the tree fall below zero. They do not when no list holds a
heading behind a label. -/
theorem ofTokens_invalidIndent (o : Options) (label : Text → Text) {trees : List (Block Running)}
    (hv : o.validate = .ok ()) (hs : labelledBlocks trees = true) :
    ((∃ level, ofTokens (.of o label) (blockTokens 0 trees) = .error (.invalidIndent level)) ↔
      levels? 0 trees = none) ∧
    (listsPlainBlocks true trees = true →
      ∃ script, ofTokens (.of o label) (blockTokens 0 trees) = .ok script) := by
  have hi : (Setting.of o label).options.marks.ignore ≠ [] := Options.ignore_ne_nil hv
  obtain ⟨hgoes, hstops⟩ := ofTokens_of_levels? hi hs
  refine ⟨⟨?_, fun h => ⟨_, hstops h⟩⟩, fun h => hgoes (levels?_ne_none 0 trees h)⟩
  rintro ⟨level, hlevel⟩
  cases hj : levels? 0 trees with
  | none => rfl
  | some j =>
    obtain ⟨script, hscript⟩ := hgoes (by simp [hj])
    rw [hscript] at hlevel
    cases hlevel

/-- A heading in a quote does no harm, and neither does one at the start of an item. -/
theorem ofTokens_heading_in_quote :
    ∃ script, ofTokens (.of Options.default id) (blockTokens 0
      [.quote [.heading 1 ⟨Text.lit "Aside", []⟩],
        .list false [.item [.heading 2 ⟨Text.lit "Go", []⟩, .paragraph ⟨Text.lit "on", []⟩]]]) =
      .ok script :=
  (ofTokens_invalidIndent Options.default id Options.validate_default (by decide)).2 (by decide)

/-- A menu with an item that holds a heading behind its label. The heading sets the level to one, the
item gives one level back, and there is none left for the menu. -/
theorem ofTokens_heading_in_menu :
    Options.default.validate = .ok () ∧
      labelledBlocks [Block.list false [.item [.paragraph (⟨Text.lit "a", []⟩ : Running),
        .heading 1 ⟨Text.lit "h", []⟩]]] = true ∧
      ofTokens (.of Options.default id) (blockTokens 0
        [.list false [.item [.paragraph ⟨Text.lit "a", []⟩, .heading 1 ⟨Text.lit "h", []⟩]]]) =
        .error (.invalidIndent (-1)) := by
  have hi := Options.ignore_ne_nil Options.validate_default
  refine ⟨Options.validate_default, by decide, ?_⟩
  exact (ofTokens_of_levels? hi (by decide)).2 (by decide)

end NovelScript.Script
