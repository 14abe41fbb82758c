import NovelScript.Proofs.Script.Lines
import NovelScript.Proofs.Script.Render

/-!
# Where a script ends within a line

Every rule but one writes whole lines. The start of a quote writes its keyword alone and leaves the
line to whatever is written next, which may be the block behind the quote when nothing in the quote
writes.

* `Action.unfinished_perform`: whether a script ends within a line is known after each action from
  the action and from whether it did before. `Reaches.ends_in_extend`: where it does, it ends in the
  keyword of a quote, whatever the stream is.
* `leavesOpen` follows that over a tree, and `ends_blockTokens` says that a pass which gets
  through the stream of the tree does the same, for any trees at all.
* `leavesOpenAll_eq_false`: where every quote holds a block that writes, every line is ended.
* **`unfinished_at_boundary`** puts this together for the boundaries of top-level blocks. A quote
  that holds no block, or only blocks that write nothing, leaves its line to the next block
  (`ofTokens_empty_quote`).
-/

namespace NovelScript.Script

open Markdown
open Text (newline)

/-! ## Lines that are not ended -/

/-- Does the text end within a line? The empty text does not. -/
def unfinished (s : Text) : Bool :=
  s.getLast?.any (· != newline)

/-- What ends in a line break is finished. -/
theorem unfinished_append_newline (s : Text) : unfinished (s ++ [newline]) = false := by
  simp [unfinished]

/-- What ends in a line is finished. -/
theorem unfinished_append_lineAt (s : Text) (k : Nat) (l : Text) :
    unfinished (s ++ lineAt k l) = false := by
  unfold lineAt
  rw [← List.append_assoc]
  exact unfinished_append_newline _

/-- Lines that are added finish what was there; no lines leave it as it was. -/
theorem unfinished_append_lines (s : Text) (k : Nat) (ls : List Text) :
    unfinished (s ++ ls.flatMap (lineAt k)) = (unfinished s && ls.isEmpty) := by
  induction ls generalizing s with
  | nil => simp
  | cons l ls ih =>
    rw [List.flatMap_cons, ← List.append_assoc, ih, unfinished_append_lineAt]
    simp

/-- The word `extend` and a blank, with nothing behind them, are unfinished. -/
theorem unfinished_append_extend (s : Text) (k : Nat) :
    unfinished (s ++ (margin k ++ Text.lit "extend ")) = true := by
  have hlast : (Text.lit "extend ").getLast? = some Text.blank := by decide
  have hblank : (Text.blank != newline) = true := by decide
  simp [unfinished, hlast, hblank]

/-! ## What actions leave -/

/-- Does the script end within a line behind the action? `before` says whether it did before it. -/
def Action.leavesOpen (s : Setting) (before : Bool) : Action → Bool
  | .openQuote => true
  | .pieces ps => before && (ps.filterMap (Pass.pieceLine s)).isEmpty
  | .openList first => before && Text.startsWith [question] first
  | .closeItem | .closeList | .closeQuote | .skip => before
  | .escape _ | .code _ | .heading _ | .openItem _ | .remark _ => false

/-- **What an action leaves**: only the start of a quote leaves a line that was ended before. The
cases are the actions one by one. -/
theorem Action.unfinished_perform {s : Setting} {a : Action} {p q : Pass} (hp : p.Sound)
    (h : a.perform s p = .ok q) : unfinished q.out = a.leavesOpen s (unfinished p.out) := by
  obtain ⟨k, hk⟩ := hp.exists_level
  rw [Action.out_perform hk h]
  cases a with
  | openQuote => exact unfinished_append_extend p.out k
  | pieces ps => exact unfinished_append_lines p.out k _
  | openList first =>
    cases hb : Text.startsWith [question] first with
    | true => simp [text, leavesOpen, hb]
    | false => simp [text, leavesOpen, hb, unfinished_append_lineAt]
  | escape content => exact unfinished_append_lineAt p.out k _
  | openItem label => exact unfinished_append_lineAt p.out k _
  | remark content => exact unfinished_append_lineAt p.out k _
  | code content =>
    simp only [text, Pass.codeText, ← List.append_assoc]
    exact unfinished_append_newline _
  | heading content =>
    simp only [text, Pass.labelLine, ← List.append_assoc]
    exact unfinished_append_newline _
  | closeItem => simp [text, leavesOpen]
  | closeList => simp [text, leavesOpen]
  | closeQuote => simp [text, leavesOpen]
  | skip => simp [text, leavesOpen]

/-- Where a line is open behind an action that does not start a quote, the action wrote nothing. So
the line was open before. -/
theorem Action.text_eq_nil {s : Setting} {a : Action} {before : Bool}
    (h : a.leavesOpen s before = true) (hq : a ≠ .openQuote) (k : Nat) (started : Bool) :
    a.text s k started = [] := by
  cases a with
  | openQuote => contradiction
  | pieces ps =>
    have hnone := List.isEmpty_iff.mp (Bool.and_eq_true_iff.mp h).2
    simp [text, hnone]
  | openList first =>
    have hb := (Bool.and_eq_true_iff.mp h).2
    simp [text, hb]
  | closeItem => rfl
  | closeList => rfl
  | closeQuote => rfl
  | skip => rfl
  | _ => cases h

namespace Reaches

variable {s : Setting} {tokens : List Token} {index : Nat} {p : Pass}

/-- **A line that is not ended is that of a quote**: over any stream, what is written so far is
empty, ends with a line break, or ends with the keyword of a quote. -/
theorem ends_in_extend (h : Reaches s tokens index p) (hopen : unfinished p.out = true) :
    Text.lit "extend " <:+ p.out := by
  induction h with
  | start => cases hopen
  | @next index next p q hr hi ih =>
    obtain ⟨t, extra, -, hs, -⟩ := hi
    obtain ⟨a, -, hp, -⟩ := Pass.step_eq_ok_iff.mp hs
    obtain ⟨k, hk⟩ := hr.sound.exists_level
    have hout := Action.out_perform hk hp
    have hleft := Action.unfinished_perform hr.sound hp
    rw [hopen] at hleft
    by_cases hq : a = .openQuote
    · subst hq
      refine ⟨p.out ++ margin k, ?_⟩
      simpa [Action.text] using hout.symm
    · rw [Action.text_eq_nil hleft.symm hq, List.append_nil] at hout
      rw [hout] at hopen ⊢
      exact ih hopen

/-- When the pass gets through, its step succeeds at every place that it comes to. The rest of the
pass is what `Reaches` leads to. -/
theorem step_of_ok (h : Reaches s tokens index p) {t : Token} {rest : List Token} {script : Text}
    (hd : tokens.drop index = t :: rest) (hok : ofTokens s tokens = .ok script) :
    ∃ a q, Asks s t rest a ∧ Reaches s tokens (index + 1 + a.extra) q ∧
      unfinished q.out = a.leavesOpen s (unfinished p.out) := by
  have ht : (Cursor.mk tokens index).current? = some t := by
    rw [Cursor.current?_natCast, ← List.head?_drop, hd]
    rfl
  have hrest : tokens.drop (index + 1) = rest := by
    rw [← List.tail_drop, hd]
    rfl
  cases hs : Pass.step s index t (tokens.drop (index + 1)) p with
  | error e =>
    have herror := ofTokens_eq_error_iff.mpr (h.run_eq_error ⟨t, ht, hs⟩)
    rw [hok] at herror
    cases herror
  | ok r =>
    obtain ⟨q, extra⟩ := r
    obtain ⟨a, ha, hp, rfl⟩ := Pass.step_eq_ok_iff.mp hs
    rw [hrest] at ha
    exact ⟨a, q, ha, h.next ⟨t, _, ht, hs, rfl⟩, Action.unfinished_perform h.sound hp⟩

end Reaches

/-- A run takes back nothing that is written. -/
theorem Pass.out_prefix_of_run {s : Setting} {index : Nat} {tokens : List Token} {p r : Pass}
    (hp : p.Sound) (h : Pass.run s index tokens p = .ok r) : p.out <+: r.out := by
  fun_induction Pass.run s index tokens p with
  | case1 index p =>
    cases h
    exact List.prefix_rfl
  | case2 index p t rest e hs => cases h
  | case3 index p t rest q extra hs ih =>
    obtain ⟨hq, hout, -⟩ := Pass.sound_of_step hp hs
    exact hout.trans (ih hq h)

/-- What is written at a place that the pass comes to is the start of the script, and at the end of
the stream it is the script. -/
theorem Reaches.out_prefix {s : Setting} {tokens : List Token} {index : Nat} {p : Pass}
    (h : Reaches s tokens index p) {script : Text} (hok : ofTokens s tokens = .ok script) :
    p.out <+: script ∧ (index = tokens.length → p.out = script) := by
  unfold ofTokens at hok
  cases hrun : Pass.run s 0 tokens {} with
  | error e =>
    rw [hrun] at hok
    cases hok
  | ok r =>
    rw [hrun] at hok
    cases hok
    constructor
    · rw [h.run_eq] at hrun
      exact Pass.out_prefix_of_run h.sound hrun
    · intro hend
      subst hend
      rw [h.run_eq_ok] at hrun
      cases hrun
      rfl

/-! ## Blocks that leave a line open -/

mutual

/-- The level of a block does not matter for what its tokens hold, mutual with the same for lists of
blocks. -/
theorem map_content_tokens (l m : Int) :
    (b : Block Running) → (b.tokens l).map Token.content = (b.tokens m).map Token.content
  | .heading _ _ => rfl
  | .paragraph _ => rfl
  | .list true items => by
      simp [Block.tokens, between, bare, map_content_blockTokens (l + 1) (m + 1) items]
  | .list false items => by
      simp [Block.tokens, between, bare, map_content_blockTokens (l + 1) (m + 1) items]
  | .item body => by
      simp [Block.tokens, between, bare, map_content_blockTokens (l + 1) (m + 1) body]
  | .quote body => by
      simp [Block.tokens, between, bare, map_content_blockTokens (l + 1) (m + 1) body]
  | .fence _ _ => rfl
  | .code _ => rfl
  | .markup _ => rfl
  | .rule => rfl

/-- The level does not change what the tokens say. -/
theorem map_content_blockTokens (l m : Int) :
    (bs : List (Block Running)) →
      (blockTokens l bs).map Token.content = (blockTokens m bs).map Token.content
  | [] => rfl
  | b :: more => by
      simp only [blockTokens, List.map_append, map_content_tokens l m b,
        map_content_blockTokens l m more]

end

/-- What the tokens of blocks hold. -/
def contents (bs : List (Block Running)) : List Text :=
  (blockTokens 0 bs).map Token.content

/-- Does a bullet list with these contents behind its start hold branches? -/
def branchesAhead (behind : List Text) : Bool :=
  behind[2]?.any (Text.startsWith [question])

section leavesOpen

variable (s : Setting)

/-- Does a paragraph write nothing? So it is when it is not escaped and none of its pieces has a
line. -/
def silent (r : Running) : Bool :=
  !Text.startsWith s.options.marks.ignore r.content &&
    (r.pieces.filterMap (Pass.pieceLine s)).isEmpty

mutual

/-- Does the script end within a line behind a block? `before` says whether it does in front of the
block, and `behind` is what the tokens behind the block hold. -/
def leavesOpen (before : Bool) (behind : List Text) : Block Running → Bool
  | .heading _ _ => false
  | .paragraph r => before && silent s r
  | .list true items => leavesOpenAll before ([] :: behind) items
  | .list false items =>
    leavesOpenAll (before && branchesAhead (contents items ++ [] :: behind)) ([] :: behind) items
  | .item body => leavesOpenTail ([] :: behind) body
  | .quote body => leavesOpenAll true ([] :: behind) body
  | .fence _ _ => false
  | .code content => before && !Text.startsWith s.options.marks.ignore content
  | .markup _ => false
  | .rule => before

/-- The same for blocks one after the other. -/
def leavesOpenAll (before : Bool) (behind : List Text) : List (Block Running) → Bool
  | [] => before
  | b :: more => leavesOpenAll (leavesOpen before (contents more ++ behind) b) behind more

/-- The same for the blocks of an item behind its label; the header of the item is a line. -/
def leavesOpenTail (behind : List Text) : List (Block Running) → Bool
  | [] => false
  | _ :: more => leavesOpenAll false behind more

end

mutual

/-- Does the block write something, wherever it stands? A list or quote does when a block in it
does. -/
def writes : Block Running → Bool
  | .heading _ _ => true
  | .paragraph r => !silent s r
  | .list _ items => writesAny items
  | .item _ => true
  | .quote body => writesAny body
  | .fence _ _ => true
  | .code content => Text.startsWith s.options.marks.ignore content
  | .markup _ => true
  | .rule => false

/-- Does one of the blocks write something? -/
def writesAny : List (Block Running) → Bool
  | [] => false
  | b :: more => writes b || writesAny more

end

mutual

/-- Does every quote in the block, at any depth, hold a block that writes? -/
def quotesWrite : Block Running → Bool
  | .list _ items => quotesWriteAll items
  | .item body => quotesWriteAll body
  | .quote body => writesAny s body && quotesWriteAll body
  | _ => true

/-- The same for blocks one after the other. -/
def quotesWriteAll : List (Block Running) → Bool
  | [] => true
  | b :: more => quotesWrite b && quotesWriteAll more

end

end leavesOpen

section quotesWrite

variable {s : Setting}

-- a block behind which the line is open left it as it was and wrote nothing, since its quotes do not
-- leave one open themselves
mutual

/-- Where every quote writes something, a block leaves a line open only if it was open before and
the block writes nothing. -/
theorem leavesOpen_of_quotesWrite {before : Bool} {behind : List Text} :
    (b : Block Running) → quotesWrite s b = true → leavesOpen s before behind b = true →
      before = true ∧ writes s b = false
  | .heading _ _, _, h => by cases h
  | .paragraph r, _, h => by
      rw [leavesOpen, Bool.and_eq_true] at h
      exact ⟨h.1, by rw [writes, h.2]; rfl⟩
  | .list true items, hq, h => leavesOpenAll_of_quotesWrite items hq h
  | .list false items, hq, h => by
      rw [leavesOpen] at h
      obtain ⟨hbefore, hnone⟩ := leavesOpenAll_of_quotesWrite items hq h
      exact ⟨(Bool.and_eq_true_iff.mp hbefore).1, hnone⟩
  | .item [], _, h => by cases h
  | .item (first :: more), hq, h => by
      rw [quotesWrite, quotesWriteAll, Bool.and_eq_true] at hq
      rw [leavesOpen, leavesOpenTail] at h
      cases (leavesOpenAll_of_quotesWrite more hq.2 h).1
  | .quote body, hq, h => by
      rw [quotesWrite, Bool.and_eq_true] at hq
      rw [leavesOpen] at h
      obtain ⟨-, hnone⟩ := leavesOpenAll_of_quotesWrite body hq.2 h
      rw [hnone] at hq
      cases hq.1
  | .fence _ _, _, h => by cases h
  | .code content, _, h => by
      rw [leavesOpen, Bool.and_eq_true, Bool.not_eq_true'] at h
      exact h
  | .markup _, _, h => by cases h
  | .rule, _, h => ⟨h, rfl⟩

/-- The same for blocks one after the other. -/
theorem leavesOpenAll_of_quotesWrite {before : Bool} {behind : List Text} :
    (bs : List (Block Running)) → quotesWriteAll s bs = true →
      leavesOpenAll s before behind bs = true → before = true ∧ writesAny s bs = false
  | [], _, h => ⟨h, rfl⟩
  | b :: more, hq, h => by
      rw [quotesWriteAll, Bool.and_eq_true] at hq
      rw [leavesOpenAll] at h
      obtain ⟨hb, hmore⟩ := leavesOpenAll_of_quotesWrite more hq.2 h
      obtain ⟨hbefore, hnone⟩ := leavesOpen_of_quotesWrite b hq.1 hb
      exact ⟨hbefore, by rw [writesAny, hnone, hmore]; rfl⟩

end

/-- **Where every quote holds a block that writes, every line is ended.** -/
theorem leavesOpenAll_eq_false {bs : List (Block Running)} (h : quotesWriteAll s bs = true)
    (behind : List Text) : leavesOpenAll s false behind bs = false := by
  rw [← Bool.not_eq_true]
  intro hopen
  cases (leavesOpenAll_of_quotesWrite bs h hopen).1

end quotesWrite

/-! ## Tokens that end their lines -/

/-- What the tokens leave: a pass that gets through the stream they stand in comes to the place
behind them, and whether the script ends within a line there is what `next` makes of whether it did
in front of them and of what the tokens behind them hold. -/
def Ends (s : Setting) (tokens : List Token) (next : Bool → List Text → Bool) : Prop :=
  ∀ ⦃all : List Token⦄ ⦃index : Nat⦄ ⦃rest : List Token⦄ ⦃p : Pass⦄ ⦃script : Text⦄,
    NoInlineFirst rest → Reaches s all index p → all.drop index = tokens ++ rest →
      ofTokens s all = .ok script →
      ∃ q, Reaches s all (index + tokens.length) q ∧
        unfinished q.out = next (unfinished p.out) (rest.map Token.content)

namespace Ends

variable {s : Setting} {tokens more : List Token} {next after : Bool → List Text → Bool}

/-- No tokens leave the end of the script as it was. -/
theorem nil : Ends s [] fun before _ => before := by
  intro all index rest p script _ hr _ _
  exact ⟨p, hr, rfl⟩

/-- The ends of two groups of tokens are put together: what the first leaves is what the second
starts from. -/
theorem append (h : Ends s tokens next) (hm : Ends s more after)
    (hfirst : ∀ rest, NoInlineFirst rest → NoInlineFirst (more ++ rest)) :
    Ends s (tokens ++ more) fun before behind =>
      after (next before (more.map Token.content ++ behind)) behind := by
  intro all index rest p script hrest hr hd hok
  rw [List.append_assoc] at hd
  obtain ⟨q, hq, hnext⟩ := h (hfirst rest hrest) hr hd hok
  have hdrop : all.drop (index + tokens.length) = more ++ rest := by
    rw [← List.drop_drop, hd, List.drop_left]
  obtain ⟨r, hr', hafter⟩ := hm hrest hq hdrop hok
  refine ⟨r, ?_, ?_⟩
  · rw [List.length_append, ← Nat.add_assoc]
    exact hr'
  · rw [hafter, hnext, List.map_append]

/-- A token that is alone is one action, and leaves what the action leaves. -/
theorem alone {t : Token} (hk : looksAhead t.kind = false) :
    Ends s [t] fun before _ => !s.escapes t && (Action.ofToken t).leavesOpen s before := by
  intro all index rest p script _ hr hd hok
  obtain ⟨a, q, ha, hq, hleft⟩ := hr.step_of_ok hd hok
  cases ha with
  | escape he =>
    refine ⟨q, hq, ?_⟩
    simp [hleft, he, Action.leavesOpen]
  | heading _ hkind => simp [hkind, looksAhead] at hk
  | openList _ hkind => simp [hkind, looksAhead] at hk
  | openItem _ hkind => simp [hkind, looksAhead] at hk
  | alone he =>
    rw [Action.extra_ofToken] at hq
    refine ⟨q, hq, ?_⟩
    simp [hleft, he]

/-- A token with content, which is a line when it is escaped; `quiet` says whether it writes nothing
when it is not. -/
theorem content {t : Token} {quiet : Bool} (hk : looksAhead t.kind = false)
    (hquiet : ∀ before, (Action.ofToken t).leavesOpen s before = (before && quiet)) :
    Ends s [t] fun before _ => before && (!s.escapes t && quiet) := by
  have h := alone (s := s) hk
  simp only [hquiet] at h
  simpa only [Bool.and_left_comm] using h

variable (hi : s.options.marks.ignore ≠ [])

include hi

/-- A token without content. -/
theorem aloneBare {kind : Kind} (hk : looksAhead kind = false) (tag : Text) (level : Int) :
    Ends s [bare kind tag level] fun before _ =>
      (Action.ofToken (bare kind tag level)).leavesOpen s before := by
  have h := alone (s := s) (t := bare kind tag level) hk
  simpa only [escapes_bare hi, Bool.not_false, Bool.true_and] using h

/-- The start of a bullet list: a menu is a line, and a list of branches writes nothing. -/
theorem openList (tag : Text) (level : Int) :
    Ends s [bare .bulletListOpen tag level] fun before behind =>
      before && branchesAhead behind := by
  intro all index rest p script _ hr hd hok
  replace hd : all.drop index = bare .bulletListOpen tag level :: rest := hd
  obtain ⟨a, q, ha, hq, hleft⟩ := hr.step_of_ok hd hok
  have hfirst : ∃ first, rest[2]? = some first := by
    rw [← Option.ne_none_iff_exists']
    intro hnone
    have hlacks := actionOf_eq_error_iff.mpr
      ⟨escapes_bare hi .bulletListOpen tag level, show Lacks _ rest .firstItem from ⟨rfl, hnone⟩⟩
    rw [actionOf_eq_ok_iff.mpr ha] at hlacks
    cases hlacks
  obtain ⟨first, hn⟩ := hfirst
  obtain rfl := ha.unique (.openList (escapes_bare hi _ _ _) rfl hn)
  refine ⟨q, hq, ?_⟩
  rw [hleft]
  simp [Action.leavesOpen, branchesAhead, hn]

/-- The start of a heading and its text. -/
theorem heading (tag : Text) (level : Int) (r : Running) (inner : Int) :
    Ends s [bare .headingOpen tag level, inlineToken r inner] fun _ _ => false := by
  intro all index rest p script _ hr hd hok
  obtain ⟨a, q, ha, hq, hleft⟩ := hr.step_of_ok hd hok
  obtain rfl := ha.unique (.heading (escapes_bare hi _ _ _) rfl rfl)
  exact ⟨q, hq, hleft⟩

/-- The start of a paragraph and its text: each of its pieces is a line, and a paragraph without any
writes nothing. -/
theorem paragraph (tag : Text) (level : Int) (r : Running) (inner : Int) :
    Ends s [bare .paragraphOpen tag level, inlineToken r inner] fun before _ =>
      before && silent s r := by
  intro all index rest p script hrest hr hd hok
  obtain ⟨a, q, ha, hq, hleft⟩ := hr.step_of_ok hd hok
  obtain rfl := ha.unique (asks_bare hi rfl _ _ _)
  rw [Action.extra_ofToken] at hq
  have hdrop : all.drop (index + 1) = [inlineToken r inner] ++ rest := by
    rw [← List.drop_drop, hd]
    rfl
  have htext : Ends s [inlineToken r inner] fun before _ => before && silent s r :=
    content rfl fun _ => rfl
  obtain ⟨q', hq', hafter⟩ := htext hrest hq hdrop hok
  rw [hleft] at hafter
  exact ⟨q', hq', hafter⟩

/-- The start of an item, the start of its label and the label. -/
theorem openItem (tag : Text) (level : Int) (t : Token) (r : Running) (inner : Int) :
    Ends s [bare .listItemOpen tag level, t, inlineToken r inner] fun _ _ => false := by
  intro all index rest p script _ hr hd hok
  obtain ⟨a, q, ha, hq, hleft⟩ := hr.step_of_ok hd hok
  obtain rfl := ha.unique (.openItem (escapes_bare hi _ _ _) rfl rfl)
  exact ⟨q, hq, hleft⟩

/-- Tokens between an opening and a closing one leave what they leave by themselves, when neither of
the two writes anything. -/
theorem enclosed (h : Ends s tokens next) {opening closing : Kind} {tag : Text} {level : Int}
    {enter : Bool → List Text → Bool} (hopen : Ends s [bare opening tag level] enter)
    (hc : looksAhead closing = false) (hinline : closing ≠ .inline)
    (hkeeps : ∀ before,
      (Action.ofToken (bare closing tag level)).leavesOpen s before = before)
    (hfirst : ∀ rest, NoInlineFirst rest → NoInlineFirst (tokens ++ rest)) :
    Ends s (between opening closing tag level tokens) fun before behind =>
      next (enter before (tokens.map Token.content ++ [] :: behind)) ([] :: behind) := by
  have hclosing : Token.isInline (bare closing tag level) = false := by
    simpa [Token.isInline, bare] using hinline
  have hclose : Ends s [bare closing tag level] fun before _ => before := by
    have hb := aloneBare hi hc tag level
    simpa only [hkeeps] using hb
  have hinner := hopen.append h hfirst
  have hall := hinner.append hclose fun rest _ => .cons hclosing rest
  simpa [between, bare] using hall

/-- An item without a label stops the pass, so a pass that gets through has met none. -/
theorem item_of_no_label {level : Int} {body : List (Block Running)} (hlabel : label? body = none) :
    Ends s ((Block.item body).tokens level) next := by
  intro all index rest p script hrest hr hd hok
  simp only [Block.tokens, between_append] at hd
  obtain ⟨a, q, ha, -, -⟩ := hr.step_of_ok hd hok
  have herror := actionOf_eq_error_iff.mpr
    ⟨escapes_bare hi .listItemOpen (Text.lit "li") level, lacks_itemLabel level hlabel hrest⟩
  rw [actionOf_eq_ok_iff.mpr ha] at herror
  cases herror

/-- An item with a label: its header is a line, and the other blocks follow. So an item never leaves
open what was open before it. -/
theorem item_of_label {level : Int} {first : Block Running} {more : List (Block Running)}
    {r : Running} (hlabel : label? (first :: more) = some r)
    (h : Ends s (blockTokens (level + 1) more) next) :
    Ends s ((Block.item (first :: more)).tokens level) fun _ behind => next false ([] :: behind) := by
  obtain ⟨opening, closing, tag, hclosing, htokens⟩ := exists_tokens_item hlabel level
  have hskip : Ends s [bare closing tag (level + 1)] fun before _ => before := by
    rcases hclosing with rfl | rfl
    · exact aloneBare hi rfl _ _
    · exact aloneBare hi rfl _ _
  have hnone : Token.isInline (bare closing tag (level + 1)) = false := by
    rcases hclosing with rfl | rfl
    · rfl
    · rfl
  have hclose : Ends s [bare .listItemClose (Text.lit "li") level] fun before _ => before :=
    aloneBare hi rfl _ _
  have hlabelled := (openItem hi (Text.lit "li") level (bare opening tag (level + 1)) r
    (level + 1 + 1)).append hskip fun rest _ => .cons hnone rest
  have hbody := hlabelled.append h fun rest => noInlineFirst_blockTokens (level + 1) more
  have hall := hbody.append hclose fun rest _ => .cons rfl rest
  rw [htokens]
  exact hall

end Ends

/-! ## Trees -/

section trees

variable {s : Setting}

mutual

/-- The tokens of a block leave what the block does: whether the script ends within a line
afterwards can be told from the block and from what was there before. The proof follows the tree,
mutual with the one for lists of blocks. -/
theorem ends_block (hi : s.options.marks.ignore ≠ []) (level : Int) :
    (b : Block Running) → Ends s (b.tokens level) fun before behind => leavesOpen s before behind b
  | .heading depth r => by
      have hopen := Ends.heading hi (headingTag depth) level r (level + 1)
      have hclose : Ends s [bare .headingClose (headingTag depth) level] fun before _ => before :=
        Ends.aloneBare hi rfl _ _
      exact hopen.append hclose fun rest _ => .cons rfl rest
  | .paragraph r => by
      have hopen := Ends.paragraph hi (Text.lit "p") level r (level + 1)
      have hclose : Ends s [bare .paragraphClose (Text.lit "p") level] fun before _ => before :=
        Ends.aloneBare hi rfl _ _
      exact hopen.append hclose fun rest _ => .cons rfl rest
  | .list true items =>
      (ends_blockTokens hi (level + 1) items).enclosed hi (Ends.aloneBare hi rfl _ _) rfl (by simp)
        (fun _ => rfl) fun rest => noInlineFirst_blockTokens (level + 1) items
  | .list false items => by
      have hopen := Ends.openList hi (Text.lit "ul") level
      have hlist : Ends s ((Block.list false items).tokens level) _ :=
        (ends_blockTokens hi (level + 1) items).enclosed hi hopen rfl (by simp) (fun _ => rfl)
          fun rest => noInlineFirst_blockTokens (level + 1) items
      simpa only [leavesOpen, contents, map_content_blockTokens (level + 1) 0 items] using hlist
  -- without a label the pass stops here, and there is nothing to show
  | .item body => by
      cases hlabel : label? body with
      | none => exact .item_of_no_label hi hlabel
      | some r =>
        cases body with
        | nil => cases hlabel
        | cons first more => exact .item_of_label hi hlabel (ends_blockTokens hi (level + 1) more)
  | .quote body =>
      (ends_blockTokens hi (level + 1) body).enclosed hi (Ends.aloneBare hi rfl _ _) rfl (by simp)
        (fun _ => rfl) fun rest => noInlineFirst_blockTokens (level + 1) body
  | .fence info content => by
      have h : Ends s ((Block.fence info content).tokens level) fun before _ =>
          before && (!Text.startsWith s.options.marks.ignore content && false) :=
        Ends.content rfl fun before => (Bool.and_false before).symm
      simpa only [leavesOpen, Bool.and_false] using h
  | .code content => by
      have h : Ends s ((Block.code content).tokens level) fun before _ =>
          before && (!Text.startsWith s.options.marks.ignore content && true) :=
        Ends.content rfl fun before => (Bool.and_true before).symm
      simpa only [leavesOpen, Bool.and_true] using h
  | .markup content => by
      have h : Ends s ((Block.markup content).tokens level) fun before _ =>
          before && (!Text.startsWith s.options.marks.ignore content && false) :=
        Ends.content rfl fun before => (Bool.and_false before).symm
      simpa only [leavesOpen, Bool.and_false] using h
  | .rule => Ends.aloneBare hi rfl _ _

/-- **The end of the script after some blocks**, by induction on the tree: whether the last line is
open can be told from the blocks alone. -/
theorem ends_blockTokens (hi : s.options.marks.ignore ≠ []) (level : Int) :
    (bs : List (Block Running)) →
      Ends s (blockTokens level bs) fun before behind => leavesOpenAll s before behind bs
  | [] => .nil
  | b :: more => by
      have hall := (ends_block hi level b).append (ends_blockTokens hi level more) fun rest =>
        noInlineFirst_blockTokens level more
      simpa only [blockTokens, leavesOpenAll, contents, map_content_blockTokens level 0 more]
        using hall

end

end trees

/-! ## Boundaries of blocks -/

/-- Blocks one after the other give their tokens one after the other. -/
theorem blockTokens_append (level : Int) (front back : List (Block Running)) :
    blockTokens level (front ++ back) = blockTokens level front ++ blockTokens level back := by
  induction front with
  | nil => rfl
  | cons b front ih =>
    rw [List.cons_append, blockTokens, blockTokens, ih, List.append_assoc]

/-- **Where a script ends within a line.** Let the options be accepted, and let the pass get through
the stream of any trees, `front` and then `back`. Then it comes to the boundary between them, and
what is written there is the start of the script, or all of it when nothing follows.

It ends within a line exactly when the trees in `front` leave one open (`leavesOpenAll`), and then
with the keyword of a quote. Where every quote in `front`, at any depth, holds a block that writes,
it is empty or ends with a line break, so that what follows starts on a line of its own. -/
theorem unfinished_at_boundary (o : Options) (label : Text → Text) (hv : o.validate = .ok ())
    {front back : List (Block Running)} {script : Text}
    (hok : ofTokens (.of o label) (blockTokens 0 (front ++ back)) = .ok script) :
    ∃ p, Reaches (.of o label) (blockTokens 0 (front ++ back)) (blockTokens 0 front).length p ∧
      p.out <+: script ∧ (back = [] → p.out = script) ∧
      unfinished p.out = leavesOpenAll (.of o label) false (contents back) front ∧
      (unfinished p.out = true → Text.lit "extend " <:+ p.out) ∧
      (quotesWriteAll (.of o label) front = true → unfinished p.out = false) := by
  have hi : (Setting.of o label).options.marks.ignore ≠ [] := Options.ignore_ne_nil hv
  have hback : NoInlineFirst (blockTokens 0 back) := by
    have h := noInlineFirst_blockTokens 0 back .nil
    rwa [List.append_nil] at h
  obtain ⟨p, hp, hopen⟩ :=
    ends_blockTokens hi 0 front hback .start (blockTokens_append 0 front back) hok
  rw [Nat.zero_add] at hp
  obtain ⟨hstart, hend⟩ := hp.out_prefix hok
  refine ⟨p, hp, hstart, ?_, hopen, hp.ends_in_extend, ?_⟩
  · intro hnone
    apply hend
    rw [hnone, List.append_nil]
  · intro hwrite
    exact hopen.trans (leavesOpenAll_eq_false hwrite _)

/-- A quote of a break and a line, and a line behind it. -/
theorem unfinished_at_boundary_of_quote :
    ∃ p, Reaches (.of Options.default labelName)
        (blockTokens 0 ([.quote [.rule, .paragraph ⟨Text.lit "x", [⟨.text, Text.lit "x"⟩]⟩]] ++
          [.paragraph ⟨Text.lit "y", [⟨.text, Text.lit "y"⟩]⟩])) 6 p ∧
      p.out <+: Text.lit "extend \"x\"\n\"y\"\n" ∧ unfinished p.out = false := by
  have hok : ofTokens (.of Options.default labelName)
      (blockTokens 0 ([.quote [.rule, .paragraph ⟨Text.lit "x", [⟨.text, Text.lit "x"⟩]⟩]] ++
        [.paragraph ⟨Text.lit "y", [⟨.text, Text.lit "y"⟩]⟩])) =
      .ok (Text.lit "extend \"x\"\n\"y\"\n") := by cbv
  obtain ⟨p, hp, hstart, -, -, -, hends⟩ :=
    unfinished_at_boundary Options.default labelName Options.validate_default hok
  exact ⟨p, hp, hstart, hends (by decide)⟩

/-- An empty quote leaves its keyword behind: alone, the script ends within a line, and with a
paragraph behind the quote, that is what the keyword extends by. -/
theorem ofTokens_empty_quote :
    Options.default.validate = .ok () ∧
      ofTokens (.of Options.default labelName) (tokensOf (Text.lit ">\n")) =
        .ok (Text.lit "extend ") ∧
      unfinished (Text.lit "extend ") = true ∧
      ofTokens (.of Options.default labelName) (tokensOf (Text.lit ">\n\nx\n")) =
        .ok (Text.lit "extend \"x\"\n") := by
  refine ⟨Options.validate_default, ?_, by decide, ?_⟩
  · cbv
  · cbv

end NovelScript.Script
