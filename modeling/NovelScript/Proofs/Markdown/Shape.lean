import NovelScript.Markdown.Block

/-!
# The shape of a document and its token stream

Trees of blocks can have shapes that no document has. `shapedBlocks` says which ones are left: lists
have items and nothing else, at least one of them, and a heading inside another block is the first
block of an item. `blockItems` lists the items of blocks at any depth, each with the place of its
opening token in the stream.

* `blockItems_sorted`: the items stand in the order of their places.
* `standsIn_blockTokens`: the place of an item is where its tokens start.
* **`noInlineFirst_tail_of_label?_eq_none`**: when an item does not start with a paragraph or
  heading, the second token behind its opening token is not inline, wherever the item ends.
-/

namespace NovelScript.Markdown

variable {ρ : Type}

/-! ## Shapes -/

/-- Is the block an item? -/
def Block.isItem : Block ρ → Bool
  | .item _ => true
  | _ => false

mutual

/-- Has the block a shape that blocks of documents have, at a place where a heading may stand or
not? -/
def Block.shaped (heading : Bool) : Block ρ → Bool
  | .heading _ _ => heading
  | .paragraph _ => true
  | .list _ items => !items.isEmpty && items.all Block.isItem && shapedBlocks false false items
  | .item body => shapedBlocks true false body
  | .quote body => shapedBlocks false false body
  | .fence _ _ => true
  | .code _ => true
  | .markup _ => true
  | .rule => true

/-- The same for blocks one after the other: may the first of them be a heading, and may the others?
At the top of a document all may. -/
def shapedBlocks (first later : Bool) : List (Block ρ) → Bool
  | [] => true
  | b :: more => b.shaped first && shapedBlocks later later more

end

/-- The label of an item with this body: what its first block holds, when that is a paragraph or a
heading. -/
def label? : List (Block ρ) → Option ρ
  | .heading _ r :: _ => some r
  | .paragraph r :: _ => some r
  | _ => none

/-- Items and nothing else, at least one of them, start with an item. -/
theorem exists_item_cons {items : List (Block ρ)} (hne : (!items.isEmpty) = true)
    (hall : items.all Block.isItem = true) : ∃ body more, items = .item body :: more := by
  cases items with
  | nil => simp at hne
  | cons b more =>
    simp only [List.all_cons, Bool.and_eq_true] at hall
    cases b with
    | item body => exact ⟨body, more, rfl⟩
    | _ => simp [Block.isItem] at hall

/-- The items of a list of a shaped document are items. -/
theorem exists_item_of_shaped {ordered heading : Bool} {items : List (Block ρ)}
    (h : (Block.list ordered items).shaped heading = true) :
    ∃ body more, items = .item body :: more := by
  simp only [Block.shaped, Bool.and_eq_true] at h
  exact exists_item_cons h.1.1 h.1.2

/-- A block of the top level is a heading or may stand anywhere. -/
theorem heading_or_shaped {b : Block ρ} (h : b.shaped true = true) :
    (∃ depth body, b = .heading depth body) ∨ b.shaped false = true := by
  cases b with
  | heading depth body => exact .inl ⟨depth, body, rfl⟩
  | _ => exact .inr h

/-! ## Places -/

/-- An item with the place of its opening token in a stream. -/
structure PlacedItem where
  /-- The place. -/
  position : Nat
  /-- The blocks in it. -/
  body : List (Block Running)

mutual

/-- The items in a block whose first token is at `index`, at any depth, itself included. -/
def Block.items (index : Nat) : Block Running → List PlacedItem
  | .list _ items => blockItems (index + 1) items
  | .item body => ⟨index, body⟩ :: blockItems (index + 1) body
  | .quote body => blockItems (index + 1) body
  | _ => []

/-- The items in blocks one after the other, the first token at `index`. -/
def blockItems (index : Nat) : List (Block Running) → List PlacedItem
  | [] => []
  | b :: more => b.items index ++ blockItems (index + (b.tokens 0).length) more

end

/-- An opening and a closing token add two to what they enclose. -/
theorem length_between (opening closing : Kind) (tag : Text) (level : Int) (inner : List Token) :
    (between opening closing tag level inner).length = inner.length + 2 := by
  simp [between]

/-- What stands behind an enclosed group stands behind its closing token. -/
theorem between_append (opening closing : Kind) (tag : Text) (level : Int)
    (inner rest : List Token) :
    between opening closing tag level inner ++ rest =
      bare opening tag level :: (inner ++ bare closing tag level :: rest) := by
  simp [between]

mutual

/-- The level of a block does not matter for how many tokens it has, so places of items can be
counted at any level. -/
theorem Block.length_tokens (l m : Int) :
    (b : Block Running) → (b.tokens l).length = (b.tokens m).length
  | .heading _ _ => by simp only [Block.tokens, length_between, List.length_singleton]
  | .paragraph _ => by simp only [Block.tokens, length_between, List.length_singleton]
  | .list true items => by
      simp only [Block.tokens, length_between, length_blockTokens (l + 1) (m + 1) items]
  | .list false items => by
      simp only [Block.tokens, length_between, length_blockTokens (l + 1) (m + 1) items]
  | .item body => by
      simp only [Block.tokens, length_between, length_blockTokens (l + 1) (m + 1) body]
  | .quote body => by
      simp only [Block.tokens, length_between, length_blockTokens (l + 1) (m + 1) body]
  | .fence _ _ => by simp only [Block.tokens, List.length_singleton]
  | .code _ => by simp only [Block.tokens, List.length_singleton]
  | .markup _ => by simp only [Block.tokens, List.length_singleton]
  | .rule => by simp only [Block.tokens, List.length_singleton]

/-- The level does not change how many tokens there are. -/
theorem length_blockTokens (l m : Int) :
    (bs : List (Block Running)) → (blockTokens l bs).length = (blockTokens m bs).length
  | [] => rfl
  | b :: more => by
      simp only [blockTokens, List.length_append, b.length_tokens l m, length_blockTokens l m more]

end

/-- A body with a label starts with three tokens, the second of which holds the label, and there are
no items in them. -/
theorem exists_of_label?_eq_some {body : List (Block Running)} {r : Running}
    (h : label? body = some r) :
    ∃ first more, body = first :: more ∧
      (∀ index, blockItems index body = blockItems (index + 3) more) ∧
      ∃ opening closing tag, (closing = Kind.headingClose ∨ closing = Kind.paragraphClose) ∧
        ∀ level back, blockTokens level body ++ back =
          bare opening tag level :: inlineToken r (level + 1) :: bare closing tag level ::
            (blockTokens level more ++ back) := by
  cases body with
  | nil => simp [label?] at h
  | cons first more =>
    refine ⟨first, more, rfl, ?_⟩
    cases first with
    | heading depth r' =>
      cases h
      refine ⟨fun _ => rfl, .headingOpen, .headingClose, headingTag depth, .inl rfl, ?_⟩
      intro level back
      simp [blockTokens, Block.tokens, between]
    | paragraph r' =>
      cases h
      refine ⟨fun _ => rfl, .paragraphOpen, .paragraphClose, Text.lit "p", .inr rfl, ?_⟩
      intro level back
      simp [blockTokens, Block.tokens, between]
    | _ => simp [label?] at h

/-- The tokens of an item with a label: the three of its first block, and those of the others. -/
theorem exists_tokens_item {first : Block Running} {more : List (Block Running)} {r : Running}
    (h : label? (first :: more) = some r) (level : Int) :
    ∃ opening closing tag, (closing = Kind.headingClose ∨ closing = Kind.paragraphClose) ∧
      (Block.item (first :: more)).tokens level =
        [bare .listItemOpen (Text.lit "li") level, bare opening tag (level + 1),
          inlineToken r (level + 1 + 1), bare closing tag (level + 1)] ++
          blockTokens (level + 1) more ++ [bare .listItemClose (Text.lit "li") level] := by
  obtain ⟨_, _, heq, -, opening, closing, tag, hclosing, htokens⟩ := exists_of_label?_eq_some h
  cases heq
  refine ⟨opening, closing, tag, hclosing, ?_⟩
  have hbody := htokens (level + 1) [bare .listItemClose (Text.lit "li") level]
  simp [Block.tokens, between, hbody]

/-- The label of the first item is the third token among those of the items. -/
theorem getElem?_blockTokens_item {body : List (Block Running)} {r : Running}
    (h : label? body = some r) (more : List (Block Running)) (level : Int) (back : List Token) :
    (blockTokens level (.item body :: more) ++ back)[2]? = some (inlineToken r (level + 1 + 1)) := by
  obtain ⟨_, _, -, -, opening, closing, tag, -, htokens⟩ := exists_of_label?_eq_some h
  rw [blockTokens, List.append_assoc, Block.tokens, between_append, htokens]
  rfl

/-- The tokens of the item stand in `tokens`, whose first token is at `index`, at the place of the
item. -/
def PlacedItem.StandsIn (x : PlacedItem) (index : Nat) (tokens : List Token) : Prop :=
  ∃ front level back, tokens = front ++ (Block.item x.body).tokens level ++ back ∧
    x.position = index + front.length

namespace PlacedItem.StandsIn

variable {x : PlacedItem} {index : Nat} {tokens : List Token}

/-- What stands at a position stands there whatever is put behind. -/
theorem append (h : x.StandsIn index tokens) (more : List Token) :
    x.StandsIn index (tokens ++ more) := by
  obtain ⟨front, level, back, rfl, hp⟩ := h
  exact ⟨front, level, back ++ more, by simp only [List.append_assoc], hp⟩

/-- What is put in front moves it on. -/
theorem behind {front : List Token} (h : x.StandsIn (index + front.length) tokens) :
    x.StandsIn index (front ++ tokens) := by
  obtain ⟨inner, level, back, rfl, hp⟩ := h
  refine ⟨front ++ inner, level, back, by simp only [List.append_assoc], ?_⟩
  rw [hp, List.length_append, Nat.add_assoc]

/-- An enclosing pair moves it on by one. -/
theorem between (h : x.StandsIn (index + 1) tokens) (opening closing : Kind) (tag : Text)
    (level : Int) : x.StandsIn index (Markdown.between opening closing tag level tokens) := by
  have hb : x.StandsIn (index + [bare opening tag level].length)
      (tokens ++ [bare closing tag level]) := h.append _
  exact hb.behind

/-- A position lies within the tokens that it is one of. -/
theorem bounds (h : x.StandsIn index tokens) :
    index ≤ x.position ∧ x.position < index + tokens.length := by
  obtain ⟨front, level, back, rfl, hp⟩ := h
  simp only [Block.tokens, List.length_append, length_between]
  omega

end PlacedItem.StandsIn

mutual

/-- **The place of an item is where its tokens start**, at any depth. It is mutual with the
statement about lists of blocks, since items hold blocks and lists hold items. -/
theorem Block.standsIn_of_mem {x : PlacedItem} (index : Nat) (level : Int) :
    (b : Block Running) → x ∈ b.items index → x.StandsIn index (b.tokens level)
  | .list true items, h => by
      rw [Block.items] at h
      exact (standsIn_blockTokens (index + 1) (level + 1) items h).between _ _ _ _
  | .list false items, h => by
      rw [Block.items] at h
      exact (standsIn_blockTokens (index + 1) (level + 1) items h).between _ _ _ _
  | .item body, h => by
      rw [Block.items] at h
      rcases List.mem_cons.mp h with rfl | h
      · exact ⟨[], level, [], by simp, rfl⟩
      · exact (standsIn_blockTokens (index + 1) (level + 1) body h).between _ _ _ _
  | .quote body, h => by
      rw [Block.items] at h
      exact (standsIn_blockTokens (index + 1) (level + 1) body h).between _ _ _ _
  | .heading _ _, h => by simp [Block.items] at h
  | .paragraph _, h => by simp [Block.items] at h
  | .fence _ _, h => by simp [Block.items] at h
  | .code _, h => by simp [Block.items] at h
  | .markup _, h => by simp [Block.items] at h
  | .rule, h => by simp [Block.items] at h

/-- **The label of an item stands where the item is placed**, whatever blocks it is nested in. The
proof follows the tree, mutual with the one for items. -/
theorem standsIn_blockTokens {x : PlacedItem} (index : Nat) (level : Int) :
    (bs : List (Block Running)) → x ∈ blockItems index bs →
      x.StandsIn index (blockTokens level bs)
  | [], h => by simp [blockItems] at h
  | b :: more, h => by
      rw [blockItems] at h
      rcases List.mem_append.mp h with h | h
      · exact (b.standsIn_of_mem index level h).append _
      · have hm := standsIn_blockTokens _ level more h
        rw [b.length_tokens 0 level] at hm
        exact hm.behind

end

mutual

/-- The items of a block stand in the order of their places. So the first one without a label is the
one that the pass meets first. -/
theorem Block.items_sorted (index : Nat) :
    (b : Block Running) → (b.items index).Pairwise fun x y => x.position < y.position
  | .list _ items => by
      rw [Block.items]
      exact blockItems_sorted (index + 1) items
  | .item body => by
      rw [Block.items, List.pairwise_cons]
      refine ⟨fun x hx => ?_, blockItems_sorted (index + 1) body⟩
      have := (standsIn_blockTokens (index + 1) 0 body hx).bounds
      simp only
      omega
  | .quote body => by
      rw [Block.items]
      exact blockItems_sorted (index + 1) body
  | .heading _ _ => by simp [Block.items]
  | .paragraph _ => by simp [Block.items]
  | .fence _ _ => by simp [Block.items]
  | .code _ => by simp [Block.items]
  | .markup _ => by simp [Block.items]
  | .rule => by simp [Block.items]

/-- Items are listed in the order in which their tokens stand. -/
theorem blockItems_sorted (index : Nat) :
    (bs : List (Block Running)) →
      (blockItems index bs).Pairwise fun x y => x.position < y.position
  | [] => by simp [blockItems]
  | b :: more => by
      rw [blockItems, List.pairwise_append]
      refine ⟨b.items_sorted index, blockItems_sorted _ more, ?_⟩
      intro x hx y hy
      have hx := (b.standsIn_of_mem index 0 hx).bounds
      have hy := (standsIn_blockTokens _ 0 more hy).bounds
      omega

end

/-! ## Where inline tokens stand -/

/-- The tokens do not start with an inline token. -/
def NoInlineFirst (tokens : List Token) : Prop :=
  ∀ t, tokens[0]? = some t → t.isInline = false

/-- No tokens do not begin with inline text. -/
theorem NoInlineFirst.nil : NoInlineFirst [] := by
  intro t ht
  cases ht

/-- Tokens begin with inline text only when the first one is inline text. -/
theorem NoInlineFirst.cons {t : Token} (h : t.isInline = false) (rest : List Token) :
    NoInlineFirst (t :: rest) := by
  intro u hu
  cases hu
  exact h

/-- No block starts with an inline token. -/
theorem Block.noInlineFirst_tokens (level : Int) (b : Block Running) (rest : List Token) :
    NoInlineFirst (b.tokens level ++ rest) := by
  cases b with
  | list ordered items => cases ordered <;> exact .cons rfl _
  | heading depth r => exact .cons rfl _
  | paragraph r => exact .cons rfl _
  | item body => exact .cons rfl _
  | quote body => exact .cons rfl _
  | fence info content => exact .cons rfl _
  | code content => exact .cons rfl _
  | markup content => exact .cons rfl _
  | rule => exact .cons rfl _

/-- The tokens of blocks never begin with inline text, so looking ahead from an empty item does not
find the text of its successor. -/
theorem noInlineFirst_blockTokens (level : Int) (bs : List (Block Running)) {rest : List Token}
    (h : NoInlineFirst rest) : NoInlineFirst (blockTokens level bs ++ rest) := by
  cases bs with
  | nil => exact h
  | cons b more =>
    rw [blockTokens, List.append_assoc]
    exact b.noInlineFirst_tokens level _

/-- **The label test does not need to know where an item ends**: when a body has no label, the
second token from its start is not inline, whatever stands behind the item. -/
theorem noInlineFirst_tail_of_label?_eq_none {level : Int} {body : List (Block Running)}
    (hl : label? body = none) {close : Token} (hc : close.isInline = false) {rest : List Token}
    (hr : NoInlineFirst rest) :
    NoInlineFirst (blockTokens level body ++ close :: rest).tail := by
  have hclose : ∀ more, NoInlineFirst (blockTokens level more ++ close :: rest) := fun more =>
    noInlineFirst_blockTokens level more (.cons hc rest)
  -- behind the first token of a container stand its blocks, or its closing token
  have hinner : ∀ (kind : Kind) (tag : Text) (inner : List (Block Running)) (back : List Token),
      kind ≠ .inline →
      NoInlineFirst (blockTokens (level + 1) inner ++ bare kind tag level :: back) :=
    fun kind tag inner back hk => noInlineFirst_blockTokens _ inner
      (.cons (by simpa [Token.isInline, bare] using hk) back)
  cases body with
  | nil => exact hr
  | cons b more =>
    cases b with
    | heading depth r => simp [label?] at hl
    | paragraph r => simp [label?] at hl
    | list ordered items =>
      cases ordered with
      | true =>
        have := hinner .orderedListClose (Text.lit "ol") items
          (blockTokens level more ++ close :: rest) (by simp)
        simpa [blockTokens, Block.tokens, between] using this
      | false =>
        have := hinner .bulletListClose (Text.lit "ul") items
          (blockTokens level more ++ close :: rest) (by simp)
        simpa [blockTokens, Block.tokens, between] using this
    | item inner =>
      have := hinner .listItemClose (Text.lit "li") inner
        (blockTokens level more ++ close :: rest) (by simp)
      simpa [blockTokens, Block.tokens, between] using this
    | quote inner =>
      have := hinner .blockquoteClose (Text.lit "blockquote") inner
        (blockTokens level more ++ close :: rest) (by simp)
      simpa [blockTokens, Block.tokens, between] using this
    | fence info content => simpa [blockTokens, Block.tokens] using hclose more
    | code content => simpa [blockTokens, Block.tokens] using hclose more
    | markup content => simpa [blockTokens, Block.tokens] using hclose more
    | rule => simpa [blockTokens, Block.tokens] using hclose more

end NovelScript.Markdown
