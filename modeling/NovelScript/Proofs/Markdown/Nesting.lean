import NovelScript.Markdown.Document
import NovelScript.Proofs.Text.Decimal

/-!
# The stream of a document and its tree

A token stream says by opening and closing tokens what a tree says by its shape. Three things hold
of the stream of any blocks, also of blocks that no document has:

* `Nested`: it is a sequence of matched pairs, and every token is at the level of the pairs that are
  open around it (`nested_blockTokens`).
* `TextInPairs`: running text stands once in each heading and each paragraph, and nowhere else
  (`textInPairs_blockTokens`).
* `readBlocks?` reads the stream from left to right, with nothing but the pairs that are open and
  the blocks that it has finished, and finds the blocks again (`readBlocks?_blockTokens`).

**`blockTokens_wellNested`** puts them together.
-/

namespace NovelScript.Markdown

/-! ## Pairs -/

/-- The kind that closes what a kind opens; `none` when it opens nothing. -/
def Kind.closer? : Kind → Option Kind
  | .headingOpen => some .headingClose
  | .paragraphOpen => some .paragraphClose
  | .bulletListOpen => some .bulletListClose
  | .orderedListOpen => some .orderedListClose
  | .listItemOpen => some .listItemClose
  | .blockquoteOpen => some .blockquoteClose
  | _ => none

/-- Does the kind close a pair? -/
def Kind.closes : Kind → Bool
  | .headingClose | .paragraphClose | .bulletListClose | .orderedListClose | .listItemClose
  | .blockquoteClose => true
  | _ => false

/-- Are the tokens, read behind those that are still open (the innermost first), matched to the end?
An opening token is at the level of the pairs around it; a closing token has the kind, the element
and the level that its opening token asks for; any other token is at the level of the pairs around
it. -/
def Nested : (opened : List Token) → List Token → Prop
  | opened, [] => opened = []
  | opened, t :: rest =>
    if t.kind.closer?.isSome then t.level = opened.length ∧ Nested (t :: opened) rest
    else if t.kind.closes then
      match opened with
      | [] => False
      | o :: outer =>
        (o.kind.closer? = some t.kind ∧ o.tag = t.tag ∧ o.level = t.level) ∧
          t.level = outer.length ∧ Nested outer rest
    else t.level = opened.length ∧ Nested opened rest

/-- Does the kind open a pair around running text? -/
def Kind.opensText : Kind → Bool
  | .headingOpen | .paragraphOpen => true
  | _ => false

/-- Streams in which every heading and every paragraph is an opening token, one inline token and the
closing token, and no other token is inline. -/
inductive TextInPairs : List Token → Prop where
  | nil : TextInPairs []
  | pair {o t c : Token} {rest : List Token} (ho : o.kind.opensText = true)
      (ht : t.isInline = true) (hc : o.kind.closer? = some c.kind) (h : TextInPairs rest) :
      TextInPairs (o :: t :: c :: rest)
  | other {t : Token} {rest : List Token} (ho : t.kind.opensText = false)
      (ht : t.isInline = false)
      (hc : t.kind ≠ .headingClose ∧ t.kind ≠ .paragraphClose) (h : TextInPairs rest) :
      TextInPairs (t :: rest)

/-! ## Reading a stream -/

/-- The depth of a heading with this element. -/
def headingDepth? : Text → Option Nat
  | 0x68 :: digits => Text.digits? digits
  | _ => none

/-- The block of a pair, by its opening token, the text that was read in it and the blocks in it. -/
def pairBlock? (opening : Token) (text : Option Running) (body : List (Block Running)) :
    Option (Block Running) :=
  match opening.kind with
  | .headingOpen => do return .heading (← headingDepth? opening.tag) (← text)
  | .paragraphOpen => text.map .paragraph
  | .bulletListOpen => some (.list false body)
  | .orderedListOpen => some (.list true body)
  | .listItemOpen => some (.item body)
  | .blockquoteOpen => some (.quote body)
  | _ => none

/-- The block of a token that stands alone. -/
def leafBlock? (t : Token) : Option (Block Running) :=
  match t.kind with
  | .fence => some (.fence t.info t.content)
  | .codeBlock => some (.code t.content)
  | .htmlBlock => some (.markup t.content)
  | .rule => some .rule
  | _ => none

/-- A pair that is open: its opening token, and the blocks in front of it, the last one first. -/
structure OpenPair where
  opening : Token
  before : List (Block Running)

/-- Blocks that are put together from a stream, as far as it is read. -/
structure Assembly where
  /-- The pairs that are open, the innermost first. -/
  opened : List OpenPair := []
  /-- The blocks that were finished in the innermost pair, the last one first. -/
  finished : List (Block Running) := []
  /-- The text that was read in the innermost pair. -/
  text : Option Running := none

/-- One more token is read. -/
def Assembly.read (r : Assembly) (t : Token) : Option Assembly :=
  if t.kind.closer?.isSome then some ⟨⟨t, r.finished⟩ :: r.opened, [], none⟩
  else if t.isInline then some { r with text := some ⟨t.content, t.pieces⟩ }
  else if t.kind.closes then
    match r.opened with
    | [] => none
    | o :: outer =>
      if o.opening.kind.closer? = some t.kind then
        (pairBlock? o.opening r.text r.finished.reverse).map fun b => ⟨outer, b :: o.before, none⟩
      else none
  else (leafBlock? t).map fun b => { r with finished := b :: r.finished }

/-- The blocks of a stream, read from left to right. -/
def readBlocks? (tokens : List Token) : Option (List (Block Running)) := do
  let r ← tokens.foldlM Assembly.read {}
  if r.opened.isEmpty then some r.finished.reverse else none

/-! ## Nesting -/

/-- What closes a pair opens none. -/
theorem Kind.closes_of_closer? {opening closing : Kind} (h : opening.closer? = some closing) :
    closing.closer? = none ∧ closing.closes = true ∧ closing ≠ .inline := by
  cases opening with
  | headingOpen | paragraphOpen | bulletListOpen | orderedListOpen | listItemOpen
  | blockquoteOpen =>
    cases h
    exact ⟨rfl, rfl, by simp⟩
  | _ => cases h

/-- A pair around matched tokens is matched. The opening token is one level above what is inside, as
the levels of the tokens say. -/
theorem nested_between {opening closing : Kind} (hc : opening.closer? = some closing) {tag : Text}
    {level : Int} {opened inner rest : List Token} (hl : level = opened.length)
    (hinner : ∀ back, Nested (bare opening tag level :: opened) back →
      Nested (bare opening tag level :: opened) (inner ++ back))
    (h : Nested opened rest) :
    Nested opened (between opening closing tag level inner ++ rest) := by
  obtain ⟨hnone, hcloses, -⟩ := Kind.closes_of_closer? hc
  have hclose : Nested (bare opening tag level :: opened) (bare closing tag level :: rest) := by
    rw [Nested, if_neg (by simp [bare, hnone]), if_pos (by simpa [bare] using hcloses)]
    exact ⟨⟨hc, rfl, rfl⟩, hl, h⟩
  have hall := hinner _ hclose
  simp only [between, List.cons_append, List.append_assoc, List.nil_append]
  rw [Nested.eq_def]
  simp only [bare, hc, Option.isSome_some, if_true]
  exact ⟨hl, hall⟩

/-- A token that is no part of a pair. -/
theorem nested_alone {t : Token} (ho : t.kind.closer? = none) (hc : t.kind.closes = false)
    {opened rest : List Token} (hl : t.level = opened.length) (h : Nested opened rest) :
    Nested opened (t :: rest) := by
  rw [Nested.eq_def]
  simp only [ho, hc, Option.isSome_none, Bool.false_eq_true, if_false]
  exact ⟨hl, h⟩

-- the inductions are over the tree; what is open around a block and what follows it are general
mutual

/-- The tokens of a block close what they open, at the levels that they are given. The proof is
mutual with the ones for items and for lists of blocks. -/
theorem Block.nested_tokens {opened rest : List Token} {level : Int} (hl : level = opened.length) :
    (b : Block Running) → Nested opened rest → Nested opened (b.tokens level ++ rest)
  | .heading depth r, h =>
      nested_between rfl hl (fun _ hb => nested_alone rfl rfl (by simp [inlineToken, hl]) hb) h
  | .paragraph r, h =>
      nested_between rfl hl (fun _ hb => nested_alone rfl rfl (by simp [inlineToken, hl]) hb) h
  | .list true items, h =>
      nested_between rfl hl (fun _ hb => nested_blockTokens (by simp [hl]) items hb) h
  | .list false items, h =>
      nested_between rfl hl (fun _ hb => nested_blockTokens (by simp [hl]) items hb) h
  | .item body, h =>
      nested_between rfl hl (fun _ hb => nested_blockTokens (by simp [hl]) body hb) h
  | .quote body, h =>
      nested_between rfl hl (fun _ hb => nested_blockTokens (by simp [hl]) body hb) h
  | .fence _ _, h => nested_alone rfl rfl hl h
  | .code _, h => nested_alone rfl rfl hl h
  | .markup _, h => nested_alone rfl rfl hl h
  | .rule, h => nested_alone rfl rfl hl h

/-- **The tokens of blocks are matched pairs**, each at the level of the pairs around it. -/
theorem nested_blockTokens {opened rest : List Token} {level : Int} (hl : level = opened.length) :
    (bs : List (Block Running)) → Nested opened rest → Nested opened (blockTokens level bs ++ rest)
  | [], h => h
  | b :: more, h => by
      rw [blockTokens, List.append_assoc]
      exact b.nested_tokens hl (nested_blockTokens hl more h)

end

/-! ## Running text -/

namespace TextInPairs

/-- Text that comes in pairs, behind text that does, comes in pairs. -/
theorem append {tokens more : List Token} (h : TextInPairs tokens) (hm : TextInPairs more) :
    TextInPairs (tokens ++ more) := by
  induction h with
  | nil => exact hm
  | pair ho ht hc _ ih => exact .pair ho ht hc ih
  | other ho ht hc _ ih => exact .other ho ht hc ih

/-- A pair around blocks is read as the block that it stands for, with these inside and nothing
else. -/
theorem between {tokens : List Token} (h : TextInPairs tokens) {opening closing : Kind} (tag : Text)
    (level : Int) (ho : opening.opensText = false) (hi : opening ≠ .inline)
    (hc : opening.closer? = some closing) :
    TextInPairs (Markdown.between opening closing tag level tokens) := by
  have hclosing : closing.opensText = false ∧ closing ≠ .inline ∧ closing ≠ .headingClose ∧
      closing ≠ .paragraphClose := by
    cases opening with
    | bulletListOpen | orderedListOpen | listItemOpen | blockquoteOpen =>
      cases hc
      exact ⟨rfl, by simp, by simp, by simp⟩
    | headingOpen | paragraphOpen => cases ho
    | _ => cases hc
  have hopening : opening ≠ .headingClose ∧ opening ≠ .paragraphClose := by
    constructor
    · rintro rfl
      cases hc
    · rintro rfl
      cases hc
  refine .other ho (by simpa [Token.isInline, bare] using hi) hopening (h.append ?_)
  exact .other hclosing.1 (by simpa [Token.isInline, bare] using hclosing.2.1) hclosing.2.2 .nil

end TextInPairs

mutual

/-- In the tokens of a block, text stands between an opening and a closing token. -/
theorem Block.textInPairs_tokens (level : Int) : (b : Block Running) → TextInPairs (b.tokens level)
  | .heading _ _ => .pair rfl rfl rfl .nil
  | .paragraph _ => .pair rfl rfl rfl .nil
  | .list true items => (textInPairs_blockTokens (level + 1) items).between _ _ rfl (by simp) rfl
  | .list false items => (textInPairs_blockTokens (level + 1) items).between _ _ rfl (by simp) rfl
  | .item body => (textInPairs_blockTokens (level + 1) body).between _ _ rfl (by simp) rfl
  | .quote body => (textInPairs_blockTokens (level + 1) body).between _ _ rfl (by simp) rfl
  | .fence _ _ => .other rfl rfl ⟨by simp, by simp⟩ .nil
  | .code _ => .other rfl rfl ⟨by simp, by simp⟩ .nil
  | .markup _ => .other rfl rfl ⟨by simp, by simp⟩ .nil
  | .rule => .other rfl rfl ⟨by simp [bare], by simp [bare]⟩ .nil

/-- **Running text stands once in every heading and paragraph, and nowhere else.** -/
theorem textInPairs_blockTokens (level : Int) :
    (bs : List (Block Running)) → TextInPairs (blockTokens level bs)
  | [] => .nil
  | b :: more => (b.textInPairs_tokens level).append (textInPairs_blockTokens level more)

end

/-! ## Reading back -/

/-- The depth of a heading is read from its element. -/
theorem headingDepth?_headingTag (depth : Nat) : headingDepth? (headingTag depth) = some depth := by
  have htag : headingTag depth = 0x68 :: Text.ofNat depth := by
    simp [headingTag, Text.ofNat, Text.lit, Text.encode, Text.encodeChar]
  rw [htag, headingDepth?, Text.digits?_ofNat]

/-- Tokens that are read as blocks: behind any others and in any pairs, the blocks are finished and
nothing else changes. -/
def ReadAs (tokens : List Token) (bs : List (Block Running)) : Prop :=
  ∀ (opened : List OpenPair) (finished : List (Block Running)),
    tokens.foldlM Assembly.read ⟨opened, finished, none⟩ =
      some ⟨opened, bs.reverse ++ finished, none⟩

namespace ReadAs

variable {tokens more : List Token} {bs cs : List (Block Running)}

/-- No tokens are read as no blocks. -/
theorem nil : ReadAs [] [] := by
  intro opened finished
  rfl

/-- Tokens that are read as some blocks, in front of tokens that are read as others, are read as
both. -/
theorem append (h : ReadAs tokens bs) (hm : ReadAs more cs) : ReadAs (tokens ++ more) (bs ++ cs) := by
  intro opened finished
  rw [List.foldlM_append, h]
  simp only [Option.bind_eq_bind, Option.bind_some]
  rw [hm, List.reverse_append, List.append_assoc]

/-- A token that stands alone is read as the block that it is. -/
theorem alone {t : Token} {b : Block Running} (ho : t.kind.closer? = none)
    (ht : t.isInline = false) (hc : t.kind.closes = false) (hb : leafBlock? t = some b) :
    ReadAs [t] [b] := by
  intro opened finished
  simp [List.foldlM, Assembly.read, ho, ht, hc, hb]

/-- A pair around tokens: what they leave to be read is the block of the pair. The three parts are
the opening token, which puts a new level on the stack, what is inside, and the closing one, which
takes it off. -/
theorem pair {opening closing : Kind} (hc : opening.closer? = some closing) {tag : Text}
    {level : Int} {b : Block Running} (text : Option Running) (bs : List (Block Running))
    (h : ∀ opened, tokens.foldlM Assembly.read ⟨opened, [], none⟩ = some ⟨opened, bs.reverse, text⟩)
    (hb : pairBlock? (bare opening tag level) text bs = some b) :
    ReadAs (between opening closing tag level tokens) [b] := by
  obtain ⟨hnone, hcloses, hinline⟩ := Kind.closes_of_closer? hc
  intro opened finished
  have hopen : Assembly.read ⟨opened, finished, none⟩ (bare opening tag level) =
      some ⟨⟨bare opening tag level, finished⟩ :: opened, [], none⟩ := by
    rw [Assembly.read, if_pos (by simp [bare, hc])]
  have hclose : Assembly.read ⟨⟨bare opening tag level, finished⟩ :: opened, bs.reverse, text⟩
      (bare closing tag level) = some ⟨opened, b :: finished, none⟩ := by
    rw [Assembly.read, if_neg (by simp [bare, hnone]),
      if_neg (by simpa [bare, Token.isInline] using hinline), if_pos (by simpa [bare] using hcloses)]
    simp only [List.reverse_reverse, hb]
    rw [if_pos (by simpa [bare] using hc)]
    rfl
  simp only [between, List.cons_append, List.foldlM_cons, List.foldlM_append, hopen, h, hclose,
    Option.bind_eq_bind, Option.bind_some, List.foldlM_nil]
  rfl

/-- A pair that holds blocks. -/
theorem container (h : ReadAs tokens bs) {opening closing : Kind}
    (hc : opening.closer? = some closing) {tag : Text} {level : Int} {b : Block Running}
    (hb : pairBlock? (bare opening tag level) none bs = some b) :
    ReadAs (between opening closing tag level tokens) [b] := by
  refine pair hc none bs (fun opened => ?_) hb
  rw [h, List.append_nil]

end ReadAs

mutual

/-- **The tokens of a block are read back as the block**, with what is inside read at the next
level. -/
theorem Block.readAs_tokens (level : Int) : (b : Block Running) → ReadAs (b.tokens level) [b]
  | .heading depth r => by
      refine .pair rfl (some r) [] (fun opened => rfl) ?_
      simp [pairBlock?, bare, headingDepth?_headingTag]
  | .paragraph r => .pair rfl (some r) [] (fun opened => rfl) rfl
  | .list true items => (readAs_blockTokens (level + 1) items).container rfl rfl
  | .list false items => (readAs_blockTokens (level + 1) items).container rfl rfl
  | .item body => (readAs_blockTokens (level + 1) body).container rfl rfl
  | .quote body => (readAs_blockTokens (level + 1) body).container rfl rfl
  | .fence _ _ => .alone rfl rfl rfl rfl
  | .code _ => .alone rfl rfl rfl rfl
  | .markup _ => .alone rfl rfl rfl rfl
  | .rule => .alone rfl rfl rfl rfl

/-- The tokens of some blocks are read back as these, one after the other. With the uniqueness of
reading it makes the tokens a faithful form of the tree. -/
theorem readAs_blockTokens (level : Int) :
    (bs : List (Block Running)) → ReadAs (blockTokens level bs) bs
  | [] => .nil
  | b :: more => (b.readAs_tokens level).append (readAs_blockTokens level more)

end

/-- **The blocks are found again in their tokens.** -/
theorem readBlocks?_blockTokens (level : Int) (bs : List (Block Running)) :
    readBlocks? (blockTokens level bs) = some bs := by
  rw [readBlocks?, readAs_blockTokens level bs]
  simp

/-- **The stream of a tree is well nested and loses nothing of it.** For all blocks, of any depth and
in any order: the stream consists of matched pairs with equal elements and levels, every token at
the level of the pairs around it; text stands once in each heading and paragraph and nowhere else;
and reading the stream from left to right gives the blocks back. -/
theorem blockTokens_wellNested (trees : List (Block Running)) :
    Nested [] (blockTokens 0 trees) ∧ TextInPairs (blockTokens 0 trees) ∧
      readBlocks? (blockTokens 0 trees) = some trees := by
  refine ⟨?_, textInPairs_blockTokens 0 trees, readBlocks?_blockTokens 0 trees⟩
  have hlevel : (0 : Int) = ([] : List Token).length := rfl
  have hnil : Nested [] [] := by rw [Nested]
  simpa only [List.append_nil] using nested_blockTokens hlevel trees hnil

end NovelScript.Markdown
