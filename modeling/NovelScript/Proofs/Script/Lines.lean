import Mathlib
import NovelScript.Markdown.Document
import NovelScript.Proofs.Markdown.Leaves
import NovelScript.Proofs.Script.Comment
import NovelScript.Proofs.Script.Loop
import NovelScript.Proofs.Script.Options
import NovelScript.Proofs.Text.Newline

/-!
# One statement, one line

`Action.text` is what an action writes at a level, as a function of the action alone (`out_perform`).
Most of it is fixed or escaped, but some of it is copied from the document as it is: the condition of
a branch or choice, the target of a call or jump, and comments. `copiedOfLabel` and `copiedOfPiece`
say what that is.

* `count_headerText` and `count_pieceLine`: a line has as many line breaks as what it copies.
* `clean_piecesOf`: inline code of a document has none, while running text may have any: references
  to characters are resolved before it becomes a line.
* **`statement_line_breaks`** says of every step over a document how many line breaks are written.
  Where nothing that is copied has a line break, every item and every piece is one line; a label of
  two lines with a question mark, and a call with a line break in its target, are not
  (`ofTokens_label_of_two_lines`).
-/

namespace NovelScript.Script

open Markdown
open Text (newline)

/-! ## What is copied -/

/-- The condition of a choice or branch, which is copied as it is. -/
def conditionOf (choice : Text) : Text :=
  if Text.startsWith [question, question, question] choice then []
  else if Text.startsWith [question, question] choice then Text.trim (choice.drop 2)
  else if Text.startsWith [question] choice then Text.trim (choice.drop 1)
  else match Text.cut [bar] choice with
    | some (_, condition) => Text.trim condition
    | none => []

/-- What the header of an item copies from its label: the condition and the comment. -/
def copiedOfLabel (label : Text) : Text :=
  conditionOf (splitComment label).1 ++ (splitComment label).2

/-- The speaker of a line, if it is spoken. -/
def Speakers.speaker? (s : Speakers) (content delimiter : Text) : Option Text :=
  match Text.cut delimiter content with
  | none => none
  | some (id, rest) => if (Text.trim rest).isEmpty then none else s.resolve id

/-- What a statement copies: the target of a call or jump, or the speaker. -/
def copiedOfStatement (o : Options) (speakers : Speakers) (content : Text) : Text :=
  if Text.startsWith o.marks.call content then Text.trim (content.drop o.marks.call.length)
  else if Text.startsWith o.marks.jump content then Text.trim (content.drop o.marks.jump.length)
  else (speakers.speaker? content o.delimiter).getD []

/-- What the line for a piece copies: what its statement copies or the code, and the comment. -/
def copiedOfPiece (s : Setting) (piece : Piece) : Text :=
  match piece.kind with
  | .text => copiedOfStatement s.options s.speakers (splitComment piece.content).1 ++
      (splitComment piece.content).2
  | .codeInline => (splitComment piece.content).1 ++ (splitComment piece.content).2
  | _ => []

/-! ## Line breaks of a line -/

/-- A literal has no line break, whatever is quoted: a break is written as an escape. -/
theorem count_literal (s : Text) : (literal s).count newline = 0 :=
  List.count_eq_zero.mpr (newline_not_mem_literal s)

/-- A comment has the line breaks of its text. -/
theorem count_commentSuffix (comment : Text) :
    (commentSuffix comment).count newline = comment.count newline := by
  have hmark : (Text.lit " # ").count newline = 0 := by decide
  cases comment with
  | nil => rfl
  | cons b r => simp [commentSuffix, hmark]

/-- A dialogue is a literal alone, or a speaker and a literal. -/
theorem dialogue_eq (s : Speakers) (content delimiter : Text) :
    (s.speaker? content delimiter = none ∧ s.dialogue content delimiter = literal content) ∨
      ∃ speaker spoken, s.speaker? content delimiter = some speaker ∧
        s.dialogue content delimiter = speaker ++ Text.lit " " ++ literal spoken := by
  unfold Speakers.dialogue Speakers.speaker?
  cases Text.cut delimiter content with
  | none => exact .inl ⟨rfl, rfl⟩
  | some parts =>
    obtain ⟨id, rest⟩ := parts
    by_cases hempty : (Text.trim rest).isEmpty = true
    · simp [hempty]
    · cases hspeaker : s.resolve id with
      | none => simp [hempty, hspeaker]
      | some speaker =>
        refine .inr ⟨speaker, Text.trim rest, ?_, ?_⟩
        · simp [hempty, hspeaker]
        · simp [hempty, hspeaker]

/-- **The line breaks of a statement** are those of the part of it that is copied. Everything else
in it is a literal or spelled by the program. -/
theorem count_statement (o : Options) (speakers : Speakers) (content : Text) :
    (statement o speakers content).count newline =
      (copiedOfStatement o speakers content).count newline := by
  have hcall : (Text.lit "call ").count newline = 0 := by decide
  have hjump : (Text.lit "jump ").count newline = 0 := by decide
  have hblank : (Text.lit " ").count newline = 0 := by decide
  unfold statement copiedOfStatement
  split
  · simp [hcall]
  · split
    · simp [hjump]
    · rcases dialogue_eq speakers content o.delimiter with ⟨hnone, hd⟩ | ⟨speaker, spoken, hsome, hd⟩
      · simp [hnone, hd, count_literal]
      · simp [hsome, hd, count_literal, hblank]

/-- The line breaks of the header of an item are those of its condition, which is copied. The choice
itself is a literal. -/
theorem count_itemHeader (choice : Text) :
    (itemHeader choice).count newline = (conditionOf choice).count newline := by
  have helse : (Text.lit "else:").count newline = 0 := by decide
  have helif : (Text.lit "elif ").count newline = 0 := by decide
  have hif : (Text.lit "if ").count newline = 0 := by decide
  have hguard : (Text.lit " if ").count newline = 0 := by decide
  have hcolon : (Text.lit ":").count newline = 0 := by decide
  unfold itemHeader conditionOf
  split
  · simp [helse]
  · split
    · simp [helif, hcolon]
    · split
      · simp [hif, hcolon]
      · cases Text.cut [bar] choice with
        | none => simp [count_literal, hcolon]
        | some parts => simp [count_literal, hguard, hcolon]

/-- **The header of an item** has the line breaks of its condition and its comment; those of the
choice itself are escaped. -/
theorem count_headerText (label : Text) :
    (Pass.headerText label).count newline = (copiedOfLabel label).count newline := by
  simp [Pass.headerText, copiedOfLabel, count_itemHeader, count_commentSuffix]

/-- **The line for a piece** has the line breaks of what it copies. -/
theorem count_pieceLine {s : Setting} {piece : Piece} {l : Text}
    (h : Pass.pieceLine s piece = some l) :
    l.count newline = (copiedOfPiece s piece).count newline := by
  have hcode : (Text.lit "$ ").count newline = 0 := by decide
  unfold Pass.pieceLine at h
  unfold copiedOfPiece
  cases hk : piece.kind with
  | text =>
    simp only [hk, Option.some.injEq] at h
    simp [← h, count_statement, count_commentSuffix]
  | codeInline =>
    simp only [hk, Option.some.injEq] at h
    simp [← h, hcode, count_commentSuffix]
  | _ => simp [hk] at h

/-- A margin has no line break. -/
theorem count_margin (k : Nat) : (margin k).count newline = 0 := by
  have hblank : Text.blank ≠ newline := by decide
  simp [margin, List.count_replicate, hblank]

/-- A line has the breaks of its text and the one at its end. -/
theorem count_lineAt (k : Nat) (l : Text) : (lineAt k l).count newline = l.count newline + 1 := by
  simp [lineAt, count_margin]

/-- A remark is made of words, and so it is one line, whatever the markup was. -/
theorem count_remark (content : Text) : (remark content).count newline = 0 := by
  have hhash : newline ∉ Text.lit "#" := by decide
  have hmark : newline ∉ Text.lit "# " := by decide
  rw [List.count_eq_zero]
  unfold remark
  generalize hbare : Text.replaceFirst (Text.lit "-->") []
    (Text.replaceFirst (Text.lit "<!--") [] (Text.collapse content)) = bare
  have hsub : bare.Sublist (Text.collapse content) := by
    subst hbare
    exact (Text.replaceFirst_sublist _ _).trans (Text.replaceFirst_sublist _ _)
  have hcontent : newline ∉ (splitComment bare).1 := by
    intro hmem
    apply Text.newline_not_mem_collapse content
    exact hsub.subset ((splitComment_sublist bare).1.subset hmem)
  dsimp only
  split
  · exact hhash
  · simp [hmark, hcontent]

/-! ## What an action writes -/

/-- What an action writes at level `k`; `started` when something is written already. -/
def Action.text (s : Setting) (k : Nat) (started : Bool) : Action → Text
  | .escape content => lineAt k (Text.trim (content.drop s.options.marks.ignore.length))
  | .openQuote => margin k ++ Text.lit "extend "
  | .code content => Pass.codeText content (margin k)
  | .pieces ps => (ps.filterMap (Pass.pieceLine s)).flatMap (lineAt k)
  | .heading content => (if started then [newline] else []) ++ Pass.labelLine s content
  | .openList first => if Text.startsWith [question] first then [] else lineAt k (Text.lit "menu:")
  | .openItem label => lineAt k (Pass.headerText label)
  | .remark content => lineAt k (Script.remark content)
  | .closeItem | .closeList | .closeQuote | .skip => []

/-- To go up a level writes nothing. -/
theorem Pass.out_dedent {p q : Pass} (h : p.dedent = .ok q) : q.out = p.out := by
  unfold dedent at h
  split at h
  · cases h
  · cases h
    rfl

/-- To close a list writes nothing. -/
theorem Pass.out_closeList {p q : Pass} (h : p.closeList = .ok q) : q.out = p.out := by
  unfold closeList at h
  split at h
  · cases h
    rfl
  · split at h
    · cases h
      rfl
    · apply out_dedent h

/-- To close a quote writes nothing. -/
theorem Pass.out_closeQuote (p : Pass) : p.closeQuote.out = p.out := by
  unfold closeQuote
  split <;> rfl

/-- **What is written is a function of the action**, of the level, and of whether anything is written
already. -/
theorem Action.out_perform {s : Setting} {a : Action} {p q : Pass} {k : Nat} (hl : p.level = k)
    (hp : a.perform s p = .ok q) : q.out = p.out ++ a.text s k (!p.out.isEmpty) := by
  cases a with
  | escape content =>
    have hq := (Pass.line_of_level hl _).symm.trans hp
    cases hq
    rfl
  | openQuote =>
    have hq := (Pass.openQuote_of_level hl).symm.trans hp
    cases hq
    rfl
  | code content =>
    have hq := (Pass.indented_of_level hl _).symm.trans hp
    cases hq
    rfl
  | pieces ps =>
    have hq := (Pass.pieces_of_level hl s ps).symm.trans hp
    cases hq
    rfl
  | heading content =>
    cases hp
    exact Pass.out_heading s p content
  | openList first =>
    have hq := (Pass.openList_of_level hl first).symm.trans hp
    cases hb : Text.startsWith [question] first with
    | true =>
      rw [hb, if_pos rfl] at hq
      cases hq
      simp [text, hb]
    | false =>
      rw [hb, if_neg Bool.false_ne_true] at hq
      cases hq
      simp [text, hb]
  | openItem label =>
    have hq := (Pass.openItem_of_level hl label).symm.trans hp
    cases hq
    rfl
  | closeItem => simpa [text] using Pass.out_dedent hp
  | closeList => simpa [text] using Pass.out_closeList hp
  | closeQuote =>
    cases hp
    simpa [text] using Pass.out_closeQuote p
  | remark content =>
    have hq := (Pass.line_of_level hl _).symm.trans hp
    cases hq
    rfl
  | skip =>
    cases hp
    simp [text]

/-! ## Tokens of a document -/

/-- Pieces are lines of text and inline code, and inline code is one line. -/
structure Clean (ps : List Piece) : Prop where
  kinds : ∀ piece ∈ ps, piece.kind = .text ∨ piece.kind = .codeInline
  code : ∀ piece ∈ ps, piece.kind = .codeInline → newline ∉ piece.content

/-- The pieces of a body are clean: text on one line, and code on one line. -/
theorem clean_piecesOf (body : List Inline) : Clean (piecesOf body) where
  kinds := fun piece hpiece => (tidy_piecesOf body piece hpiece).imp And.left And.left
  code := by
    intro piece hpiece hcode
    rcases tidy_piecesOf body piece hpiece with ⟨htext, -⟩ | ⟨-, hcontent⟩
    · rw [htext] at hcode
      cases hcode
    · exact hcontent

/-- Tokens that enclose clean ones bring no text of their own. -/
theorem clean_of_mem_between {opening closing : Kind} {tag : Text} {level : Int}
    {inner : List Token} (ho : opening ≠ .inline) (hc : closing ≠ .inline)
    (h : ∀ t ∈ inner, t.kind = .inline → Clean t.pieces) :
    ∀ t ∈ between opening closing tag level inner, t.kind = .inline → Clean t.pieces := by
  intro t ht hk
  simp only [between, List.mem_append, List.mem_cons, List.not_mem_nil, or_false] at ht
  rcases ht with (rfl | ht) | rfl
  · exact absurd hk ho
  · exact h t ht hk
  · exact absurd hk hc

/-- The inline token of some prose is clean. -/
theorem clean_of_mem_inline {x : Prose} {level : Int} :
    ∀ t ∈ [inlineToken x.running level], t.kind = .inline → Clean t.pieces := by
  intro t ht _
  obtain rfl := List.mem_singleton.mp ht
  exact clean_piecesOf x.body

mutual

/-- The inline tokens of a document have the pieces of its running text. -/
theorem clean_tokens (level : Int) :
    (b : Block Prose) → ∀ t ∈ (b.map Prose.running).tokens level, t.kind = .inline → Clean t.pieces
  | .heading _ _ => clean_of_mem_between (by decide) (by decide) clean_of_mem_inline
  | .paragraph _ => clean_of_mem_between (by decide) (by decide) clean_of_mem_inline
  | .list true items =>
      clean_of_mem_between (by decide) (by decide) (clean_blockTokens (level + 1) items)
  | .list false items =>
      clean_of_mem_between (by decide) (by decide) (clean_blockTokens (level + 1) items)
  | .item body => clean_of_mem_between (by decide) (by decide) (clean_blockTokens (level + 1) body)
  | .quote body => clean_of_mem_between (by decide) (by decide) (clean_blockTokens (level + 1) body)
  | .fence _ _ => by simp [Block.map, Block.tokens]
  | .code _ => by simp [Block.map, Block.tokens]
  | .markup _ => by simp [Block.map, Block.tokens]
  | .rule => by simp [Block.map, Block.tokens, bare]

/-- **The pieces of all blocks are clean**, by induction on the tree. This is what makes a document
differ from a stream of tokens that nobody has parsed. -/
theorem clean_blockTokens (level : Int) :
    (bs : List (Block Prose)) → ∀ t ∈ blockTokens level (mapBlocks Prose.running bs),
      t.kind = .inline → Clean t.pieces
  | [] => by simp [mapBlocks, blockTokens]
  | b :: more => by
      intro t ht
      simp only [mapBlocks, blockTokens, List.mem_append] at ht
      rcases ht with ht | ht
      · exact clean_tokens level b t ht
      · exact clean_blockTokens level more t ht

end

/-! ## Steps over a document -/

/-- The stream of a document whose running text is any tree of parts. -/
def streamOf (trees : List (Block Prose)) : List Token :=
  blockTokens 0 (mapBlocks Prose.running trees)

/-- How many lines an action writes that copies no statement: a label with the empty line in front of
it, a menu, a remark. -/
def Action.rows (started : Bool) : Action → Nat
  | .heading _ => if started then 2 else 1
  | .openList first => if Text.startsWith [question] first then 0 else 1
  | .remark _ => 1
  | _ => 0

/-- The line of a label is one line, if the label has no break. -/
theorem count_labelLine {s : Setting} {content : Text} (h : newline ∉ s.label content) :
    (Pass.labelLine s content).count newline = 1 := by
  have hlabel : (Text.lit "label ").count newline = 0 := by decide
  have hcolon : (Text.lit ":").count newline = 0 := by decide
  have hname : (s.label content).count newline = 0 := List.count_eq_zero.mpr h
  simp [Pass.labelLine, hlabel, hcolon, hname]

/-- A token that is no item and holds neither running text nor code writes as many lines as its kind
says. -/
theorem Asks.count_text {s : Setting} {t : Token} {rest : List Token} {a : Action}
    (h : Asks s t rest a) (he : s.escapes t = false) (hitem : t.kind ≠ .listItemOpen)
    (hinline : t.kind ≠ .inline) (hfence : t.kind ≠ .fence)
    (hlabel : t.kind = .headingOpen → ∀ content, newline ∉ s.label content) (k : Nat)
    (started : Bool) : (a.text s k started).count newline = a.rows started := by
  have hmenu : (Text.lit "menu:").count newline = 0 := by decide
  have hextend : (Text.lit "extend ").count newline = 0 := by decide
  cases h with
  | escape hescape =>
    rw [he] at hescape
    cases hescape
  | heading _ hk =>
    cases started with
    | true => simp [Action.text, Action.rows, count_labelLine (hlabel hk _)]
    | false => simp [Action.text, Action.rows, count_labelLine (hlabel hk _)]
  | @openList first =>
    cases hb : Text.startsWith [question] first.content with
    | true => simp [Action.text, Action.rows, hb]
    | false => simp [Action.text, Action.rows, hb, count_lineAt, hmenu]
  | openItem _ hk => exact absurd hk hitem
  | alone =>
    unfold Action.ofToken
    split
    · simp [Action.text, Action.rows, count_margin, hextend]
    · contradiction
    · contradiction
    · rfl
    · rfl
    · rfl
    · simp [Action.text, Action.rows, count_lineAt, count_remark]
    · rfl

/-- A piece of text or code is written as a line. -/
theorem exists_pieceLine {s : Setting} {piece : Piece}
    (h : piece.kind = .text ∨ piece.kind = .codeInline) : ∃ l, Pass.pieceLine s piece = some l := by
  unfold Pass.pieceLine
  rcases h with hk | hk
  · simp [hk]
  · simp [hk]

/-- Every piece of running text has a line. -/
theorem exists_lines {s : Setting} {ps : List Piece}
    (h : ∀ piece ∈ ps, piece.kind = .text ∨ piece.kind = .codeInline) :
    ∃ ls, ps.map (Pass.pieceLine s) = ls.map some ∧ ps.filterMap (Pass.pieceLine s) = ls := by
  induction ps with
  | nil => exact ⟨[], rfl, rfl⟩
  | cons piece ps ih =>
    obtain ⟨l, hl⟩ := exists_pieceLine (s := s) (h piece List.mem_cons_self)
    obtain ⟨ls, hls, hfilter⟩ := ih fun x hx => h x (List.mem_cons_of_mem piece hx)
    refine ⟨l :: ls, ?_, ?_⟩
    · simp [hl, hls]
    · simp [hl, hfilter]

/-- Code without a line break copies none. -/
theorem newline_not_mem_copiedOfPiece {s : Setting} {piece : Piece} (hk : piece.kind = .codeInline)
    (h : newline ∉ piece.content) : newline ∉ copiedOfPiece s piece := by
  obtain ⟨hcontent, hcomment⟩ := splitComment_sublist piece.content
  unfold copiedOfPiece
  rw [hk]
  intro hmem
  rcases List.mem_append.mp hmem with hmem | hmem
  · exact h (hcontent.subset hmem)
  · exact h (hcomment.subset hmem)

/-- **How many line breaks a step over a document writes.** Let the pass stand at a token of the
stream of a document that is not escaped.

* An item writes its header as one line at the current level, and every line break beyond its end is
  one of the condition or the comment of its label.
* Running text writes one line for each of its pieces, all at the current level, and every line break
  beyond the end of such a line is one of the target, the speaker or the comment; inline code brings
  none.
* Any other token but fenced code writes as many line breaks as its kind says, whatever the document
  says there. -/
theorem statement_line_breaks (o : Options) (label : Text → Text) {trees : List (Block Prose)}
    {index : Nat} {p : Pass} {t : Token} (hr : Reaches (.of o label) (streamOf trees) index p)
    (ht : (Cursor.mk (streamOf trees) index).current? = some t)
    (he : (Setting.of o label).escapes t = false) :
    ∃ k : Nat, p.level = k ∧
      (∀ l, t.kind = .listItemOpen → inlineAt? ((streamOf trees).drop (index + 1)) 1 = some l →
        ∃ q, Iterates (.of o label) (streamOf trees) index p (index + 3) q ∧
          q.out = p.out ++ lineAt k (Pass.headerText l) ∧
          (lineAt k (Pass.headerText l)).count newline = 1 + (copiedOfLabel l).count newline) ∧
      (t.kind = .inline → ∃ (q : Pass) (ls : List Text),
        Iterates (.of o label) (streamOf trees) index p (index + 1) q ∧
          t.pieces.map (Pass.pieceLine (.of o label)) = ls.map some ∧
          q.out = p.out ++ ls.flatMap (lineAt k) ∧
          (∀ piece ∈ t.pieces, ∀ l, Pass.pieceLine (.of o label) piece = some l →
            (lineAt k l).count newline = 1 + (copiedOfPiece (.of o label) piece).count newline) ∧
          ∀ piece ∈ t.pieces, piece.kind = .codeInline →
            newline ∉ copiedOfPiece (.of o label) piece) ∧
      (t.kind ≠ .listItemOpen → t.kind ≠ .inline → t.kind ≠ .fence →
        (t.kind = .headingOpen → label = labelName) →
        ∀ a next q, Asks (.of o label) t ((streamOf trees).drop (index + 1)) a →
          Iterates (.of o label) (streamOf trees) index p next q →
          ∃ w, q.out = p.out ++ w ∧ w.count newline = a.rows (!p.out.isEmpty)) := by
  -- the pass got here, so its level is a number
  obtain ⟨k, hk⟩ := hr.sound.exists_level
  refine ⟨k, hk, ?_, ?_, ?_⟩
  · intro l hkind hl
    have hi := Iterates.of_asks ht (.openItem he hkind hl) (Pass.openItem_of_level hk l)
    refine ⟨_, hi, rfl, ?_⟩
    rw [count_lineAt, count_headerText]
    omega
  · intro hkind
    -- the token is one of a parsed document, whose pieces are on one line each
    have hclean : Clean t.pieces := by
      rw [Cursor.current?_natCast] at ht
      exact clean_blockTokens 0 trees t (List.mem_of_getElem? ht) hkind
    obtain ⟨ls, hls, hfilter⟩ := exists_lines (s := .of o label) hclean.kinds
    have ha : Asks (.of o label) t ((streamOf trees).drop (index + 1)) (.pieces t.pieces) := by
      have halone : Asks (.of o label) t ((streamOf trees).drop (index + 1)) (.ofToken t) :=
        .alone he (by rw [hkind]; rfl)
      rwa [Action.ofToken, hkind] at halone
    have hi := Iterates.of_asks ht ha (Pass.pieces_of_level hk _ t.pieces)
    refine ⟨_, ls, hi, hls, ?_, ?_, ?_⟩
    · rw [Pass.out_write, hfilter]
    · intro piece _ l hl
      rw [count_lineAt, count_pieceLine hl]
      omega
    · intro piece hpiece hcode
      exact newline_not_mem_copiedOfPiece hcode (hclean.code piece hpiece hcode)
  -- all other tokens, by the action that they ask for
  · intro hitem hinline hfence hlabel a next q ha hi
    obtain ⟨t', extra, ht', hs, -⟩ := hi
    obtain rfl := Option.some.inj (ht.symm.trans ht')
    obtain ⟨a', ha', hp, -⟩ := Pass.step_eq_ok_iff.mp hs
    obtain rfl := ha.unique ha'
    refine ⟨_, Action.out_perform hk hp, ?_⟩
    apply ha.count_text he hitem hinline hfence
    intro hheading content
    have hname : (Setting.of o label).label = labelName := hlabel hheading
    rw [hname]
    exact newline_not_mem_labelName content

/-- A choice of two lines is one line of the script: the line break in it is escaped. -/
theorem statement_line_breaks_of_choice :
    ∃ q : Pass,
      Iterates (.of Options.default labelName)
        (streamOf [.list false [.item [.paragraph ⟨[Text.lit "a", Text.lit "b | c"], []⟩]]]) 1
        { out := Text.lit "menu:\n", level := 1, lists := [false] } 4 q ∧
      q.out = Text.lit "menu:\n" ++ Text.lit "    \"a\\nb\" if c:\n" ∧
      (Text.lit "    \"a\\nb\" if c:\n").count newline = 1 := by
  have hr : Reaches (.of Options.default labelName)
      (streamOf [.list false [.item [.paragraph ⟨[Text.lit "a", Text.lit "b | c"], []⟩]]]) 1
      { out := Text.lit "menu:\n", level := 1, lists := [false] } :=
    .next .start ⟨_, 0, rfl, by cbv, rfl⟩
  obtain ⟨k, hk, hitem, -⟩ := statement_line_breaks Options.default labelName hr rfl (by decide)
  obtain rfl : k = 1 := Int.ofNat.inj hk.symm
  obtain ⟨q, hi, hout, hcount⟩ := hitem (Text.lit "a\nb | c") rfl (by cbv)
  have hline : lineAt 1 (Pass.headerText (Text.lit "a\nb | c")) =
      Text.lit "    \"a\\nb\" if c:\n" := by cbv
  have hcopied : (copiedOfLabel (Text.lit "a\nb | c")).count newline = 0 := by cbv
  rw [hline] at hout hcount
  rw [hcopied] at hcount
  exact ⟨q, hi, hout, hcount⟩

/-- A condition of two lines and a target with a line break in it are two lines of the script each,
and the second one has no blanks in front. -/
theorem ofTokens_label_of_two_lines :
    Options.default.validate = .ok () ∧
      ofTokens (.of Options.default labelName) (tokensOf (Text.lit "# s\n- ? a\n  b\n")) =
        .ok (Text.lit "label s:\n    if a\nb:\n") ∧
      ofTokens (.of Options.default labelName) (tokensOf (Text.lit "# s\n% a&#10;b\n")) =
        .ok (Text.lit "label s:\n    call a\nb\n") := by
  refine ⟨Options.validate_default, ?_, ?_⟩
  · cbv
  · cbv

end NovelScript.Script
