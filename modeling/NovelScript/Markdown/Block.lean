import NovelScript.Markdown.Inline

/-!
# Blocks

The structure of a document as a tree, and the tree as a token stream. What a heading or paragraph
holds is a parameter: source lines at first, then lines with their inner structure, and in the end
the text and pieces that its inline token shows.
-/

namespace NovelScript.Markdown

/-- A block whose headings and paragraphs hold a `ρ`. -/
inductive Block (ρ : Type) where
  /-- A heading of a depth from one to six. -/
  | heading (depth : Nat) (body : ρ)
  /-- A paragraph, also one of a tight list. -/
  | paragraph (body : ρ)
  /-- A list of items. -/
  | list (ordered : Bool) (items : List (Block ρ))
  /-- An item of a list. -/
  | item (body : List (Block ρ))
  /-- A quotation. -/
  | quote (body : List (Block ρ))
  /-- Fenced code with the words behind its opening fence. -/
  | fence (info content : Text)
  /-- Indented code. -/
  | code (content : Text)
  /-- Markup of another kind. -/
  | markup (content : Text)
  /-- A thematic break. -/
  | rule

mutual

/-- The block with every heading and paragraph changed by `f`. -/
def Block.map {ρ σ : Type} (f : ρ → σ) : Block ρ → Block σ
  | .heading depth body => .heading depth (f body)
  | .paragraph body => .paragraph (f body)
  | .list ordered items => .list ordered (mapBlocks f items)
  | .item body => .item (mapBlocks f body)
  | .quote body => .quote (mapBlocks f body)
  | .fence info content => .fence info content
  | .code content => .code content
  | .markup content => .markup content
  | .rule => .rule

/-- The blocks with every heading and paragraph changed by `f`. -/
def mapBlocks {ρ σ : Type} (f : ρ → σ) : List (Block ρ) → List (Block σ)
  | [] => []
  | b :: more => b.map f :: mapBlocks f more

end

/-- A heading or paragraph: its source lines and its inner structure. -/
structure Prose where
  /-- The source lines, without the prefixes of the blocks around. -/
  lines : List Text
  /-- The inner structure. -/
  body : List Inline

/-- What an inline token shows. -/
structure Running where
  /-- The source, trimmed line by line. -/
  content : Text
  /-- Its pieces. -/
  pieces : List Piece
deriving DecidableEq

/-- What the inline token of a heading or paragraph shows. -/
def Prose.running (p : Prose) : Running where
  content := Text.join [Text.newline] (p.lines.map Text.trim)
  pieces := piecesOf p.body

/-! ## The token stream -/

/-- The element of a heading. -/
def headingTag (depth : Nat) : Text :=
  Text.lit (String.ofList ('h' :: (toString depth).toList))

/-- The inline token at a level. -/
def inlineToken (r : Running) (level : Int) : Token :=
  { kind := .inline, content := r.content, level := level, pieces := r.pieces }

/-- A bare token. -/
def bare (kind : Kind) (tag : Text) (level : Int) : Token :=
  { kind := kind, tag := tag, level := level }

/-- Tokens between an opening and a closing one. -/
def between (opening closing : Kind) (tag : Text) (level : Int) (inner : List Token) : List Token :=
  bare opening tag level :: inner ++ [bare closing tag level]

mutual

/-- The tokens of a block at a level. -/
def Block.tokens (level : Int) : Block Running → List Token
  | .heading depth body =>
    between .headingOpen .headingClose (headingTag depth) level [inlineToken body (level + 1)]
  | .paragraph body =>
    between .paragraphOpen .paragraphClose (Text.lit "p") level [inlineToken body (level + 1)]
  | .list false items =>
    between .bulletListOpen .bulletListClose (Text.lit "ul") level (blockTokens (level + 1) items)
  | .list true items =>
    between .orderedListOpen .orderedListClose (Text.lit "ol") level (blockTokens (level + 1) items)
  | .item body =>
    between .listItemOpen .listItemClose (Text.lit "li") level (blockTokens (level + 1) body)
  | .quote body =>
    between .blockquoteOpen .blockquoteClose (Text.lit "blockquote") level
      (blockTokens (level + 1) body)
  | .fence info content =>
    [{ kind := .fence, tag := Text.lit "code", content := content, info := info, level := level }]
  | .code content =>
    [{ kind := .codeBlock, tag := Text.lit "code", content := content, level := level }]
  | .markup content => [{ kind := .htmlBlock, content := content, level := level }]
  | .rule => [bare .rule (Text.lit "hr") level]

/-- The tokens of blocks at a level. -/
def blockTokens (level : Int) : List (Block Running) → List Token
  | [] => []
  | b :: more => b.tokens level ++ blockTokens level more

end

end NovelScript.Markdown
