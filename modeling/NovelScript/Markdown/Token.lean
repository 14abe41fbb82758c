import NovelScript.Text.Basic

/-!
# Tokens of a document

A document as one flat sequence: block structure by opening and closing tokens, running text by
`inline` tokens with their pieces. Streams made by hand may hold kinds that no document has; those
are `other`.
-/

namespace NovelScript.Markdown

/-- What a token is. -/
inductive Kind where
  | headingOpen
  | headingClose
  | paragraphOpen
  | paragraphClose
  | bulletListOpen
  | bulletListClose
  | orderedListOpen
  | orderedListClose
  | listItemOpen
  | listItemClose
  | blockquoteOpen
  | blockquoteClose
  | fence
  | codeBlock
  | htmlBlock
  | rule
  | inline
  | text
  | codeInline
  /-- A kind of another name. -/
  | other (name : Text)
deriving DecidableEq

namespace Kind

/-- The kinds of documents with their names. -/
def named : List (Kind × String) :=
  [(headingOpen, "heading_open"), (headingClose, "heading_close"),
    (paragraphOpen, "paragraph_open"), (paragraphClose, "paragraph_close"),
    (bulletListOpen, "bullet_list_open"), (bulletListClose, "bullet_list_close"),
    (orderedListOpen, "ordered_list_open"), (orderedListClose, "ordered_list_close"),
    (listItemOpen, "list_item_open"), (listItemClose, "list_item_close"),
    (blockquoteOpen, "blockquote_open"), (blockquoteClose, "blockquote_close"), (fence, "fence"),
    (codeBlock, "code_block"), (htmlBlock, "html_block"), (rule, "hr"), (inline, "inline"),
    (text, "text"), (codeInline, "code_inline")]

/-- The name of a kind. -/
def name (k : Kind) : Text :=
  match k with
  | other n => n
  | k => match named.lookup k with
    | some n => Text.lit n
    | none => []

/-- The kind of a name. -/
def ofName (n : Text) : Kind :=
  match named.find? fun p => Text.lit p.2 == n with
  | some p => p.1
  | none => other n

end Kind

/-- A piece of running text: a line of it, or inline code. -/
structure Piece where
  /-- `text` or `codeInline`; pieces of other kinds are passed over. -/
  kind : Kind
  /-- Its text. -/
  content : Text
deriving DecidableEq

/-- One token. -/
structure Token where
  /-- What it is. -/
  kind : Kind
  /-- The element it stands for, as in `h1` or `li`. -/
  tag : Text := []
  /-- Source text of inline, code and markup tokens. -/
  content : Text := []
  /-- The words behind an opening fence. -/
  info : Text := []
  /-- How many pairs are open around it. -/
  level : Int := 0
  /-- The pieces of an inline token. -/
  pieces : List Piece := []
deriving DecidableEq

/-- Does the token carry running text? -/
def Token.isInline (t : Token) : Bool :=
  t.kind == .inline

end NovelScript.Markdown
