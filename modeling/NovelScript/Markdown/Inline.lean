import NovelScript.Markdown.Reference
import NovelScript.Markdown.Token
import NovelScript.Text.Space

/-!
# Running text

The inner structure of a paragraph or heading: text, code, links and emphasis. A script only sees
its lines and its code, so the tree is read from left to right into pieces: text is gathered until a
line ends or code begins, and what surrounds it (emphasis, links, images) leaves no trace.
-/

namespace NovelScript.Markdown

/-- A part of running text. -/
inductive Inline where
  /-- Source text; `breaks` when a line ends behind it. -/
  | text (source : Text) (breaks : Bool)
  /-- Text that is not taken from the source. -/
  | string (value : Text)
  /-- Inline code. -/
  | code (source : Text)
  /-- An address that links to itself. -/
  | address (label : Text)
  /-- Markup of another kind inside a line. -/
  | markup (source : Text)
  /-- Emphasized text. -/
  | emphasis (body : List Inline)
  /-- The text of a link. -/
  | link (body : List Inline)
  /-- The description of an image. -/
  | image (body : List Inline)

/-- Reading running text: the line so far, and the pieces behind it. -/
structure Reading where
  /-- Source of the line so far. -/
  line : Text := []
  /-- The finished pieces. -/
  pieces : List Piece := []

namespace Reading

/-- Ends the line. A line with nothing to see is dropped. -/
def flush (r : Reading) : Reading :=
  let s := Text.trim (plain r.line)
  if s.isEmpty then { r with line := [] }
  else { line := [], pieces := r.pieces ++ [⟨.text, s⟩] }

/-- Adds source to the line. -/
def add (r : Reading) (s : Text) : Reading :=
  { r with line := r.line ++ s }

/-- Inline code ends the line and is a piece of its own; its line breaks are blanks. -/
def code (r : Reading) (source : Text) : Reading :=
  let shown := source.map fun b => if b = Text.newline then Text.blank else b
  { r.flush with pieces := r.flush.pieces ++ [⟨.codeInline, shown⟩] }

end Reading

mutual

/-- Reads one part. -/
def Inline.read : Inline → Reading → Reading
  | .text source breaks, r => if breaks then (r.add source).flush else r.add source
  | .string value, r => r.add value
  | .code source, r => r.code source
  | .address label, r => r.add label
  | .markup source, r => r.add source
  | .emphasis body, r => readAll body r
  | .link body, r => readAll body r
  | .image body, r => readAll body r

/-- Reads parts one after the other. -/
def readAll : List Inline → Reading → Reading
  | [], r => r
  | part :: more, r => readAll more (part.read r)

end

/-- The pieces of running text. -/
def piecesOf (body : List Inline) : List Piece :=
  (readAll body {}).flush.pieces

end NovelScript.Markdown
