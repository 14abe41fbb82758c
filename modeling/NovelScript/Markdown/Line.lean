import NovelScript.Text.Basic

/-!
# Lines and columns

A line of a document while the blocks around it take their prefixes off. Indentation counts columns:
a tabulator reaches to the next multiple of four, and when a block needs only a part of it the rest
of its columns stay in front of the line as padding.
-/

namespace NovelScript.Markdown

/-- White space between words of a document. -/
def isSpace (b : UInt8) : Bool :=
  b = 0x20 || (0x09 ≤ b && b ≤ 0x0D)

/-- Nothing but white space. -/
def isBlankLine (s : Text) : Bool :=
  s.all isSpace

/-- The text without white space in front. -/
def trimStart (s : Text) : Text :=
  s.dropWhile isSpace

/-- The text without white space at its end. -/
def trimEnd (s : Text) : Text :=
  (s.reverse.dropWhile isSpace).reverse

/-- Columns from `column` to the next tab stop. -/
def tabWidth (column : Nat) : Nat :=
  4 - column % 4

/-- The column after a byte. -/
def columnAfter (column : Nat) (b : UInt8) : Nat :=
  if b = Text.tab then column + tabWidth column else column + 1

/-- The indentation of a text that starts at a column: its columns and its bytes. -/
def indentation (column : Nat) : Text → Nat × Nat
  | [] => (0, 0)
  | b :: r =>
    if b = Text.blank || b = Text.tab then
      let (w, n) := indentation (columnAfter column b) r
      (columnAfter column b - column + w, n + 1)
    else (0, 0)

/-- Takes indentation off until `width` columns are reached; `got` are there already. Gives the
bytes used and the columns beyond `width`, or `none` when there is not enough. -/
def takeIndent (start width : Nat) (got : Nat) : Text → Option (Nat × Nat)
  | [] => if width ≤ got then some (0, got - width) else none
  | b :: r =>
    if got < width && (b = Text.blank || b = Text.tab) then
      (takeIndent start width (columnAfter (start + got) b - start) r).map fun (n, p) => (n + 1, p)
    else if width ≤ got then some (0, got - width) else none

/-- A line with a part of it taken off. -/
structure Line where
  /-- The bytes taken off, last first. -/
  taken : Text := []
  /-- The bytes that are left, with the end of the line if it has one. -/
  rest : Text
  /-- Columns of a cut tabulator in front of the rest. -/
  padding : Nat := 0

namespace Line

/-- The column in which the rest starts, padding not counted. -/
def column (l : Line) : Nat :=
  l.taken.foldr (fun b column => columnAfter column b) 0

/-- The column in which the padding starts. -/
def offset (l : Line) : Nat :=
  l.column - l.padding

/-- What is left, with the padding as blanks. -/
def view (l : Line) : Text :=
  List.replicate l.padding Text.blank ++ l.rest

/-- The indentation of what is left: its columns and its bytes. -/
def indent (l : Line) : Nat × Nat :=
  indentation l.offset l.view

/-- Takes `n` bytes off, padding first. -/
def drop (l : Line) (n : Nat) : Line :=
  let k := n - l.padding
  { taken := (l.rest.take k).reverse ++ l.taken, rest := l.rest.drop k, padding := l.padding - n }

/-- Takes `n` bytes off and leaves at least `padding` columns. -/
def dropPadded (l : Line) (n padding : Nat) : Line :=
  let m := l.drop n
  { m with padding := max padding m.padding }

/-- The byte in front of the rest; a line break at the start of a line. -/
def before (l : Line) : UInt8 :=
  l.taken.headD Text.newline

/-- The column of the byte in front of the rest; zero at the start of a line. -/
def columnBefore (l : Line) : Nat :=
  ({ l with taken := l.taken.tail, padding := 0 } : Line).column

/-- What is left of a line of code after `n` more bytes with `padding` columns in front. The
tabulator that was cut stays whole when all of its columns are code; `indent` is the indentation of
the code in its block. -/
def code (l : Line) (n padding indent : Nat) : Text :=
  let body := l.rest.drop n
  if padding = 0 then body
  else if l.offset + indent = l.columnBefore then
    ((l.rest.take n).reverse ++ l.taken).headD Text.blank :: body
  else List.replicate padding Text.blank ++ body

end Line

/-- The text with an end of line. -/
def withNewline (s : Text) : Text :=
  if s.isEmpty || s.getLast? == some Text.newline then s else s ++ [Text.newline]

/-- The lines of a document, each with its end. -/
def linesOf (s : Text) : List Text :=
  match s with
  | [] => []
  | b :: r =>
    if b = Text.newline then [b] :: linesOf r
    else match linesOf r with
      | [] => [[b]]
      | l :: more => (b :: l) :: more

end NovelScript.Markdown
