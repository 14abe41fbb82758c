import NovelScript.Number.Digits
import NovelScript.Sheet.CodePage
import NovelScript.Sheet.Style
import NovelScript.Sheet.Wrap

/-!
# Pages of a printed script

A script is printed in a type where every character is equally wide, line by line, a wide line in
several rows. Every page has the title above and its number below. Measures are in points, from the
upper left corner of the page while it is laid out, and from the lower left corner in what is drawn.
-/

namespace NovelScript.Sheet

/-! ## Measures -/

/-- A decimal measure. -/
def points (digits : Nat) (places : Nat) : Double :=
  Double.ofDecimal false digits (-(places : Int))

/-- The width of a page. -/
def pageWidth : Double := points 59528 2

/-- The height of a page. -/
def pageHeight : Double := points 84189 2

/-- The space between the edge of a cell and its text. -/
def padding : Double := Double.div (points 2835 2) (points 10 0)

/-- What a user can choose for the print. -/
structure Look where
  /-- Are lines numbered? -/
  numbers : Bool := false
  /-- The size of the type; the usual one when it is not positive. -/
  size : Double := Double.zero
  /-- The margin around the text; the usual one when it is not positive. -/
  margin : Double := Double.zero
  /-- Is there a rule between the numbers and the text? -/
  rule : Bool := false
  /-- The colour of comments; black stands for a middle grey. -/
  comment : Color := {}

/-- The measures of a print. -/
structure Measures where
  /-- The size of the type. -/
  size : Double
  /-- The margin. -/
  margin : Double
  /-- The space for numbers. -/
  gutter : Double

namespace Measures

/-- The height of a row. -/
def row (m : Measures) : Double := m.size.mul (points 135 2)

/-- The width of a character. -/
def char (m : Measures) : Double := m.size.mul (points 6 1)

/-- The width of everything between the margins. -/
def inner (m : Measures) : Double := pageWidth.sub ((points 2 0).mul m.margin)

/-- The width of the text. -/
def column (m : Measures) : Double := m.inner.sub m.gutter

/-- How many characters fit into a row; `none` when that is no number. -/
def columns? (m : Measures) : Option Int :=
  ((m.column.div m.char).trunc?).filter Text.fitsInt64

/-- Where the first row starts. -/
def top (m : Measures) : Double := m.margin.add m.row

/-- Where no row may reach. -/
def bottom (m : Measures) : Double := pageHeight.sub (m.margin.add m.row)

/-- Where the title starts. What is above the page counts from its end. -/
def title (m : Measures) : Double :=
  let y := m.margin.sub m.row
  if Double.lt y Double.zero then pageHeight.add y else y

/-- The size of the type in the last line of a page. -/
def footSize (m : Measures) : Double :=
  let s := m.size.sub (points 1 0)
  if Double.le s Double.zero && Double.le Double.zero s then m.size else s

end Measures

/-- A measure, or the usual one when it is not positive. -/
def positiveOr (x usual : Double) : Double :=
  if Double.le x Double.zero then usual else x

/-- The measures for a script of so many lines. -/
def Look.measures (l : Look) (lines : Nat) : Measures :=
  let m : Measures := ⟨positiveOr l.size (points 9 0), positiveOr l.margin (points 42 0), Double.zero⟩
  if l.numbers then
    { m with gutter := (Double.ofInt ((Text.ofNat lines).length + 1)).mul m.char }
  else m

/-! ## Rows -/

/-- A row of the print: the number of a line in front of its first row, and the text. -/
structure Row where
  /-- The number, on the first row of a line. -/
  number : Option Nat
  /-- The text. -/
  text : Text
  /-- The face. -/
  face : Face
  /-- The colour. -/
  color : Color

/-- The lines of a script; a line end after the last line does not count. -/
def scriptLines (script : Text) : List Text :=
  Text.splitAt Text.newline (Text.dropEnd [Text.newline] script)

/-- The rows of one line. -/
def lineRows (columns : Nat) (comment : Color) (number : Nat) (line : Text) : List Row :=
  let (face, color) := lineStyle comment line
  match wrap columns line with
  | [] => []
  | first :: more =>
    ⟨some number, first, face, color⟩ :: more.map fun t => ⟨none, t, face, color⟩

/-- The rows of lines, the first of which has the number `n`. -/
def rowsFrom (columns : Nat) (comment : Color) : (n : Nat) → List Text → List Row
  | _, [] => []
  | n, line :: more => lineRows columns comment n line ++ rowsFrom columns comment (n + 1) more

/-! ## Drawing -/

/-- Something that is drawn. -/
inductive Item where
  /-- A line between two points. -/
  | line (x y x' y' : Double)
  /-- A text in the code page, from a point on its base line. -/
  | text (face : Face) (size : Double) (color : Color) (x y : Double) (content : List UInt8)

/-- The pages that are done, and the page that is being drawn. -/
structure Press where
  /-- The pages that are done, the last one first. -/
  done : List (List Item) := []
  /-- What is on the page so far, in order. -/
  items : List Item := []
  /-- Where the next row starts. -/
  y : Double

/-- The sides on which a text is flush. -/
inductive Side where
  /-- At the left edge. -/
  | left
  /-- At the right edge. -/
  | right

/-- The width of a text. -/
def textWidth (size : Double) (s : List UInt8) : Double :=
  ((Double.ofInt (600 * s.length)).mul size).div (points 1000 0)

/-- A text in a cell of the page; an empty one is not drawn. -/
def cellItem (face : Face) (size : Double) (color : Color) (side : Side) (x y width height : Double)
    (s : List UInt8) : List Item :=
  if s.isEmpty then []
  else
    let dx := match side with
      | .left => padding
      | .right => (width.sub padding).sub (textWidth size s)
    let down := (y.add ((points 5 1).mul height)).add ((points 3 1).mul size)
    [.text face size color (x.add dx) (pageHeight.sub down) s]

/-- The title of a page with the line below it. -/
def headItems (m : Measures) (title : List UInt8) : List Item :=
  let below := pageHeight.sub (m.title.add m.row)
  .line m.margin below (m.margin.add m.inner) below ::
    cellItem .bold m.size {} .left m.margin m.title m.inner m.row title

/-- The mark that stands for the number of pages until that is known. -/
def countMark : List UInt8 := Text.lit "\x7bnb\x7d"

/-- The number of a page. -/
def footItems (m : Measures) (page : Nat) : List Item :=
  cellItem .plain m.footSize {} .right m.margin (pageHeight.sub m.margin) m.inner m.row
    (Text.ofNat page ++ Text.lit "/" ++ countMark)

/-- An empty page with its title. -/
def Press.start (m : Measures) (title : List UInt8) (done : List (List Item)) : Press :=
  ⟨done, headItems m title, m.top⟩

/-- The page is finished with its number. -/
def Press.finish (m : Measures) (p : Press) : List (List Item) :=
  (p.items ++ footItems m (p.done.length + 1)) :: p.done

/-- Makes room for one more row, on a new page if need be. -/
def Press.makeRoom (m : Measures) (title : List UInt8) (p : Press) : Press :=
  if Double.lt m.bottom (p.y.add m.row) then Press.start m title (p.finish m) else p

/-- Draws on the page. -/
def Press.draw (p : Press) (items : List Item) : Press :=
  { p with items := p.items ++ items }

/-- The colour of numbers. -/
def numberColor : Color := ⟨150, 150, 150⟩

/-- Draws the number of a row and the rule beside it. -/
def Press.number (m : Measures) (rule : Bool) (title : List UInt8) (p : Press) (r : Row) : Press :=
  let p := p.makeRoom m title
  let s := match r.number with
    | some n => Text.ofNat n
    | none => []
  let width := m.gutter.sub (m.char.div (points 2 0))
  let x := (m.margin.add m.gutter).sub (m.char.div (points 4 0))
  let rules : List Item :=
    if rule then [.line x (pageHeight.sub p.y) x (pageHeight.sub (p.y.add m.row))] else []
  p.draw (cellItem .plain m.size numberColor .right m.margin p.y width m.row s ++ rules)

/-- Draws a row. -/
def Press.row (m : Measures) (l : Look) (title : List UInt8) (p : Press) (r : Row) : Press :=
  let p := if l.numbers then p.number m l.rule title r else p
  let p := p.makeRoom m title
  let x := if l.numbers then m.margin.add m.gutter else m.margin
  let p := p.draw (cellItem r.face m.size r.color .left x p.y m.column m.row (coded r.text))
  { p with y := p.y.add m.row }

/-! ## The number of pages -/

/-- The text with every mark replaced by the number of pages, after `skip` bytes of a mark. -/
def countedFrom (pages : Text) : (skip : Nat) → List UInt8 → List UInt8
  | _, [] => []
  | skip + 1, _ :: r => countedFrom pages skip r
  | 0, b :: r =>
    if Text.startsWith countMark (b :: r) then pages ++ countedFrom pages (countMark.length - 1) r
    else b :: countedFrom pages 0 r

/-- The item with the number of pages put in. -/
def Item.counted (pages : Nat) : Item → Item
  | .text face size color x y s => .text face size color x y (countedFrom (Text.ofNat pages) 0 s)
  | item => item

/-- Why a script cannot be printed. -/
inductive Problem where
  /-- Fewer than eight characters of this size would fit into a row. -/
  | tooNarrow (size : Double)
deriving DecidableEq

/-- What is said when a script cannot be printed. -/
def Problem.message : Problem → Text
  | .tooNarrow size => Text.lit "page too narrow for " ++ size.fixed 1 ++ Text.lit "pt text"

/-- The fewest characters that a row must have room for. -/
def leastColumns : Int := 8

/-- The colour of comments. -/
def Look.commentColor (l : Look) : Color :=
  if l.comment = {} then ⟨120, 120, 120⟩ else l.comment

/-- The pages of a script, in order. -/
def print (l : Look) (title script : Text) : Except Problem (List (List Item)) :=
  let lines := scriptLines script
  let m := l.measures lines.length
  let columns := m.columns?.getD 0
  if columns < leastColumns then .error (.tooNarrow m.size)
  else
    let head := coded title
    let rows := rowsFrom columns.toNat l.commentColor 1 lines
    let pages := ((rows.foldl (Press.row m l head) (Press.start m head [])).finish m).reverse
    .ok (pages.map fun items => items.map (Item.counted pages.length))

/-! ## What is written -/

/-- The part of a colour as a fraction of one. -/
def fraction (n : Int) : Text :=
  ((Double.ofInt (max 0 (min 255 n))).div (points 255 0)).fixed 3

/-- How a colour is written; black needs no word. -/
def Color.toText (c : Color) : Text :=
  let part (n : Int) : Int := max 0 (min 255 n)
  if part c.red = part c.green ∧ part c.red = part c.blue then
    if part c.red = 0 then [] else fraction c.red ++ Text.lit " g"
  else
    Text.join (Text.lit " ") [fraction c.red, fraction c.green, fraction c.blue, Text.lit "rg"]

/-- The name of a face. -/
def Face.name : Face → String
  | .plain => "Courier"
  | .bold => "Courier-Bold"
  | .slanted => "Courier-Oblique"

/-- The words by which an item is written: what it is, and its measures with two places. -/
def Item.words : Item → List Text
  | .line x y x' y' => Text.lit "line" :: [x, y, x', y'].map (Double.fixed 2)
  | .text face size color x y s =>
    [Text.lit "text", Text.lit face.name, size.fixed 2, color.toText, x.fixed 2, y.fixed 2,
      Text.encode (s.map fun b => Char.ofNat b.toNat)]

end NovelScript.Sheet
