import NovelScript.Sheet.Layout

/-!
# Printed scripts as files

Pages as a document of the portable format: a list of numbered objects, a table of where each object
starts, and a trailer that names the first one. Everything is written plainly, without compression.
-/

namespace NovelScript.Sheet

/-- The faces in the order of their objects. -/
def faces : List Face := [.plain, .bold, .slanted]

/-- The name of a face inside a page. -/
def Face.key : Face → Text
  | .plain => Text.lit "/F1"
  | .bold => Text.lit "/F2"
  | .slanted => Text.lit "/F3"

/-- Words with blanks between them. -/
def spaced (ws : List Text) : Text := Text.join (Text.lit " ") ws

/-- A dictionary. -/
def dictionary (ws : List Text) : Text :=
  spaced (Text.lit "<<" :: ws ++ [Text.lit ">>"])

/-- A reference to an object. -/
def reference (n : Nat) : Text := spaced [Text.ofNat n, Text.lit "0 R"]

/-- A text in brackets; brackets and backslashes in it are escaped. -/
def bracketed (s : List UInt8) : Text :=
  Text.lit "(" ++
    (s.flatMap fun b => if b = 0x28 ∨ b = 0x29 ∨ b = 0x5C then [0x5C, b] else [b]) ++ Text.lit ")"

/-- What draws an item. -/
def Item.drawn : Item → Text
  | .line x y x' y' =>
    spaced [x.fixed 2, y.fixed 2, Text.lit "m", x'.fixed 2, y'.fixed 2, Text.lit "l S"]
  | .text face size color x y s =>
    let paint := if color.toText.isEmpty then Text.lit "0 g" else color.toText
    spaced [Text.lit "BT", face.key, size.fixed 2, Text.lit "Tf", paint, x.fixed 2, y.fixed 2,
      Text.lit "Td", bracketed s, Text.lit "Tj ET"]

/-- A stream of bytes. -/
def stream (content : Text) : Text :=
  dictionary [Text.lit "/Length", Text.ofNat content.length] ++ Text.lit "\nstream\n" ++ content ++
    Text.lit "\nendstream"

/-- The number of the object of the page `n`, counted from zero; its content follows it. -/
def pageObject (n : Nat) : Nat := 6 + 2 * n

/-- The object of a face. -/
def faceObject (f : Face) : Text :=
  dictionary [Text.lit "/Type /Font /Subtype /Type1 /BaseFont", Text.lit "/" ++ Text.lit f.name,
    Text.lit "/Encoding /WinAnsiEncoding"]

/-- The objects of a page: the page itself and its content. -/
def pageObjects (n : Nat) (items : List Item) : List Text :=
  [dictionary [Text.lit "/Type /Page /Parent", reference 2, Text.lit "/Contents",
      reference (pageObject n + 1)],
    stream (Text.join [Text.newline] (items.map Item.drawn))]

/-- The objects of pages, the first of which has the number `n`. -/
def pagesFrom : (n : Nat) → List (List Item) → List Text
  | _, [] => []
  | n, items :: more => pageObjects n items ++ pagesFrom (n + 1) more

/-- All objects, from number one on. -/
def objects (pages : List (List Item)) : List Text :=
  let kids := (List.range pages.length).map fun n => reference (pageObject n)
  [dictionary [Text.lit "/Type /Catalog /Pages", reference 2],
    dictionary [Text.lit "/Type /Pages /Kids [", spaced kids, Text.lit "] /Count",
      Text.ofNat pages.length, Text.lit "/MediaBox [0 0", pageWidth.fixed 2, pageHeight.fixed 2,
      Text.lit "] /Resources << /Font <<", Face.key .plain, reference 3, Face.key .bold,
      reference 4, Face.key .slanted, reference 5, Text.lit ">> >>"]] ++
    faces.map faceObject ++ pagesFrom 0 pages

/-- An object with its number. -/
def numbered (n : Nat) (object : Text) : Text :=
  Text.ofNat n ++ Text.lit " 0 obj\n" ++ object ++ Text.lit "\nendobj\n"

/-- The bytes of objects from the number `n` on, and where each of them starts, when the first one
starts at `start`. -/
def laidOut : (n start : Nat) → List Text → Text × List Nat
  | _, _, [] => ([], [])
  | n, start, object :: more =>
    let bytes := numbered n object
    let (rest, starts) := laidOut (n + 1) (start + bytes.length) more
    (bytes ++ rest, start :: starts)

/-- A row of the table of objects. -/
def tableRow (start : Nat) : Text :=
  Decimal.padded 10 start ++ Text.lit " 00000 n \n"

/-- The bytes of the file. -/
def pdf (pages : List (List Item)) : Text :=
  let mark := Text.lit "%PDF-1.3\n"
  let (body, starts) := laidOut 1 mark.length (objects pages)
  let count := Text.ofNat (starts.length + 1)
  mark ++ body ++ Text.lit "xref\n0 " ++ count ++ Text.lit "\n0000000000 65535 f \n" ++
    starts.flatMap tableRow ++ Text.lit "trailer\n" ++
    dictionary [Text.lit "/Size", count, Text.lit "/Root", reference 1] ++
    Text.lit "\nstartxref\n" ++ Text.ofNat (mark.length + body.length) ++ Text.lit "\n%%EOF\n"

end NovelScript.Sheet
