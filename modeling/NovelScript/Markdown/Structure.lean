import NovelScript.Markdown.Definition
import NovelScript.Markdown.Html
import NovelScript.Markdown.Span

/-!
# The block structure of a document

A document is read line by line. Blocks are open around the current place: quotes, lists and items,
and inside them at most one block of text. Each line first continues the open blocks from the
outside in, as far as its prefixes say; then it may open new blocks, continue a paragraph even
without its prefixes, or close what it does not continue.

A paragraph gives up the link definitions at its start when it is closed. When nothing else is in
it, an empty paragraph stays in its place.
-/

namespace NovelScript.Markdown

/-! ## Open blocks -/

/-- A block that holds blocks. -/
inductive Container where
  | quote
  /-- A list with the last byte of its markers: a bullet, or the delimiter of its numbers. -/
  | list (marker : UInt8)
  /-- An item whose content starts at a column of its list. -/
  | item (offset : Nat)

/-- An open container with its finished blocks, last first. -/
structure Frame where
  /-- What it is. -/
  container : Container
  /-- The finished blocks in it, last first. -/
  body : List (Block (List SourceLine)) := []

/-- An open fence. -/
structure Fence where
  /-- The byte it is made of. -/
  mark : UInt8
  /-- Bytes of indentation in front of it. -/
  indent : Nat
  /-- Its length. -/
  length : Nat
  /-- The words behind it. -/
  info : Text

/-- A line of an open paragraph. -/
structure ParagraphLine where
  /-- The byte in front of it. -/
  before : UInt8
  /-- Columns of a cut tabulator in front of it. -/
  padding : Nat
  /-- Its bytes. -/
  bytes : Text

/-- An open block of text; lines are kept last first. -/
inductive Leaf where
  | paragraph (lines : List ParagraphLine)
  | fence (fence : Fence) (lines : List Text)
  | code (lines : List Text)
  | markup (ending : MarkupEnd) (lines : List Text)

/-- A document while it is read. -/
structure Reader where
  /-- The open containers, innermost first. -/
  frames : List Frame := []
  /-- The finished blocks outside all of them, last first. -/
  top : List (Block (List SourceLine)) := []
  /-- The open block of text. -/
  leaf : Option Leaf := none
  /-- Did an item just end because another one of its list begins? -/
  nextItem : Bool := false
  /-- Is an item without content followed by a blank line? -/
  emptyItem : Bool := false
  /-- Keys of the defined link labels. -/
  keys : List Text := []
  /-- Does the next line belong to the innermost container whatever its prefix is? So it is behind
  the mark that ends a block of markup. -/
  whole : Bool := false

/-! ## Closing -/

/-- A paragraph line without white space in front. -/
def ParagraphLine.trimmed (l : ParagraphLine) : ParagraphLine :=
  let space := l.bytes.takeWhile isSpace
  { before := space.getLast?.getD l.before, padding := 0, bytes := l.bytes.drop space.length }

/-- A paragraph line with its padding as blanks. -/
def ParagraphLine.view (l : ParagraphLine) : Text :=
  List.replicate l.padding Text.blank ++ l.bytes

/-- The lines of a finished paragraph: trimmed on the left, the last one on both sides. -/
def finishedLines (lines : List ParagraphLine) : List SourceLine :=
  let trimmed := lines.map fun l => (⟨l.trimmed.before, l.trimmed.bytes⟩ : SourceLine)
  trimmed.dropLast ++ trimmed.getLast?.toList.map fun l => { l with bytes := trimEnd l.bytes }

/-- Code without blank lines at its end; `lines` are last first. -/
def codeText (lines : List Text) : Text :=
  (lines.dropWhile isBlankLine).reverse.flatten

namespace Reader

/-- Adds a finished block to the innermost container. -/
def add (r : Reader) (b : Block (List SourceLine)) : Reader :=
  match r.frames with
  | [] => { r with top := b :: r.top }
  | f :: more => { r with frames := { f with body := b :: f.body } :: more }

/-- The definitions of an open paragraph, and the lines without them. -/
def splitDefinitions (lines : List ParagraphLine) : List Text × List ParagraphLine :=
  let ds := definitionsOf (lines.map (·.view))
  (ds.map (·.key), withoutDefinitions 0 ds lines)

/-- Closes the open block of text. -/
def closeLeaf (r : Reader) : Reader :=
  let closed := { r with leaf := none }
  match r.leaf with
  | none => r
  | some (.paragraph lines) =>
    let (keys, left) := splitDefinitions lines.reverse
    { closed with keys := r.keys ++ keys }.add (.paragraph (finishedLines left))
  | some (.fence f lines) => closed.add (.fence (Text.trim f.info) lines.reverse.flatten)
  | some (.code lines) => closed.add (.code (codeText lines))
  | some (.markup _ lines) => closed.add (.markup lines.reverse.flatten)

/-- The block of a finished container. -/
def Frame.block (f : Frame) : Block (List SourceLine) :=
  match f.container with
  | .quote => .quote f.body.reverse
  | .list marker => .list (marker = 0x2E || marker = 0x29) f.body.reverse
  | .item _ => .item f.body.reverse

/-- Closes the `n` innermost containers. -/
def closeFrames : (n : Nat) → Reader → Reader
  | 0, r => r
  | n + 1, r =>
    match r.frames with
    | [] => r
    | f :: more => closeFrames n ({ r with frames := more }.add (Frame.block f))

/-- Closes all but the `n` outermost containers, and the open block of text. -/
def closeTo (r : Reader) (n : Nat) : Reader :=
  closeFrames (r.frames.length - n) r.closeLeaf

/-- Opens a container inside the innermost one. -/
def enter (r : Reader) (c : Container) : Reader :=
  { r with frames := ⟨c, []⟩ :: r.frames }

/-- Is a paragraph open? -/
def inParagraph (r : Reader) : Bool :=
  match r.leaf with
  | some (.paragraph _) => true
  | _ => false

end Reader

/-! ## Lines that start blocks -/

/-- Three or more of one of the marks `*`, `-`, `_`, with white space anywhere between. -/
def isRule (column : Nat) (s : Text) : Bool :=
  let marks := s.filter (!isSpace ·)
  match marks with
  | [] => false
  | m :: _ =>
    (indentation column s).1 ≤ 3 && (m = 0x2A || m = 0x2D || m = 0x5F) && marks.all (· = m) &&
      3 ≤ marks.length

/-- A line of equals signs or hyphens under a paragraph: the depth of the heading it makes. -/
def underline? (s : Text) : Option Nat :=
  let body := s.dropWhile (· = Text.blank)
  let all (m : UInt8) := !(trimEnd body).isEmpty && (trimEnd body).all (· = m)
  if 3 < s.length - body.length then none
  else if all 0x3D then some 1
  else if all 0x2D then some 2
  else none

/-- The marker of a list item: bytes of indentation in front of it, bytes up to its end, the last
byte of the marker, the number of an ordered one, and what follows. -/
structure ItemMarker where
  /-- Bytes in front of the marker. -/
  indent : Nat
  /-- Bytes up to the end of the marker. -/
  stop : Nat
  /-- The last byte of the marker. -/
  mark : UInt8
  /-- The number of an ordered item. -/
  number : Option Nat
  /-- What follows the marker, line break included. -/
  rest : Text

/-- The marker of a list item at the start of a line: a bullet, or up to nine digits and a delimiter,
with white space or nothing behind it. -/
def itemMarker? (s : Text) : Option ItemMarker :=
  let body := s.dropWhile (· = Text.blank)
  let indent := s.length - body.length
  let follows (rest : Text) := match rest with
    | [] => true
    | b :: _ => b = Text.newline || b = Text.blank || b = Text.tab
  if 3 < indent then none
  else match body with
    | [] => none
    | b :: r =>
      if b = 0x2D || b = 0x2A || b = 0x2B then
        if follows r then some ⟨indent, indent + 1, b, none, r⟩ else none
      else
        let digits := body.takeWhile Text.isDigit
        match body.drop digits.length with
        | d :: rest =>
          if !digits.isEmpty && digits.length ≤ 9 && (d = 0x2E || d = 0x29) && follows rest then
            some ⟨indent, indent + digits.length + 1, d,
              some (digits.foldl (fun n b => 10 * n + (b.toNat - 0x30)) 0), rest⟩
          else none
        | [] => none

/-- Columns from the end of a marker to the content of its item: one when there is no content on the
line, or when the content is indented code. -/
def ItemMarker.gap (m : ItemMarker) : Nat :=
  if isBlankLine m.rest then 1
  else
    let (w, _) := indentation m.stop m.rest
    if 4 < w then 1 else w

/-- The heading that a line of hash signs makes: its depth and its text, if it has any. -/
def hashHeading? (s : Text) (position : Nat) : Option (Nat × Option Text) :=
  let body := s.drop position
  let depth := (body.takeWhile (· = Text.hash)).length
  let behind := body.drop depth
  if depth = 0 || 6 < depth then none
  else match behind with
    | [] => some (depth, none)
    | b :: _ =>
      if !isSpace b then none
      else
        let text := trimEnd (trimStart behind)
        let bare := (text.reverse.dropWhile (· = Text.hash)).reverse
        if bare.isEmpty then some (depth, none)
        else if bare.length < text.length && (bare.getLast?.map isSpace).getD false then
          some (depth, some bare)
        else some (depth, some text)

/-- The fence that starts at a position of a line. A single byte behind it is taken for the end of
the line, also when the document ends there. -/
def fence? (s : Text) (position : Nat) : Option Fence :=
  match s.drop position with
  | [] => none
  | m :: r =>
    let length := 1 + (r.takeWhile (· = m)).length
    let behind := (m :: r).drop length
    let info := if behind.length ≤ 1 then [] else trimEnd (trimStart behind)
    if length < 3 || (m = 0x60 && info.contains 0x60) then none
    else some ⟨m, position, length, info⟩

/-- The line behind the mark of a quote and the white space after it. -/
def quoteRest? (l : Line) : Option Line :=
  let (w, n) := l.indent
  match l.view.drop n with
  | 0x3E :: r =>
    if 3 < w then none
    else
      let m := l.drop (n + 1)
      match r with
      | b :: _ =>
        if b = Text.blank then some (m.dropPadded 1 0)
        else if b = Text.tab then some (m.dropPadded 1 (tabWidth m.offset - 1))
        else some m
      | [] => some m
  | _ => none

/-! ## Continuing open blocks -/

/-- What a container makes of a line: the line behind its prefix, if it goes on. -/
structure Continued where
  /-- The line inside the container; `none` when the container ends. -/
  line : Option Line
  /-- See `Reader.nextItem`. -/
  nextItem : Bool
  /-- See `Reader.emptyItem`. -/
  emptyItem : Bool

/-- Does a list whose last item starts its content at `offset` go on? `vacant` says that this item
has no content. -/
def listContinues (marker : UInt8) (offset : Nat) (vacant emptyItem : Bool) (l : Line) : Bool :=
  let s := l.view
  let (w, _) := l.indent
  let outside := w < offset || vacant
  match if outside && w < 4 then itemMarker? s else none with
  | some m =>
    m.mark = marker && !isRule 0 (s.drop (m.stop - 1))
  | none =>
    if outside && !vacant then false
    else if vacant && w < offset then false
    else !emptyItem

/-- The step of one container; `inner` are the containers inside it, from the outside in, and `busy`
says that a block of text is open. -/
def continued (r : Reader) (f : Frame) (inner : List Frame) (busy : Bool) (l : Line) : Continued :=
  let blank := isBlankLine l.view
  let keep (line : Option Line) : Continued := ⟨line, r.nextItem, r.emptyItem⟩
  match f.container with
  | .quote => keep (quoteRest? l)
  | .list marker =>
    match inner with
    | [] => keep none
    | item :: deeper =>
      let vacant := item.body.isEmpty && deeper.isEmpty && !busy
      let offset := match item.container with
        | .item offset => offset
        | _ => 0
      if blank then ⟨some l, r.nextItem, r.emptyItem || vacant⟩
      else if listContinues marker offset vacant r.emptyItem l then keep (some l)
      else keep none
  | .item offset =>
    let vacant := f.body.isEmpty && inner.isEmpty && !busy && r.emptyItem
    let (w, _) := l.indent
    if blank then keep (some (l.drop (l.view.length - 1)))
    else if (vacant || w < offset) && w < 4 && (itemMarker? l.view).isSome then
      ⟨none, true, r.emptyItem⟩
    else if !vacant && w < offset && w < 4 then keep none
    else match takeIndent l.offset offset 0 l.view with
      | some (n, padding) => keep (some (l.dropPadded n padding))
      | none => keep none

/-- How many containers go on with a line, and what they leave of it. -/
def descend (busy : Bool) : List Frame → Reader → Line → Nat × Reader × Line
  | [], r, l => (0, r, l)
  | f :: inner, r, l =>
    let c := continued r f inner busy l
    let r := { r with nextItem := c.nextItem, emptyItem := c.emptyItem }
    match c.line with
    | some l =>
      let (n, r, l) := descend busy inner r l
      (n + 1, r, l)
    | none => (0, r, l)

/-! ## Opening blocks -/

/-- What a line opens at one place. -/
inductive Opening where
  /-- Nothing. -/
  | nothing
  /-- A container; the line goes on inside it. -/
  | inside (c : Container) (l : Line)
  /-- A container with nothing in it on this line. -/
  | vacant (c : Container)
  /-- A block of text. -/
  | text (leaf : Leaf)
  /-- A block of one line. -/
  | whole (b : Block (List SourceLine))
  /-- The open paragraph becomes a heading. -/
  | under (depth : Nat)

/-- The line of a paragraph. -/
def paragraphLine (l : Line) : ParagraphLine :=
  ⟨l.before, l.padding, l.rest⟩

/-- What the line opens inside the innermost container. `interrupting` says that a paragraph is open
there or further in that would be interrupted, and `direct` that it is directly in that container. -/
def opening (r : Reader) (interrupting direct : Bool) (l : Line) : Opening × Bool :=
  let s := l.view
  let (w, n) := l.indent
  let flat := w ≤ 3
  let first := s[n]?.getD 0
  let isList : Container → Bool
    | .list _ => true
    | _ => false
  let inList := (r.frames.head?.map fun f => isList f.container).getD false
  let listByte := first = 0x2D || first = 0x2A || first = 0x2B || Text.isDigit first
  let marker := if listByte then itemMarker? s else none
  let free : Opening :=
    if interrupting then .nothing
    else match if isBlankLine s then none else takeIndent l.offset 4 0 s with
      | some (n, padding) => 
        let m := l.dropPadded n padding
        .text (.code [withNewline (m.code 0 m.padding 0)])
      | none =>
        let p := (paragraphLine l).trimmed
        if flat && !p.bytes.isEmpty then .text (.paragraph [p]) else .nothing
  match if flat && direct then underline? s else none with
  | some depth => (.under depth, r.nextItem)
  | none =>
    if flat && isRule l.offset s then (.whole .rule, r.nextItem)
    else
      let startsList := flat && listByte && !inList && !r.nextItem
      let nextItem := r.nextItem && !(flat && listByte)
      let list : Option Container := match marker with
        | some m =>
          if !startsList then none
          else if direct && (m.number.getD 1 != 1 || isBlankLine m.rest) then none
          else some (.list m.mark)
        | none => none
      match list with
      | some c => (.inside c l, nextItem)
      | none =>
        match if inList then marker else none with
        | some m =>
          let c := Container.item (m.stop + m.gap)
          if isBlankLine m.rest then (.vacant c, nextItem)
          else match takeIndent m.stop m.gap 0 m.rest with
            | some (n, padding) => (.inside c (l.dropPadded (m.stop + n) padding), nextItem)
            | none => (.vacant c, nextItem)
        | none =>
          let special : Opening :=
            if !flat then .nothing
            else if first = 0x3E then
              match quoteRest? l with
              | some m => .inside .quote m
              | none => .nothing
            else if s.length ≤ w then .nothing
            else if first = Text.hash then
              match hashHeading? s n with
              | some (depth, some text) => .whole (.heading depth [⟨Text.newline, text⟩])
              | some (depth, none) => .whole (.heading depth [])
              | none => .nothing
            else if first = 0x60 || first = 0x7E then
              match fence? s n with
              | some f => .text (.fence f [])
              | none => .nothing
            else if first = 0x3C then
              match markupStart? r.inParagraph s with
              | some ending => .text (.markup ending [s])
              | none => .nothing
            else .nothing
          match special with
          | .nothing => (free, nextItem)
          | o => (o, nextItem)

/-- Opens what the line opens inside the `n` outermost containers; at most `fuel` blocks. `opened`
says that this line has opened a block before. -/
def openBlocks : (fuel : Nat) → (opened : Bool) → (n : Nat) → Line → Reader → Reader
  | 0, _, n, _, r => r.closeTo n
  | fuel + 1, opened, n, l, r =>
    let interrupting := !opened && r.inParagraph
    let direct := interrupting && n = r.frames.length
    let outer := { r with frames := r.frames.drop (r.frames.length - n) }
    let blank := l.view.isEmpty || l.view.head? == some Text.newline
    let (o, nextItem) := if blank then (.nothing, r.nextItem) else opening outer interrupting direct l
    let r := { r with nextItem := nextItem }
    match o with
    | .inside c m => openBlocks fuel true (n + 1) m
        (({ r.closeTo n with emptyItem := false } : Reader).enter c)
    | .vacant c => { r.closeTo n with emptyItem := false }.enter c
    | .text leaf => { r.closeTo n with leaf := some leaf }
    | .whole b => (r.closeTo n).add b
    | .under depth =>
      match r.leaf with
      | some (.paragraph lines) =>
        let trimmed := lines.reverse.map (·.trimmed)
        let (keys, left) := Reader.splitDefinitions trimmed
        let r := { r with leaf := none, keys := r.keys ++ keys }
        if left.isEmpty then openBlocks fuel opened n l (r.add (.paragraph []))
        else r.add (.heading depth (finishedLines left))
      | _ => r
    | .nothing =>
      match r.leaf with
      | some (.paragraph lines) =>
        if interrupting && !isBlankLine l.view then
          { r with leaf := some (.paragraph (paragraphLine l :: lines)) }
        else r.closeTo n
      | _ => if opened then r else r.closeTo n

/-! ## One line after the other -/

/-- What an open block of text other than a paragraph makes of a line. -/
inductive LeafStep where
  /-- It goes on. -/
  | grows (leaf : Leaf)
  /-- It ends with this line; `whole` as in `Reader.whole`. -/
  | ends (leaf : Leaf) (whole : Bool)
  /-- It ended before this line. -/
  | past

/-- A line inside a fence. -/
def fenceLine (f : Fence) (l : Line) : Text :=
  let cut : Option (Nat × Nat) :=
    if f.indent = 0 then some (0, l.padding) else takeIndent l.offset f.indent l.padding l.rest
  match cut with
  | some (n, padding) => withNewline (l.code n padding f.indent)
  | none =>
    let space := l.view.takeWhile fun b => b = Text.blank || b = Text.tab
    let n := if (l.view.drop space.length).headD Text.newline = Text.newline then 0 else space.length
    withNewline (l.rest.drop n)

/-- A blank line inside code without `width` of its columns. A tabulator counts for four of them
wherever it stands, and columns that it has too many stay as blanks. The last byte always stays. -/
def blankCode : (width : Nat) → Text → Text
  | 0, s => s
  | width + 1, b :: c :: r =>
    if b = Text.blank then blankCode width (c :: r)
    else if b = Text.tab then List.replicate (3 - width) Text.blank ++ c :: r
    else b :: c :: r
  | _, s => s

/-- The step of an open block of text. -/
def Leaf.step (leaf : Leaf) (l : Line) : LeafStep :=
  let s := l.view
  match leaf with
  | .paragraph _ => .past
  | .fence f lines =>
    let (w, n) := l.indent
    let run := (s.drop n).takeWhile (· = f.mark)
    if w < 4 && f.length ≤ run.length && isBlankLine (s.drop (n + run.length)) then .ends leaf false
    else .grows (.fence f (fenceLine f l :: lines))
  | .code lines =>
    if isBlankLine s then .grows (.code (blankCode 4 s :: lines))
    else match takeIndent l.offset 4 0 s with
      | some (n, padding) =>
        let m := l.dropPadded n padding
        .grows (.code (withNewline (m.code 0 m.padding 0) :: lines))
      | none => .past
  | .markup ending lines =>
    let first := match lines with
      | [first] => ending.isIn first
      | _ => false
    if first then .past
    else if ending.isIn s then .ends (.markup ending (s :: lines)) (ending != .verbatimTag)
    else if ending = .blankLine && isBlankLine s then .past
    else .grows (.markup ending (s :: lines))

/-- The step for one line. -/
def Reader.line (r : Reader) (bytes : Text) : Reader :=
  let l : Line := { rest := bytes }
  let (n, r, l) := if r.whole then (r.frames.length, { r with whole := false }, l)
    else descend r.leaf.isSome r.frames.reverse r l
  let fuel := 2 * bytes.length + 4
  if n < r.frames.length then openBlocks fuel false n l r
  else match r.leaf with
    | none => openBlocks fuel false n l r
    | some leaf =>
      match leaf.step l with
      | .grows leaf => { r with leaf := some leaf }
      | .ends leaf whole => { r with leaf := some leaf, whole := whole }.closeLeaf
      | .past => openBlocks fuel false n l r

/-- The blocks of a document with the source lines of their text, and the keys of its links. -/
def blocksOf (source : Text) : List (Block (List SourceLine)) × List Text :=
  let r := ((linesOf source).foldl Reader.line {}).closeTo 0
  (r.top.reverse, r.keys)

end NovelScript.Markdown
