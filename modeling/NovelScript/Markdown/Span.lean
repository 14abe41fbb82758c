import NovelScript.Markdown.Block
import NovelScript.Markdown.Emphasis
import NovelScript.Markdown.Html
import NovelScript.Markdown.Scan
import NovelScript.Text.Utf8

/-!
# The inner structure of running text

Running text is read once from left to right. At a character that may start something (code, a link,
an address, markup, a run of emphasis marks) it is tried; what does not work out is text. Brackets
wait for their closing bracket, runs of marks are paired when the text around them is complete.
-/

namespace NovelScript.Markdown

/-- A source line of running text, with the byte that stands in front of it in the document. -/
structure SourceLine where
  /-- The byte in front. -/
  before : UInt8
  /-- The bytes of the line. -/
  bytes : Text

/-- Running text while it is read. -/
structure SpanText where
  /-- All lines, one behind the other. -/
  source : Source
  /-- Where lines after the first start, with the byte in front of each. -/
  starts : List (Nat × UInt8)
  /-- Is a link label of this key defined? -/
  defined : Text → Bool

namespace SpanText

/-- Starts of lines, for lines from position `i` on. -/
def startsFrom (i : Nat) : List SourceLine → List (Nat × UInt8)
  | [] => []
  | l :: more => (i, l.before) :: startsFrom (i + l.bytes.length) more

/-- The running text of lines. -/
def ofLines (lines : List SourceLine) (defined : Text → Bool) : SpanText where
  source := (lines.flatMap (·.bytes)).toArray
  starts := (startsFrom 0 lines).tail
  defined := defined

/-- The position of the first byte of a character at or before `i`. -/
def charStart (s : Source) : Nat → Nat
  | 0 => 0
  | i + 1 => if Text.isContinuation (s.byteAt (i + 1)) then charStart s i else i + 1

/-- The character that starts at a position. -/
def charAt (s : Source) (i : Nat) : Char :=
  match s.slice i (i + 4) with
  | [] => '\n'
  | b :: r => (Text.firstChar b r).1

/-- The character in front of a position. -/
def charBefore (t : SpanText) (i : Nat) : Char :=
  match i, t.starts.lookup i with
  | 0, _ => '\n'
  | _, some b => Char.ofNat b.toNat
  | i + 1, none => charAt t.source (charStart t.source i)

/-! ## Code -/

/-- The length of the run of backticks at a position. -/
def ticks (s : Source) (i : Nat) : Nat :=
  s.skipWhile (· = 0x60) i - i

/-- The position of a run of exactly `n` backticks from `i` on; at most `fuel` runs are looked at. -/
def closingTicks? (s : Source) (n : Nat) : (fuel : Nat) → (i : Nat) → Option Nat
  | 0, _ => none
  | fuel + 1, i =>
    let j := s.skipWhile (· != 0x60) i
    if j < s.size then
      if ticks s j = n then some j else closingTicks? s n fuel (j + ticks s j)
    else none

/-- Code loses one blank or line break at both ends, unless it is all white space. -/
def codeContent (s : Text) : Text :=
  let isEdge (b : Option UInt8) := b == some Text.blank || b == some Text.newline
  if !isBlankLine s && isEdge s.head? && isEdge s.getLast? then s.tail.dropLast else s

/-- Code at a position, or its backticks as text: the part and where it ends. -/
def codeAt (s : Source) (i : Nat) : Inline × Nat :=
  let n := ticks s i
  match closingTicks? s n s.size (i + n) with
  | some j => (.code (codeContent (s.slice (i + n) j)), j + n)
  | none => (.text (s.slice i (i + n)) false, i + n)

/-! ## Addresses and markup -/

/-- A byte of the name in a mail address. -/
def isMailByte (b : UInt8) : Bool :=
  Text.isAlphanumeric b || (Text.lit ".!#$%&'*+/=?^_`\x7b|\x7d~-").contains b

/-- One label of a domain: letters, digits and inner hyphens, at most 63 of them. -/
def domainLabel (s : Text) : Nat :=
  let all := s.takeWhile fun b => Text.isAlphanumeric b || b = 0x2D
  if (s.head?.map Text.isAlphanumeric).getD false then
    ((all.take 63).reverse.dropWhile (· = 0x2D)).length
  else 0

/-- The length of a domain at the start of `s`; at most `fuel` labels. -/
def domainLength : (fuel : Nat) → Text → Nat
  | 0, _ => 0
  | fuel + 1, s =>
    let n := domainLabel s
    if n = 0 then 0
    else match s.drop n with
      | 0x2E :: r =>
        let m := domainLength fuel r
        if m = 0 then n else n + 1 + m
      | _ => n

/-- The length of a mail address at the start of `s`. -/
def mailLength? (s : Text) : Option Nat :=
  let name := s.takeWhile isMailByte
  match s.drop name.length with
  | 0x40 :: r =>
    let n := domainLength r.length r
    if name.isEmpty || n = 0 then none else some (name.length + 1 + n)
  | _ => none

/-- The length of an address with a scheme at the start of `s`. -/
def schemeLength? (s : Text) : Option Nat :=
  let isInner (b : UInt8) := Text.isAlphanumeric b || b = 0x2E || b = 0x2B || b = 0x2D
  match s with
  | [] => none
  | b :: r =>
    let scheme := r.takeWhile isInner
    if Text.isLetter b && !scheme.isEmpty && scheme.length ≤ 32 then
      match r.drop scheme.length with
      | 0x3A :: more =>
        let path := more.takeWhile fun c => 0x20 < c && c != 0x3C && c != 0x3E
        some (scheme.length + 2 + path.length)
      | _ => none
    else none

/-- An address in angle brackets: the part and where it ends. -/
def addressAt? (s : Source) (i : Nat) : Option (Inline × Nat) :=
  let rest := s.slice (i + 1) (s.lineEnd i)
  match (mailLength? rest).or (schemeLength? rest) with
  | some n => if rest[n]? == some 0x3E then some (.address (rest.take n), i + n + 2) else none
  | none => none

/-- The text up to the first replacement character, where tags end. -/
def readableFrom : (skip : Nat) → Text → Text
  | _, [] => []
  | skip + 1, b :: r => b :: readableFrom skip r
  | 0, b :: r =>
    match Text.wellFormed? b r with
    | some (c, width) => if c = Text.replacement then [] else b :: readableFrom (width - 1) r
    | none => []

/-- Markup at a position: the part and where it ends. -/
def markupAt? (s : Source) (i : Nat) : Option (Inline × Nat) :=
  let rest := s.slice i s.size
  (markupLength? rest (readableFrom 0 rest)).map fun n => (.markup (rest.take n), i + n)

/-! ## Links -/

mutual

/-- Is there a link in it? -/
def hasLink : Inline → Bool
  | .link _ => true
  | .emphasis body => anyLink body
  | .image body => anyLink body
  | _ => false

/-- Is there a link in one of them? -/
def anyLink : List Inline → Bool
  | [] => false
  | part :: more => hasLink part || anyLink more

end

/-- Is there a link in a part? -/
def partHasLink : Part → Bool
  | .done part => hasLink part
  | _ => false

/-- The end of a destination and title in parentheses that open at `i`. -/
def targetEnd? (s : Source) (i : Nat) : Option Nat :=
  let closes (j : Nat) := if j < s.size && s.byteAt j = 0x29 then some (j + 1) else none
  let i := s.skipSpaces (i + 1)
  (closes i).or do
    let j ← s.destinationEnd? i
    let k := s.skipSpaces j
    (closes k).or do
      let closer ← if k < s.size then Source.titleCloser? (s.byteAt k) else none
      match s.findClosure (s.byteAt k) closer (k + 1) (k + 1) with
      | .ok m => closes (s.skipSpaces (m + 1))
      | .error _ => none

/-- Where the link ends whose text is from `start` to the closing bracket at `i`: behind a target, a
reference, or the bracket itself when its own text is a label. -/
def linkEnd? (t : SpanText) (start i : Nat) : Option Nat :=
  let s := t.source
  let label := s.slice start i
  let ifDefined (key : Text) (position : Nat) : Option Nat :=
    if key.length ≤ 999 && t.defined (labelKey key) then some position else none
  let next := if i + 1 < s.size then s.byteAt (i + 1) else 0
  if next = 0x28 then
    match targetEnd? s (i + 1) with
    | some j => some j
    | none => ifDefined label (i + 1)
  else if next = 0x5B then
    match s.findClosure 0x5B 0x5D (i + 2) (i + 2) with
    | .ok j =>
      let reference := s.slice (i + 2) j
      ifDefined (if isBlankLine reference then label else reference) (j + 1)
    | .error _ => ifDefined label (i + 1)
  else ifDefined label (i + 1)

/-- The positions of waiting brackets, last first. -/
def waiting (parts : List Part) : List Nat :=
  parts.filterMap fun
    | .bracket _ position => some position
    | _ => none

/-- Do the waiting brackets, without the last one, reach too far? -/
def tooWide (parts : List Part) : Bool :=
  match (waiting parts).tail with
  | [] => false
  | inner :: more => 998 < inner + 1 - (more.getLast?.getD inner)

/-- A closing bracket at `i`; `parts` are the parts so far, last first. Gives the parts afterwards,
and where the link ends if there is one. -/
def closeBracket (t : SpanText) (i : Nat) (parts : List Part) : List Part × Option Nat :=
  let isBracket : Part → Bool
    | .bracket _ _ => true
    | _ => false
  let body := parts.takeWhile fun p => !isBracket p
  match parts.drop body.length with
  | .bracket image position :: more =>
    let refused := (body ++ .done (bracketText image) :: more, none)
    if tooWide parts || (!image && body.any partHasLink) then refused
    else match t.linkEnd? (position + 1) i with
      | none => refused
      | some j =>
        let inner := paired body.reverse
        (.done (if image then .image inner else .link inner) :: more, some j)
  | _ => (parts, none)

/-! ## Reading -/

/-- What may start something other than text. -/
def isTrigger (b : UInt8) : Bool :=
  b = 0x60 || b = 0x21 || b = 0x5B || b = 0x5D || b = 0x3C || b = 0x2A || b = 0x5F

/-- Tries what starts at `i`: the parts afterwards, last first, and where it ends if it is something
other than text. -/
def tryAt (t : SpanText) (i : Nat) (parts : List Part) : List Part × Option Nat :=
  let s := t.source
  let b := s.byteAt i
  if b = 0x60 then
    let (part, j) := codeAt s i
    (.done part :: parts, some j)
  else if b = 0x21 then
    if s.byteAt (i + 1) = 0x5B then (.bracket true (i + 1) :: parts, some (i + 2)) else (parts, none)
  else if b = 0x5B then (.bracket false i :: parts, some (i + 1))
  else if b = 0x5D then closeBracket t i parts
  else if b = 0x3C then
    match (addressAt? s i).or (markupAt? s i) with
    | some (part, j) => (.done part :: parts, some j)
    | none => (parts, none)
  else
    let j := s.skipWhile (· = b) i
    let next := if j < s.lineEnd i then charAt s (charStart s j) else ' '
    (.run (Run.between b (j - i) (t.charBefore i) next) :: parts, some j)

/-- How a line ends: where its text stops, whether the line breaks, and whether blanks at the end of
its text stay. -/
structure LineShape where
  /-- Where the text stops. -/
  stop : Nat
  /-- Does another line follow? -/
  breaks : Bool
  /-- Do blanks at the end stay? -/
  exact : Bool

/-- The shape of the line from `i` on. A backslash or two blanks in front of the line break belong
to the break. -/
def lineShape (s : Source) (i : Nat) : LineShape :=
  let stop := s.lineEnd i
  let n := stop - i
  let back (k : Nat) := s.byteAt (stop - k)
  if n = 0 || back 1 != Text.newline then ⟨stop, false, false⟩
  else if (3 ≤ n && back 2 = 0x5C && back 3 != 0x5C) || (n = 2 && back 2 = 0x5C) then
    ⟨stop - 2, true, true⟩
  else if back 2 = 0x0D &&
      ((4 ≤ n && back 3 = 0x5C && back 4 != 0x5C) || (n = 3 && back 3 = 0x5C)) then
    ⟨stop - 3, true, true⟩
  else if 3 ≤ n && back 2 = Text.blank && back 3 = Text.blank then ⟨stop - 3, true, false⟩
  else if 4 ≤ n && back 2 = 0x0D && back 3 = Text.blank && back 4 = Text.blank then
    ⟨stop - 4, true, false⟩
  else ⟨stop - 1, true, false⟩

/-- Reading between two bytes. -/
structure Progress where
  /-- The current position. -/
  position : Nat := 0
  /-- Where the text that is not yet a part starts. -/
  start : Nat := 0
  /-- Is this right behind a part or at the start of a line? -/
  fresh : Bool := true
  /-- Is the byte behind a backslash? -/
  escaped : Bool := false
  /-- How the line ends. -/
  shape : LineShape
  /-- The parts so far, last first. -/
  parts : List Part := []

namespace Progress

/-- Goes on at `i`, right behind a part or at the start of a line. -/
def resume (t : SpanText) (p : Progress) (i : Nat) : Progress :=
  { p with position := i, start := i, fresh := true, shape := lineShape t.source i }

/-- Ends the line. -/
def endLine (t : SpanText) (p : Progress) : Progress :=
  let s := t.source.slice p.start p.position
  let text := if p.shape.exact then s else trimEnd s
  { p with parts := .done (.text text p.shape.breaks) :: p.parts }.resume t
    (t.source.lineEnd p.position)

/-- Takes one byte as text. -/
def takeByte (t : SpanText) (p : Progress) : Progress :=
  { p with
    position := p.position + 1
    fresh := false
    escaped := !p.escaped && t.source.byteAt p.position = 0x5C }

/-- One step. -/
def step (t : SpanText) (p : Progress) : Progress :=
  let b := t.source.byteAt p.position
  if p.shape.stop ≤ p.position || b = Text.newline then p.endLine t
  else if isTrigger b && (p.fresh || !p.escaped) then
    let text := t.source.slice p.start p.position
    let parts := if p.fresh then p.parts else .done (.text text false) :: p.parts
    match tryAt t p.position parts with
    | (parts, some j) => { p with parts := parts }.resume t j
    | (parts, none) =>
      { p with parts := parts, start := p.position, escaped := false }.takeByte t
  else p.takeByte t

/-- Steps until the text ends; at most `fuel` of them. -/
def run (t : SpanText) : (fuel : Nat) → Progress → Progress
  | 0, p => p
  | fuel + 1, p => if p.fresh && t.source.size ≤ p.position then p else run t fuel (p.step t)

end Progress

/-- The inner structure of running text. -/
def inlines (t : SpanText) : List Inline :=
  let start : Progress := { shape := lineShape t.source 0 }
  paired (start.run t (2 * t.source.size + 2)).parts.reverse

end SpanText

/-- A heading or paragraph of these source lines. -/
def proseOf (defined : Text → Bool) (lines : List SourceLine) : Prose where
  lines := lines.map (·.bytes)
  body := (SpanText.ofLines lines defined).inlines

end NovelScript.Markdown
