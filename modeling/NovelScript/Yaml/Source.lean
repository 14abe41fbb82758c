import NovelScript.Text.Basic
import NovelScript.Yaml.Error

/-!
# The characters of a document

A document is UTF-8, or UTF-16 when it starts with the byte order mark of that. Control characters
are refused. Line ends are made equal: a carriage return, a line feed, both together and the next
line character are one line feed.
-/

namespace NovelScript.Yaml

/-- May the character stand in a document? -/
def isAllowed (n : Nat) : Bool :=
  n == 0x09 || n == 0x0A || n == 0x0D || (0x20 ≤ n && n ≤ 0x7E) || n == 0x85 ||
    (0xA0 ≤ n && n ≤ 0xD7FF) || (0xE000 ≤ n && n ≤ 0xFFFD) || (0x10000 ≤ n && n ≤ 0x10FFFF)

/-- The character of a code, when it may stand in a document. -/
def allowed (n : Nat) : Except Fault Char :=
  if isAllowed n then .ok (Char.ofNat n) else .error .control

/-- How many bytes the character has that starts with the byte. -/
def widthOf? (b : UInt8) : Option Nat :=
  if b < 0x80 then some 1
  else if b &&& 0xE0 == 0xC0 then some 2
  else if b &&& 0xF0 == 0xE0 then some 3
  else if b &&& 0xF8 == 0xF0 then some 4
  else none

/-- The part of the first byte that belongs to the value of the character. -/
def leadValue (b : UInt8) (width : Nat) : Nat :=
  match width with
  | 1 => b.toNat
  | 2 => b.toNat % 32
  | 3 => b.toNat % 16
  | _ => b.toNat % 8

/-- The code that starts with `b` and has `width` bytes, the others at the start of `rest`. -/
def code (b : UInt8) (width : Nat) (rest : Text) : Except Fault Nat :=
  let trail := rest.take (width - 1)
  if trail.length < width - 1 then .error .incomplete
  else if !trail.all (fun c => c &&& 0xC0 == 0x80) then .error .trail
  else
    let n := trail.foldl (fun n c => 64 * n + c.toNat % 64) (leadValue b width)
    if (width == 2 && n < 0x80) || (width == 3 && n < 0x800) || (width == 4 && n < 0x10000) then
      .error .overlong
    else if (0xD800 ≤ n && n ≤ 0xDFFF) || 0x10FFFF < n then .error .noCharacter
    else .ok n

/-- The characters of UTF-8 after `skip` bytes. -/
def bytesFrom : (skip : Nat) → Text → Except Fault (List Char)
  | _, [] => .ok []
  | skip + 1, _ :: r => bytesFrom skip r
  | 0, b :: r =>
    match widthOf? b with
    | none => .error .lead
    | some width => do
      let c ← allowed (← code b width r)
      return c :: (← bytesFrom (width - 1) r)

/-- The 16-bit units of a text, the low byte first or last. -/
def units (lowFirst : Bool) : Text → Except Fault (List Nat)
  | [] => .ok []
  | [_] => .error .halfUnit
  | a :: b :: r => do
    let n := if lowFirst then b.toNat * 256 + a.toNat else a.toNat * 256 + b.toNat
    return n :: (← units lowFirst r)

/-- The characters of 16-bit units. -/
def unitsFrom : List Nat → Except Fault (List Char)
  | [] => .ok []
  | n :: r =>
    if 0xDC00 ≤ n ∧ n ≤ 0xDFFF then .error .loneLow
    else if 0xD800 ≤ n ∧ n ≤ 0xDBFF then
      match r with
      | [] => .error .halfPair
      | m :: r =>
        if 0xDC00 ≤ m ∧ m ≤ 0xDFFF then do
          let c ← allowed (0x10000 + (n % 1024) * 1024 + m % 1024)
          return c :: (← unitsFrom r)
        else .error .loneHigh
    else do
      let c ← allowed n
      return c :: (← unitsFrom r)

/-- One line feed for every way to end a line. -/
def unifyBreaks : List Char → List Char
  | [] => []
  | '\r' :: '\n' :: r => '\n' :: unifyBreaks r
  | c :: r => (if c = '\r' ∨ c = Char.ofNat 0x85 then '\n' else c) :: unifyBreaks r

/-- The characters of a document. -/
def charactersOf (s : Text) : Except Fault (List Char) :=
  unifyBreaks <$>
    match s with
    | 0xFF :: 0xFE :: r => units true r >>= unitsFrom
    | 0xFE :: 0xFF :: r => units false r >>= unitsFrom
    | 0xEF :: 0xBB :: 0xBF :: r => bytesFrom 0 r
    | _ => bytesFrom 0 s

/-- A place in a document: characters before it, line and column, all from zero. -/
structure Mark where
  /-- Characters before the place. -/
  index : Nat := 0
  /-- The line. -/
  line : Nat := 0
  /-- The column. -/
  column : Nat := 0
deriving DecidableEq, Repr

/-- What is left of a document, and where it starts. -/
structure Input where
  /-- The characters that are left. -/
  rest : List Char
  /-- The place of the first of them. -/
  mark : Mark := {}

/-- A line break; the line and paragraph separators are such, too. -/
def isBreak (c : Char) : Bool :=
  c == '\n' || c == Char.ofNat 0x2028 || c == Char.ofNat 0x2029

/-- A blank or a tabulator. -/
def isBlank (c : Char) : Bool :=
  c == ' ' || c == '\t'

/-- A character of a name: a letter, a digit, `_` or `-`. -/
def isNameChar (c : Char) : Bool :=
  c.isAlphanum || c == '_' || c == '-'

/-- Does the text start with a blank, a break, or end here? -/
def endsWord : List Char → Bool
  | [] => true
  | c :: _ => isBlank c || isBreak c

/-- Does the line end here? -/
def endsLine : List Char → Bool
  | [] => true
  | c :: _ => isBreak c

/-- The place after a character. -/
def Mark.after (m : Mark) (c : Char) : Mark :=
  if isBreak c then ⟨m.index + 1, m.line + 1, 0⟩ else ⟨m.index + 1, m.line, m.column + 1⟩

namespace Input

/-- The input without its first `n` characters. -/
def skip : Nat → Input → Input
  | 0, i => i
  | n + 1, i =>
    match i.rest with
    | [] => i
    | c :: r => skip n ⟨r, i.mark.after c⟩

/-- The characters in front that satisfy `p`, and the input after them. -/
def takeWhile (p : Char → Bool) (i : Input) : List Char × Input :=
  let taken := i.rest.takeWhile p
  (taken, i.skip taken.length)

/-- The input without the characters in front that satisfy `p`. -/
def dropWhile (p : Char → Bool) (i : Input) : Input :=
  (i.takeWhile p).2

/-- The input from the end of the line on. -/
def dropLine (i : Input) : Input :=
  i.dropWhile (!isBreak ·)

/-- Is there a document mark, three times `c`, at the start of a line? -/
def atMark (c : Char) (i : Input) : Bool :=
  i.mark.column == 0 && i.rest.take 3 == [c, c, c] && endsWord (i.rest.drop 3)

/-- Is there any document mark here? -/
def atDocumentMark (i : Input) : Bool :=
  i.atMark '-' || i.atMark '.'

end Input

/-- An error of the scanner: the line of the context, or else the line of the fault, is named unless
it is the first. -/
def scanError (context place : Mark) (f : Fault) : Error :=
  let line := if context.line ≠ 0 then context.line else place.line
  .fault (if line = 0 then 0 else line + 1) f

/-- An error of the grammar: the line before the context, or else before the fault, is named. -/
def grammarError (context place : Mark) (f : Fault) : Error :=
  .fault (if context.line ≠ 0 then context.line else place.line) f

end NovelScript.Yaml
