import NovelScript.Markdown.Line
import NovelScript.Text.Folding
import NovelScript.Text.Punctuation

/-!
# Scanning running text

Running text is scanned by position: it is kept as an array, and every function here goes from a
position to a later one. Links and the definitions they refer to share these scanners.
-/

namespace NovelScript.Markdown

/-- Running text for scanning. -/
abbrev Source := Array UInt8

namespace Source

/-- The byte at a position; zero behind the end. -/
def byteAt (s : Source) (i : Nat) : UInt8 :=
  s.getD i 0

/-- The text from one position to another. -/
def slice (s : Source) (i j : Nat) : Text :=
  (s.extract i j).toList

/-- The first position from `i` on whose byte is not in a class, or the end. -/
def skipWhile (s : Source) (p : UInt8 → Bool) (i : Nat) : Nat :=
  if h : i < s.size then
    if p s[i] then skipWhile s p (i + 1) else i
  else i
termination_by s.size - i

/-- The first position from `i` on without white space. -/
def skipSpaces (s : Source) (i : Nat) : Nat :=
  s.skipWhile isSpace i

/-- Where the line of `i` ends: behind its line break, or at the end of the text. -/
def lineEnd (s : Source) (i : Nat) : Nat :=
  let j := s.skipWhile (· != Text.newline) i
  if j < s.size then j + 1 else j

/-- How many lines end before a position. -/
def lineNumber (s : Source) (i : Nat) : Nat :=
  (s.slice 0 i).countP (· == Text.newline)

/-- Does an escaped character start at `i`? -/
def escapedAt (s : Source) (i : Nat) : Bool :=
  s.byteAt i = 0x5C && Text.isPunct (s.byteAt (i + 1))

/-- Looks for `closer` from `i` on, past escaped characters, and not past a second `opener`. Gives
the position of the closer or, when there is none, the start of the line on which the search
stopped; `line` is the start of the line of `i`. -/
def findClosure (s : Source) (opener closer : UInt8) (line i : Nat) : Except Nat Nat :=
  if h : i < s.size then
    if s.escapedAt i then findClosure s opener closer line (i + 2)
    else if s[i] = closer then .ok i
    else if s[i] = opener then .error line
    else findClosure s opener closer (if s[i] = Text.newline then i + 1 else line) (i + 1)
  else .error s.size
termination_by s.size - i

/-- The end of a destination in angle brackets, scanned from `i`: behind the closing bracket on the
same line. -/
def bracketedEnd? (s : Source) (i : Nat) : Option Nat :=
  if h : i < s.size then
    if s.escapedAt i then bracketedEnd? s (i + 2)
    else if s[i] = 0x3E then some (i + 1)
    else if s[i] = Text.newline then none
    else bracketedEnd? s (i + 1)
  else none
termination_by s.size - i

/-- The end of a bare destination: white space or a parenthesis that closes more than was opened. -/
def bareEnd (s : Source) (opened i : Nat) : Nat :=
  if h : i < s.size then
    if s.escapedAt i then bareEnd s opened (i + 2)
    else if s[i] = 0x28 then bareEnd s (opened + 1) (i + 1)
    else if s[i] = 0x29 then
      match opened with
      | 0 => i
      | k + 1 => bareEnd s k (i + 1)
    else if isSpace s[i] then i
    else bareEnd s opened (i + 1)
  else i
termination_by s.size - i

/-- The end of the destination of a link that starts at `i`. -/
def destinationEnd? (s : Source) (i : Nat) : Option Nat :=
  if i < s.size && s.byteAt i = 0x3C then s.bracketedEnd? (i + 1)
  else
    let j := s.bareEnd 0 i
    if i < j then some j else none

/-- The closer of a title that starts with this byte. -/
def titleCloser? (b : UInt8) : Option UInt8 :=
  if b = 0x22 || b = 0x27 then some b else if b = 0x28 then some 0x29 else none

end Source

/-! ## Labels -/

/-- A label with its letters folded. -/
def foldFrom : (skip : Nat) → Text → Text
  | _, [] => []
  | skip + 1, _ :: r => foldFrom skip r
  | 0, b :: r =>
    match Text.wellFormed? b r with
    | some (c, width) => Text.encode (Text.foldChar c) ++ foldFrom (width - 1) r
    | none => b :: foldFrom 0 r

/-- Runs of white space as single blanks. -/
def singleSpaced : Text → Text
  | [] => []
  | b :: r =>
    if isSpace b then
      match r with
      | c :: _ => if isSpace c then singleSpaced r else Text.blank :: singleSpaced r
      | [] => [Text.blank]
    else b :: singleSpaced r

/-- What two labels have in common when they name the same link. -/
def labelKey (label : Text) : Text :=
  singleSpaced (foldFrom 0 (trimEnd (trimStart label)))

end NovelScript.Markdown
