/-!
# Text as bytes

Documents, names and scripts are sequences of bytes: usually UTF-8, but nothing here refuses other
bytes, and cutting and joining never look at characters. This file holds the carrier, literals and
the cutting and joining that every other module uses. What needs characters is in `Text.Utf8`, what
needs white space in `Text.Space`.
-/

namespace NovelScript

/-- A text: its bytes in order. -/
abbrev Text := List UInt8

namespace Text

/-! ## Literals -/

/-- The bytes of one character in UTF-8. -/
def encodeChar (c : Char) : Text :=
  let n := c.toNat
  if n < 0x80 then [n.toUInt8]
  else if n < 0x800 then [(0xC0 + n / 64).toUInt8, (0x80 + n % 64).toUInt8]
  else if n < 0x10000 then
    [(0xE0 + n / 4096).toUInt8, (0x80 + n / 64 % 64).toUInt8, (0x80 + n % 64).toUInt8]
  else
    [(0xF0 + n / 262144).toUInt8, (0x80 + n / 4096 % 64).toUInt8, (0x80 + n / 64 % 64).toUInt8,
      (0x80 + n % 64).toUInt8]

/-- The text of a list of characters. -/
def encode (cs : List Char) : Text :=
  cs.flatMap encodeChar

/-- The text of a string literal. -/
def lit (s : String) : Text :=
  encode s.toList

/-- The byte of an ASCII character. -/
def byte (c : Char) : UInt8 :=
  c.toNat.toUInt8

/-- The byte that ends a line. -/
def newline : UInt8 := 0x0A

/-- The blank. -/
def blank : UInt8 := 0x20

/-- The tabulator. -/
def tab : UInt8 := 0x09

/-- The hash sign, which starts a comment. -/
def hash : UInt8 := 0x23

/-! ## Bytes of a class -/

/-- A decimal digit. -/
def isDigit (b : UInt8) : Bool :=
  0x30 ≤ b && b ≤ 0x39

/-- An ASCII letter. -/
def isLetter (b : UInt8) : Bool :=
  (0x41 ≤ b && b ≤ 0x5A) || (0x61 ≤ b && b ≤ 0x7A)

/-- An ASCII letter or a decimal digit. -/
def isAlphanumeric (b : UInt8) : Bool :=
  isLetter b || isDigit b

/-- A digit of base sixteen. -/
def isHexDigit (b : UInt8) : Bool :=
  isDigit b || (0x41 ≤ b && b ≤ 0x46) || (0x61 ≤ b && b ≤ 0x66)

/-- The lower-case byte of an ASCII capital; any other byte stays. -/
def lowerByte (b : UInt8) : UInt8 :=
  if 0x41 ≤ b && b ≤ 0x5A then b + 32 else b

/-- Equality up to the case of ASCII letters. -/
def eqIgnoringCase (s t : Text) : Bool :=
  s.map lowerByte == t.map lowerByte

/-! ## Cutting -/

/-- Does `s` start with `p`? -/
def startsWith (p s : Text) : Bool :=
  p.isPrefixOf s

/-- Does `s` end with `p`? -/
def endsWith (p s : Text) : Bool :=
  p.isSuffixOf s

/-- `s` without `p` at its end, or `s` when it does not end with `p`. -/
def dropEnd (p s : Text) : Text :=
  if endsWith p s then s.take (s.length - p.length) else s

/-- The parts of `s` before and after the first occurrence of `sep`. -/
def cut (sep : Text) : Text → Option (Text × Text)
  | [] => if startsWith sep [] then some ([], []) else none
  | b :: r =>
    if startsWith sep (b :: r) then some ([], (b :: r).drop sep.length)
    else (cut sep r).map fun (x, y) => (b :: x, y)

/-- Does `sep` occur in `s`? -/
def includes (sep s : Text) : Bool :=
  (cut sep s).isSome

/-- The pieces of `s` between occurrences of the byte `sep`; one more than there are of those. -/
def splitAt (sep : UInt8) : Text → List Text
  | [] => [[]]
  | b :: r =>
    match splitAt sep r with
    | [] => [[b]]
    | piece :: more => if b = sep then [] :: piece :: more else (b :: piece) :: more

/-- The pieces one after the other with `sep` between them. -/
def join (sep : Text) (pieces : List Text) : Text :=
  sep.intercalate pieces

/-- `s` with the first occurrence of `old` replaced. -/
def replaceFirst (old new s : Text) : Text :=
  match cut old s with
  | some (x, y) => x ++ new ++ y
  | none => s

/-- `n` copies of `s`. -/
def repeated (n : Nat) (s : Text) : Text :=
  (List.replicate n s).flatten

/-! ## Order -/

/-- The order by bytes, a shorter text before its extensions. -/
def le : Text → Text → Bool
  | [], _ => true
  | _ :: _, [] => false
  | a :: s, b :: t => a < b || (a == b && le s t)

/-- The texts in the order by bytes. -/
def sort (ts : List Text) : List Text :=
  ts.mergeSort le

end Text

end NovelScript
