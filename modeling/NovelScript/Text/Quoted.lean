import NovelScript.Text.Graphic
import NovelScript.Text.Utf8

/-!
# Quoted literals

A text as a literal in double quotes with everything escaped that is not graphic. Unlike the string
literals of a script, this form keeps every byte apart: a byte that belongs to no character is
written `\xNN`, so two different texts never have the same literal.
-/

namespace NovelScript.Text

/-- The digit of base sixteen, in lower case. -/
def hexChar (n : Nat) : UInt8 :=
  if n < 10 then (0x30 + n).toUInt8 else (0x57 + n).toUInt8

/-- The last `width` digits of `n` in base sixteen. -/
def hexPadded : (width : Nat) → Nat → Text
  | 0, _ => []
  | width + 1, n => hexPadded width (n / 16) ++ [hexChar (n % 16)]

/-- A graphic character stays; the others have a short escape or a numeric one. -/
def escapeChar (c : Char) : Text :=
  if c = '"' then lit "\\\""
  else if c = '\\' then lit "\\\\"
  else if isGraphic c then encodeChar c
  else if c = '\x07' then lit "\\a"
  else if c = '\x08' then lit "\\b"
  else if c = '\x0c' then lit "\\f"
  else if c = '\n' then lit "\\n"
  else if c = '\r' then lit "\\r"
  else if c = '\t' then lit "\\t"
  else if c = '\x0b' then lit "\\v"
  else if c.toNat < 0x20 ∨ c.toNat = 0x7F then lit "\\x" ++ hexPadded 2 c.toNat
  else if c.toNat < 0x10000 then lit "\\u" ++ hexPadded 4 c.toNat
  else lit "\\U" ++ hexPadded 8 c.toNat

/-- The escaped characters of a text after `skip` bytes. -/
def escapeFrom : (skip : Nat) → Text → Text
  | _, [] => []
  | skip + 1, _ :: r => escapeFrom skip r
  | 0, b :: r =>
    match wellFormed? b r with
    | some (c, width) => escapeChar c ++ escapeFrom (width - 1) r
    | none => lit "\\x" ++ hexPadded 2 b.toNat ++ escapeFrom 0 r

/-- The text as a quoted literal. -/
def quoted (s : Text) : Text :=
  lit "\"" ++ escapeFrom 0 s ++ lit "\""

end NovelScript.Text
