import NovelScript.Text.Utf8

/-!
# The code page of the type

The type has one byte per character: ASCII, the Latin letters of Western Europe with the same
numbers as everywhere, and between them thirty-two places with signs from elsewhere, five of which
are empty. What has no place is shown as a point.
-/

namespace NovelScript.Sheet

/-- The characters of the places 0x80 to 0x9F; zero where a place is empty. -/
def signs : List Nat :=
  [0x20AC, 0, 0x201A, 0x0192, 0x201E, 0x2026, 0x2020, 0x2021, 0x02C6, 0x2030, 0x0160, 0x2039, 0x0152,
    0, 0x017D, 0, 0, 0x2018, 0x2019, 0x201C, 0x201D, 0x2022, 0x2013, 0x2014, 0x02DC, 0x2122, 0x0161,
    0x203A, 0x0153, 0, 0x017E, 0x0178]

/-- The byte of a character. -/
def codeByte (c : Char) : UInt8 :=
  let n := c.toNat
  if n < 0x80 ∨ (0xA0 ≤ n ∧ n ≤ 0xFF) then n.toUInt8
  else
    match signs.idxOf? n with
    | some i => (0x80 + i).toUInt8
    | none => 0x2E

/-- The text in the code page. -/
def coded (s : Text) : List UInt8 :=
  (Text.decode s).map codeByte

end NovelScript.Sheet
