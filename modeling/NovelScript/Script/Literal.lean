import NovelScript.Text.Basic

/-!
# String literals of a script

Spoken text stands in double quotes. A backslash, a quote and a line break inside it are escaped;
every other byte stands for itself.
-/

namespace NovelScript.Script

/-- One byte inside a literal. -/
def escapeByte (b : UInt8) : Text :=
  if b = 0x5C then [0x5C, 0x5C]
  else if b = 0x22 then [0x5C, 0x22]
  else if b = Text.newline then [0x5C, 0x6E]
  else [b]

/-- The text as a literal. -/
def literal (s : Text) : Text :=
  0x22 :: s.flatMap escapeByte ++ [0x22]

end NovelScript.Script
