import NovelScript.Markdown.Entity
import NovelScript.Text.Punctuation
import NovelScript.Text.Utf8

/-!
# Character references and escapes

Running text may name characters by number (`&#35;`, `&#x23;`), by name (`&num;`) or behind a
backslash. The three are resolved one after the other over the whole line, so that what one yields
is read again by the next: `&amp;lt;` becomes a less-than sign.
-/

namespace NovelScript.Markdown

/-! ## By number -/

/-- The value of digits in a base. -/
def valueIn (base : Nat) (s : Text) : Nat :=
  s.foldl (fun n b => match Text.hexDigit? (Char.ofNat b.toNat) with
    | some d => base * n + d
    | none => n) 0

/-- The character with a number; the replacement character stands for zero, surrogates and numbers
that are too great. -/
def numbered (n : Nat) : Text :=
  if n = 0 ∨ ¬n.isValidChar then Text.encodeChar Text.replacement
  else Text.encodeChar (Char.ofNat n)

/-- A decimal reference's number. A leading zero makes it octal, and a number that is not octal
then counts as zero. -/
def decimalReference (s : Text) : Nat :=
  match s with
  | 0x30 :: d :: r => if (d :: r).all fun b => 0x30 ≤ b && b ≤ 0x37 then valueIn 8 (d :: r) else 0
  | s => valueIn 10 s

/-- The reference by number behind an ampersand and a hash sign: its text and its length. -/
def numberReference? (s : Text) : Option (Text × Nat) :=
  match s with
  | [] => none
  | c :: r =>
    if c = 0x78 || c = 0x58 then
      let digits := r.takeWhile Text.isHexDigit
      if !digits.isEmpty && (r.drop digits.length).head? == some 0x3B then
        some (numbered (valueIn 16 digits), digits.length + 2)
      else none
    else
      let digits := s.takeWhile Text.isDigit
      if !digits.isEmpty && digits.length < 8 && (s.drop digits.length).head? == some 0x3B then
        some (numbered (decimalReference digits), digits.length + 1)
      else none

/-- References by number resolved, after `skip` bytes of a resolved one. -/
def numbersFrom : (skip : Nat) → Text → Text
  | _, [] => []
  | skip + 1, _ :: r => numbersFrom skip r
  | 0, b :: r =>
    match b, r with
    | 0x26, 0x23 :: more =>
      match numberReference? more with
      | some (t, n) => t ++ numbersFrom (n + 1) r
      | none => b :: numbersFrom 0 r
    | _, _ => b :: numbersFrom 0 r

/-! ## By name -/

/-- The reference by name behind an ampersand: its text and its length. -/
def nameReference? (s : Text) : Option (Text × Nat) :=
  let name := s.takeWhile Text.isAlphanumeric
  if !name.isEmpty && (s.drop name.length).head? == some 0x3B then
    (entity? name).map (·, name.length + 1)
  else none

/-- References by name resolved, after `skip` bytes of a resolved one. -/
def namesFrom : (skip : Nat) → Text → Text
  | _, [] => []
  | skip + 1, _ :: r => namesFrom skip r
  | 0, b :: r =>
    if b = 0x26 then
      match nameReference? r with
      | some (t, n) => t ++ namesFrom n r
      | none => b :: namesFrom 0 r
    else b :: namesFrom 0 r

/-! ## Escapes -/

/-- Punctuation behind a backslash stands for itself. -/
def unescaped : Text → Text
  | [] => []
  | [b] => [b]
  | b :: c :: r =>
    if b = 0x5C && Text.isPunct c then c :: unescaped r else b :: unescaped (c :: r)

/-- A line of running text as the reader sees it. -/
def plain (s : Text) : Text :=
  unescaped (namesFrom 0 (numbersFrom 0 s))

end NovelScript.Markdown
