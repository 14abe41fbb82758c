import NovelScript.Text.Basic

/-!
# Characters of a text

Reading bytes as UTF-8. Reading never fails: a byte that starts no well-formed character counts as
one replacement character of width one. Overlong forms, surrogates and values above U+10FFFF are
not well formed.
-/

namespace NovelScript.Text

/-- The replacement character, U+FFFD. -/
def replacement : Char := Char.ofNat 0xFFFD

/-- A byte that can only stand inside a character. -/
def isContinuation (b : UInt8) : Bool :=
  0x80 ≤ b && b ≤ 0xBF

/-- The value of a character written with a lead byte and continuation bytes: `lead` is the payload
of the lead byte. -/
def payload (lead : Nat) (rest : Text) : Nat :=
  rest.foldl (fun n b => 64 * n + (b.toNat - 0x80)) lead

/-- The first character of a text that starts with `b`, with the number of its bytes; `none` when
the text starts with no well-formed character. -/
def wellFormed? (b : UInt8) (rest : Text) : Option (Char × Nat) :=
  if b < 0x80 then some (Char.ofNat b.toNat, 1)
  else if 0xC2 ≤ b && b ≤ 0xDF then
    match rest with
    | c :: _ => if isContinuation c then some (Char.ofNat (payload (b.toNat - 0xC0) [c]), 2) else none
    | _ => none
  else if 0xE0 ≤ b && b ≤ 0xEF then
    match rest with
    | c :: d :: _ =>
      if isContinuation c && isContinuation d && !(b == 0xE0 && c < 0xA0) && !(b == 0xED && 0xA0 ≤ c)
      then some (Char.ofNat (payload (b.toNat - 0xE0) [c, d]), 3) else none
    | _ => none
  else if 0xF0 ≤ b && b ≤ 0xF4 then
    match rest with
    | c :: d :: e :: _ =>
      if isContinuation c && isContinuation d && isContinuation e && !(b == 0xF0 && c < 0x90) &&
          !(b == 0xF4 && 0x90 ≤ c)
      then some (Char.ofNat (payload (b.toNat - 0xF0) [c, d, e]), 4) else none
    | _ => none
  else none

/-- The first character of a non-empty text and its width in bytes. -/
def firstChar (b : UInt8) (rest : Text) : Char × Nat :=
  (wellFormed? b rest).getD (replacement, 1)

/-- The characters with their widths, after `skip` bytes that belong to a character before. -/
def charsFrom : (skip : Nat) → Text → List (Char × Nat)
  | _, [] => []
  | skip + 1, _ :: r => charsFrom skip r
  | 0, b :: r => firstChar b r :: charsFrom ((firstChar b r).2 - 1) r

/-- The characters of a text with their widths in bytes. -/
def chars (s : Text) : List (Char × Nat) :=
  charsFrom 0 s

/-- The characters of a text. -/
def decode (s : Text) : List Char :=
  (chars s).map (·.1)

/-- Is every byte of the text, after `skip` bytes, part of a well-formed character? -/
def validFrom : (skip : Nat) → Text → Bool
  | _, [] => true
  | skip + 1, _ :: r => validFrom skip r
  | 0, b :: r =>
    match wellFormed? b r with
    | some (_, width) => validFrom (width - 1) r
    | none => false

/-- Is the text well-formed UTF-8? -/
def isValid (s : Text) : Bool :=
  validFrom 0 s

/-- The text as a string, when it is well formed. -/
def toString? (s : Text) : Option String :=
  if isValid s then some (String.ofList (decode s)) else none

/-- The text as a string for display, with replacement characters where it is not well formed. -/
def display (s : Text) : String :=
  String.ofList (decode s)

end NovelScript.Text
