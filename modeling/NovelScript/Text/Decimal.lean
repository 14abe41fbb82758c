import NovelScript.Text.Quoted

/-!
# Decimal numbers

Integers in base ten. Reading is for 64-bit numbers and tells apart a text that is no number from
one whose number does not fit.
-/

namespace NovelScript.Text

/-- A natural number in base ten. -/
def ofNat (n : Nat) : Text :=
  lit (toString n)

/-- An integer in base ten. -/
def ofInt (n : Int) : Text :=
  if n < 0 then lit "-" ++ ofNat n.natAbs else ofNat n.natAbs

/-- The value of decimal digits; `none` when there are none or another byte is among them. -/
def digits? (s : Text) : Option Nat :=
  if s.isEmpty || !s.all isDigit then none
  else some (s.foldl (fun n b => 10 * n + (b.toNat - 0x30)) 0)

/-- Why a text is not a 64-bit number. -/
inductive NumberError where
  /-- It is not written as a number. -/
  | malformed
  /-- The number does not fit. -/
  | outOfRange
deriving DecidableEq, Repr

/-- The least 64-bit integer. -/
def minInt64 : Int := -9223372036854775808

/-- The greatest 64-bit integer. -/
def maxInt64 : Int := 9223372036854775807

/-- Does the integer fit into 64 bits with sign? -/
def fitsInt64 (n : Int) : Bool :=
  minInt64 ≤ n && n ≤ maxInt64

/-- The integer that is left of `n` in 64-bit arithmetic. -/
def wrapInt64 (n : Int) : Int :=
  n.bmod 18446744073709551616

/-- A sign, if there is one, and what follows it. -/
def signed (s : Text) : Bool × Text :=
  match s with
  | 0x2D :: r => (true, r)
  | 0x2B :: r => (false, r)
  | _ => (false, s)

/-- The value of a byte as a digit: the decimal digits, then the letters. -/
def digitValue? (b : UInt8) : Option Nat :=
  if isDigit b then some (b.toNat - 0x30)
  else if isLetter b then some ((lowerByte b).toNat - 0x57)
  else none

/-- The number whose first digits are `n` and whose further digits of a base follow, with
underscores between them if they are `grouped`. It must fit into 64 bits. -/
def numberFrom (base : Nat) (grouped : Bool) (n : Nat) : Text → Except NumberError Nat
  | [] => .ok n
  | b :: r =>
    if grouped && b == 0x5F then numberFrom base grouped n r
    else
      match digitValue? b with
      | none => .error .malformed
      | some d =>
        if base ≤ d then .error .malformed
        else if 18446744073709551615 < base * n + d then .error .outOfRange
        else numberFrom base grouped (base * n + d) r

/-- A number with its sign, if it fits into 64 bits with sign. -/
def withSign (negative : Bool) (n : Nat) : Except NumberError Int :=
  let value : Int := if negative then -(n : Int) else n
  if fitsInt64 value then .ok value else .error .outOfRange

/-- The 64-bit integer written in base ten, with an optional sign. -/
def int64? (s : Text) : Except NumberError Int :=
  let (negative, digits) := signed s
  if digits.isEmpty then .error .malformed
  else do withSign negative (← numberFrom 10 false 0 digits)

/-- The base that the start of a number tells, what follows the start, and whether that start counts
as a digit. A zero alone tells base eight. -/
def baseOf (s : Text) : Nat × Text × Bool :=
  match s with
  | 0x30 :: r =>
    match r with
    | x :: d :: more =>
      if lowerByte x = 0x62 then (2, d :: more, true)
      else if lowerByte x = 0x6F then (8, d :: more, true)
      else if lowerByte x = 0x78 then (16, d :: more, true)
      else (8, r, true)
    | _ => (8, r, true)
  | _ => (10, s, false)

/-- Does every underscore stand right between two digits? -/
def wellGrouped : (afterDigit : Bool) → Text → Bool
  | _, [] => true
  | afterDigit, b :: r =>
    if b = 0x5F then afterDigit && r.head?.any (· != 0x5F) && wellGrouped false r
    else wellGrouped true r

/-- The 64-bit integer written in the base that its start tells, with an optional sign and with
underscores between digits. -/
def literal64? (s : Text) : Except NumberError Int :=
  let (negative, r) := signed s
  if r.isEmpty then .error .malformed
  else
    let (base, digits, afterDigit) := baseOf r
    do
      let n ← numberFrom base true 0 digits
      if wellGrouped afterDigit digits then withSign negative n else .error .malformed

/-- What is said about a text that is not the 64-bit number it should be. -/
def NumberError.message (e : NumberError) (function : String) (s : Text) : Text :=
  lit function ++ lit ": parsing " ++ quoted s ++ lit ": " ++
    match e with
    | .malformed => lit "invalid syntax"
    | .outOfRange => lit "value out of range"

end NovelScript.Text
