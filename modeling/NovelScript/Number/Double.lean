/-!
# Doubles

Binary floating-point numbers of 53 bits as exact values. A finite double is `± mantissa · 2 ^
exponent`, and arithmetic is done on the exact values and then rounded to the nearest double, ties
to the even mantissa. Nothing here computes with machine floats, so every value can be looked into.
-/

namespace NovelScript

/-- A double: not a number, an infinity, or a finite value with a sign. -/
inductive Double where
  /-- Not a number. -/
  | nan
  /-- An infinity. -/
  | infinite (negative : Bool)
  /-- The value `± mantissa · 2 ^ exponent`. -/
  | finite (negative : Bool) (mantissa : Nat) (exponent : Int)
deriving DecidableEq, Repr

/-- Two to the power of `n`. -/
def pow2 (n : Nat) : Nat := Nat.pow 2 n

/-- Ten to the power of `n`. -/
def pow10 (n : Nat) : Nat := Nat.pow 10 n

/-- The quotient rounded to the nearest natural number, a tie to the even one. -/
def divEven (n d : Nat) : Nat :=
  let m := n / d
  let r := n % d
  if d < 2 * r ∨ (2 * r = d ∧ m % 2 = 1) then m + 1 else m

/-- Numerator and denominator of `num / den / 2 ^ q`. -/
def overPower (num den : Nat) (q : Int) : Nat × Nat :=
  (num * pow2 (-q).toNat, den * pow2 q.toNat)

namespace Double

/-- The least exponent of a finite double. -/
def minExponent : Int := -1074

/-- The greatest exponent of a finite double. -/
def maxExponent : Int := 971

/-- Zero. -/
def zero : Double := .finite false 0 minExponent

/-- The double nearest to `± num / den`. -/
def round (negative : Bool) (num den : Nat) : Double :=
  if num = 0 then .finite negative 0 minExponent
  else
    let guess : Int := max minExponent ((num.log2 : Int) - den.log2 - 53)
    let (n, d) := overPower num den guess
    let q := if n / d < pow2 53 then guess else guess + 1
    let (n, d) := overPower num den q
    let m := divEven n d
    let (m, q) := if m = pow2 53 then (pow2 52, q + 1) else (m, q)
    if maxExponent < q then .infinite negative else .finite negative m q

/-- The double nearest to `± digits · 10 ^ exponent`. -/
def ofDecimal (negative : Bool) (digits : Nat) (exponent : Int) : Double :=
  if digits = 0 then .finite negative 0 minExponent
  else if 400 < exponent then .infinite negative
  else if exponent + (digits.log2 / 3 + 1 : Nat) < -330 then .finite negative 0 minExponent
  else round negative (digits * pow10 exponent.toNat) (pow10 (-exponent).toNat)

/-- The double nearest to an integer. -/
def ofInt (n : Int) : Double :=
  round (n < 0) n.natAbs 1

/-- A finite value over a power of two: the signed numerator and the exponent of the denominator. -/
def ratio? : Double → Option (Int × Nat)
  | .finite negative m q =>
    let n : Int := m * pow2 q.toNat
    some (if negative then -n else n, (-q).toNat)
  | _ => none

/-- Is the sign a minus? -/
def isNegative : Double → Bool
  | .nan => false
  | .infinite n => n
  | .finite n _ _ => n

/-- The value with the other sign. -/
def neg : Double → Double
  | .nan => .nan
  | .infinite n => .infinite !n
  | .finite n m q => .finite (!n) m q

/-- The rounded sum. -/
def add (x y : Double) : Double :=
  match x.ratio?, y.ratio? with
  | some (a, i), some (b, j) =>
    let n := a * pow2 j + b * pow2 i
    if n = 0 then .finite (x.isNegative && y.isNegative) 0 minExponent
    else round (n < 0) n.natAbs (pow2 (i + j))
  | some _, none => y
  | none, some _ => x
  | none, none => if x = y then x else .nan

/-- The rounded difference. -/
def sub (x y : Double) : Double :=
  add x y.neg

/-- The rounded product. -/
def mul (x y : Double) : Double :=
  let negative := x.isNegative != y.isNegative
  match x.ratio?, y.ratio? with
  | some (a, i), some (b, j) => round negative (a.natAbs * b.natAbs) (pow2 (i + j))
  | some (a, _), none => if a = 0 ∨ y = .nan then .nan else .infinite negative
  | none, some (b, _) => if b = 0 ∨ x = .nan then .nan else .infinite negative
  | none, none => if x = .nan ∨ y = .nan then .nan else .infinite negative

/-- The rounded quotient. -/
def div (x y : Double) : Double :=
  let negative := x.isNegative != y.isNegative
  match x.ratio?, y.ratio? with
  | some (a, i), some (b, j) =>
    if b = 0 then if a = 0 then .nan else .infinite negative
    else round negative (a.natAbs * pow2 j) (b.natAbs * pow2 i)
  | some _, none => if y = .nan then .nan else .finite negative 0 minExponent
  | none, some _ => if x = .nan then .nan else .infinite negative
  | none, none => .nan

/-- Is `x` less than `y`? Nothing is less or greater than what is not a number. -/
def lt (x y : Double) : Bool :=
  match x.ratio?, y.ratio? with
  | some (a, i), some (b, j) => a * pow2 j < b * pow2 i
  | some _, none => y = .infinite false
  | none, some _ => x = .infinite true
  | none, none => x = .infinite true && y = .infinite false

/-- Is `x` less than or equal to `y`? -/
def le (x y : Double) : Bool :=
  match x.ratio?, y.ratio? with
  | some (a, i), some (b, j) => a * pow2 j ≤ b * pow2 i
  | none, none => x = y && x != .nan || lt x y
  | _, _ => lt x y

/-- The integer part, toward zero; what is not finite has none. -/
def trunc? (x : Double) : Option Int :=
  x.ratio?.map fun (n, k) => n.tdiv (pow2 k)

end Double

end NovelScript
