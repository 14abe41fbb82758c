import NovelScript.Number.Double
import NovelScript.Text.Decimal

/-!
# Decimal forms of doubles

Two ways to write a double in base ten: with a fixed number of places, and with the fewest digits
that read back as the same double. The digits are found by exact arithmetic; the layouts are the
positional one and the one with an exponent.
-/

namespace NovelScript

/-- A decimal number `digits · 10 ^ exponent`. -/
structure Decimal where
  /-- The digits as one number. -/
  digits : Nat
  /-- The power of ten. -/
  exponent : Int
deriving DecidableEq, Repr

namespace Decimal

/-- The digits of a natural number, at least `width` of them. -/
def padded (width n : Nat) : Text :=
  let s := Text.ofNat n
  List.replicate (width - s.length) 0x30 ++ s

/-- A decimal written out with `places` digits after the point. -/
def withPlaces (n places : Nat) : Text :=
  if places = 0 then Text.ofNat n
  else Text.ofNat (n / pow10 places) ++ Text.lit "." ++ padded places (n % pow10 places)

/-- A decimal without an exponent. -/
def positional (d : Decimal) : Text :=
  if 0 ≤ d.exponent then Text.ofNat (d.digits * pow10 d.exponent.toNat)
  else withPlaces d.digits (-d.exponent).toNat

/-- A decimal with one digit before the point and a signed exponent of at least `width` digits. -/
def scientific (width : Nat) (d : Decimal) : Text :=
  let s := Text.ofNat d.digits
  let e : Int := d.exponent + s.length - 1
  s.take 1 ++ (if s.length ≤ 1 then [] else Text.lit "." ++ s.drop 1) ++ Text.lit "e" ++
    Text.lit (if e < 0 then "-" else "+") ++ padded width e.natAbs

end Decimal

namespace Double

/-- How `a · 10 ^ i` compares with `n · 2 ^ j`. -/
def compareScaled (a : Nat) (i : Int) (n : Nat) (j : Int) : Ordering :=
  compare (a * pow10 i.toNat * pow2 (-j).toNat) (n * pow2 j.toNat * pow10 (-i).toNat)

/-- Is `d` among the numbers that round to `m · 2 ^ q`? They reach half way to the neighbours, and
below a power of two the neighbour is half as far. The ends belong to an even mantissa. -/
def readsBack (m : Nat) (q : Int) (d : Decimal) : Bool :=
  let narrow := m == pow2 52 && minExponent < q
  let low := if narrow then 4 * m - 1 else 4 * m - 2
  let below := compareScaled d.digits d.exponent low (q - 2)
  let above := compareScaled d.digits d.exponent (4 * m + 2) (q - 2)
  let ends := m % 2 == 0
  (below == .gt || (ends && below == .eq)) && (above == .lt || (ends && above == .eq))

/-- The least `k` with `m · 2 ^ q < 10 ^ k`. -/
def magnitude (m : Nat) (q : Int) : Int :=
  let guess := ((m.log2 + q) * 30103).fdiv 100000
  let fits (k : Int) : Bool := compareScaled 1 k m q == .gt
  if fits (guess - 1) then guess - 1
  else if fits guess then guess
  else if fits (guess + 1) then guess + 1
  else guess + 2

/-- The neighbour of `m · 2 ^ q` on the grid of `10 ^ e` that reads back; the nearer one of two. -/
def onGrid? (m : Nat) (q : Int) (e : Int) : Option Decimal :=
  let num := m * pow2 q.toNat * pow10 (-e).toNat
  let den := pow2 (-q).toNat * pow10 e.toNat
  let low := num / den
  let nearLow := 2 * (num % den) < den || (2 * (num % den) == den && low % 2 == 0)
  let candidates := if nearLow then [low, low + 1] else [low + 1, low]
  (candidates.map fun n => (⟨n, e⟩ : Decimal)).find? (readsBack m q)

/-- The decimal without zeros at its end. -/
def strip : (fuel : Nat) → Decimal → Decimal
  | 0, d => d
  | fuel + 1, d =>
    if d.digits % 10 = 0 ∧ d.digits ≠ 0 then strip fuel ⟨d.digits / 10, d.exponent + 1⟩ else d

/-- The fewest digits that read back as the positive double `m · 2 ^ q`; seventeen always do. -/
def shortest (m : Nat) (q : Int) : Decimal :=
  let k := magnitude m q
  let grids := (List.range 17).map fun (n : Nat) => k - 1 - (n : Int)
  strip 400 ((grids.findSome? (onGrid? m q)).getD
    ⟨m * pow2 q.toNat * Nat.pow 5 (-q).toNat, -((-q).toNat : Int)⟩)

/-- The texts of values that are not finite. -/
def special (x : Double) : Text :=
  match x with
  | .infinite true => Text.lit "-Inf"
  | .infinite false => Text.lit "+Inf"
  | _ => Text.lit "NaN"

/-- A double with a fixed number of places, the exact value rounded, ties to even. -/
def fixed (places : Nat) (x : Double) : Text :=
  match x with
  | .finite negative m q =>
    let n := divEven (m * pow2 q.toNat * pow10 places) (pow2 (-q).toNat)
    (if negative then Text.lit "-" else []) ++ Decimal.withPlaces n places
  | _ => special x

/-- The fewest digits, laid out by `layout`. -/
def written (layout : Decimal → Text) (x : Double) : Text :=
  match x with
  | .finite negative m q =>
    (if negative then Text.lit "-" else []) ++
      if m = 0 then layout ⟨0, 0⟩ else layout (shortest m q)
  | _ => special x

/-- The fewest digits, never with an exponent. -/
def plain (x : Double) : Text :=
  written Decimal.positional x

end Double

end NovelScript
