import NovelScript.Number.Digits

/-!
# Sizes and ages for people

How much room something takes and how long ago it was, in words. A size has the largest unit that
it reaches, with one place after the point while it is below ten. An age has the largest unit that
it reaches, without a rest.
-/

namespace NovelScript

/-! ## Sizes -/

/-- The units of sizes, each a thousand of the one before. -/
def sizeUnits : List String :=
  ["B", "kB", "MB", "GB", "TB", "PB", "EB"]

/-- The number of the largest unit that `n` reaches, and that unit in bytes. -/
def sizeUnit (n : Nat) : List Nat → Nat × Nat
  | [] => (0, 1)
  | k :: more => if 1000 ^ k ≤ n then (k, 1000 ^ k) else sizeUnit n more

/-- The number of units, to a tenth: a half goes up. -/
def sizeValue (n unit : Nat) : Double :=
  let ten := Double.ofInt 10
  let tenths := ((((Double.ofInt n).div (Double.ofInt unit)).mul ten).add
    (Double.ofDecimal false 5 (-1))).trunc?.getD 0
  (Double.ofInt tenths).div ten

/-- A size in bytes. -/
def sizeText (n : Nat) : Text :=
  if n < 10 then Text.ofNat n ++ Text.lit " B"
  else
    let (k, unit) := sizeUnit n [6, 5, 4, 3, 2, 1]
    let value := sizeValue n unit
    value.fixed (if value.lt (Double.ofInt 10) then 1 else 0) ++
      Text.lit " " ++ Text.lit (sizeUnits.getD k "B")

/-! ## Ages -/

/-- A range of ages: where it ends, in seconds, the unit, and the name of the unit. An age in a
range without a unit is said in one way. -/
structure AgeRange where
  /-- The first age behind the range. -/
  bound : Nat
  /-- The unit, in seconds. -/
  unit : Nat
  /-- What follows the number. -/
  name : String

/-- The ranges. A month has thirty days and a year twelve months. -/
def ageRanges : List AgeRange :=
  let day := 86400
  let week := 7 * day
  let month := 30 * day
  let year := 12 * month
  [⟨2, 0, "1 second"⟩, ⟨60, 1, " seconds"⟩, ⟨120, 0, "1 minute"⟩, ⟨3600, 60, " minutes"⟩,
    ⟨7200, 0, "1 hour"⟩, ⟨day, 3600, " hours"⟩, ⟨2 * day, 0, "1 day"⟩, ⟨week, day, " days"⟩,
    ⟨2 * week, 0, "1 week"⟩, ⟨month, week, " weeks"⟩, ⟨2 * month, 0, "1 month"⟩,
    ⟨year, month, " months"⟩, ⟨18 * month, 0, "1 year"⟩, ⟨2 * year, 0, "2 years"⟩,
    ⟨37 * year, year, " years"⟩]

/-- The age in the first of the ranges that it is in. -/
def ageIn (seconds : Nat) : List AgeRange → Text
  | [] => Text.lit "a long while"
  | r :: more =>
    if seconds < r.bound then
      (if r.unit = 0 then [] else Text.ofNat (seconds / r.unit)) ++ Text.lit r.name
    else ageIn seconds more

/-- How long before `now` something was, both in seconds. -/
def ageText (now time : Int) : Text :=
  let seconds := (now - time).natAbs
  if seconds = 0 then Text.lit "now"
  else
    ageIn seconds ageRanges ++ Text.lit (if now < time then " from now" else " ago")

end NovelScript
