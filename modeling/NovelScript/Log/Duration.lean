import NovelScript.Number.Digits

/-!
# Durations

Lengths of time in nanoseconds, written with the largest units that are needed: hours, minutes and
seconds, or one small unit below a second. Zeros at the end of a fraction are left out.
-/

namespace NovelScript.Log

/-- `n` over `10 ^ places`, without zeros at the end of the fraction. -/
def withFraction (n places : Nat) : Text :=
  let fraction := (Decimal.padded places (n % pow10 places)).reverse.dropWhile (· == 0x30)
  Text.ofNat (n / pow10 places) ++
    if places = 0 ∨ fraction.isEmpty then [] else Text.lit "." ++ fraction.reverse

/-- A length of time in nanoseconds, without sign. -/
def lengthText (n : Nat) : Text :=
  if n = 0 then Text.lit "0s"
  else if n < 1000 then Text.ofNat n ++ Text.lit "ns"
  else if n < 1000000 then withFraction n 3 ++ Text.lit "µs"
  else if n < 1000000000 then withFraction n 6 ++ Text.lit "ms"
  else
    let minutes := n / 60000000000
    let hours := minutes / 60
    (if hours = 0 then [] else Text.ofNat hours ++ Text.lit "h") ++
      (if minutes = 0 then [] else Text.ofNat (minutes % 60) ++ Text.lit "m") ++
      withFraction (n % 60000000000) 9 ++ Text.lit "s"

/-- A length of time in nanoseconds. -/
def durationText (n : Int) : Text :=
  (if n < 0 then Text.lit "-" else []) ++ lengthText n.natAbs

end NovelScript.Log
