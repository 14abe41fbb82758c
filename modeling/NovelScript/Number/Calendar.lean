import NovelScript.Number.Digits

/-!
# Days and times

A time in seconds since the start of 1970 as a date and a time of day. Years that four divides have a
day more, unless a hundred divides them and four hundred does not. What a clock on the wall shows is
ahead of that by as much as its zone is then, and so it is put back when the zone changes.
-/

namespace NovelScript

/-- A date and a time of day. -/
structure DateTime where
  /-- The year. -/
  year : Nat
  /-- The month, from one on. -/
  month : Nat
  /-- The day of the month, from one on. -/
  day : Nat
  /-- The second of the day. -/
  second : Nat
deriving DecidableEq, Repr

namespace DateTime

/-- Has a year a day more? -/
def isLeap (year : Nat) : Bool :=
  year % 4 == 0 && (year % 100 != 0 || year % 400 == 0)

/-- The days of a year. -/
def yearDays (year : Nat) : Nat :=
  if isLeap year then 366 else 365

/-- The days of the months of a year. -/
def monthDays (year : Nat) : List Nat :=
  [31, if isLeap year then 29 else 28, 31, 30, 31, 30, 31, 31, 30, 31, 30, 31]

/-- The year in which the day `n` after the start of `year` lies, and its number in that year. -/
def yearOf : (fuel : Nat) → (year n : Nat) → Nat × Nat
  | 0, year, n => (year, n)
  | fuel + 1, year, n =>
    if n < yearDays year then (year, n) else yearOf fuel (year + 1) (n - yearDays year)

/-- The month in which the day `n` lies, and its number in that month, both from one on. -/
def monthOf : (month : Nat) → List Nat → (n : Nat) → Nat × Nat
  | month, [], n => (month, n + 1)
  | month, days :: more, n => if n < days then (month, n + 1) else monthOf (month + 1) more (n - days)

/-- The date and the time of day of a number of seconds since the start of 1970. -/
def ofSeconds (seconds : Nat) : DateTime :=
  let days := seconds / 86400
  let (year, n) := yearOf days 1970 days
  let (month, day) := monthOf 1 (monthDays year) n
  ⟨year, month, day, seconds % 86400⟩

/-- The date and the time of day on a clock that is some seconds ahead, or behind. -/
def onWall (seconds : Nat) (ahead : Int) : DateTime :=
  ofSeconds (seconds + ahead).toNat

/-- The date with something between its parts. -/
def dateText (t : DateTime) (between : String) : Text :=
  Text.join (Text.lit between)
    [Decimal.padded 4 t.year, Decimal.padded 2 t.month, Decimal.padded 2 t.day]

/-- The time of day with something between its parts. -/
def timeText (t : DateTime) (between : String) : Text :=
  Text.join (Text.lit between)
    [Decimal.padded 2 (t.second / 3600), Decimal.padded 2 (t.second / 60 % 60),
      Decimal.padded 2 (t.second % 60)]

/-- The date and the time in one word, so that later ones sort behind. -/
def stamp (t : DateTime) : Text :=
  t.dateText "" ++ Text.lit "-" ++ t.timeText ""

/-- A fraction of a second in nanoseconds, without the zeros at its end; nothing when it is zero. -/
def fractionText (nanoseconds : Nat) : Text :=
  let digits := ((Decimal.padded 9 nanoseconds).reverse.dropWhile (· == 0x30)).reverse
  if digits.isEmpty then [] else Text.lit "." ++ digits

/-- How far a clock is ahead or behind, in hours and minutes; a letter when it is neither. -/
def zoneText (ahead : Int) : Text :=
  if ahead = 0 then Text.lit "Z"
  else
    let minutes := ahead.tdiv 60
    Text.lit (if minutes < 0 then "-" else "+") ++ Text.join (Text.lit ":")
      [Decimal.padded 2 (minutes.natAbs / 60), Decimal.padded 2 (minutes.natAbs % 60)]

/-- The date and the time, with a fraction of a second behind it and how far the clock is ahead. -/
def full (t : DateTime) (fraction : Text) (ahead : Int) : Text :=
  t.dateText "-" ++ Text.lit "T" ++ t.timeText ":" ++ fraction ++ zoneText ahead

end DateTime

end NovelScript
