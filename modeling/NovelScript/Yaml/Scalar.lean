import NovelScript.Number.Double
import NovelScript.Text.Base64
import NovelScript.Text.Decimal
import NovelScript.Yaml.Error

/-!
# What a scalar means

A scalar without a tag means a number, a truth value, a date or nothing when it is written like one,
and is text otherwise. A tag says what it has to be, and is wrong when it is not that.
-/

namespace NovelScript.Yaml

/-- The meaning of a scalar. -/
inductive Scalar where
  /-- Nothing. -/
  | null
  /-- A truth value. -/
  | bool (b : Bool)
  /-- An integer. -/
  | int (n : Int)
  /-- A number with a fraction. -/
  | float (x : Double)
  /-- A date, or a date and a time. -/
  | timestamp
  /-- Text. -/
  | text (t : Text)
deriving DecidableEq

namespace Scalar

/-- The tag of a kind of scalar. -/
def tag : Scalar → Text
  | null => Text.lit "!!null"
  | bool _ => Text.lit "!!bool"
  | int _ => Text.lit "!!int"
  | float _ => Text.lit "!!float"
  | timestamp => Text.lit "!!timestamp"
  | text _ => Text.lit "!!str"

/-- The tag of text. -/
def textTag : Text := Text.lit "!!str"

/-- The tag of bytes in base 64. -/
def binaryTag : Text := Text.lit "!!binary"

/-- The tag of the key that merges mappings. -/
def mergeTag : Text := Text.lit "!!merge"

/-- The tag of nothing. -/
def nullTag : Text := Text.lit "!!null"

/-- The words with a meaning of their own. -/
def words : List (String × Scalar) :=
  [("true", .bool true), ("True", .bool true), ("TRUE", .bool true),
    ("false", .bool false), ("False", .bool false), ("FALSE", .bool false),
    ("", .null), ("~", .null), ("null", .null), ("Null", .null), ("NULL", .null),
    (".nan", .float .nan), (".NaN", .float .nan), (".NAN", .float .nan),
    (".inf", .float (.infinite false)), (".Inf", .float (.infinite false)),
    (".INF", .float (.infinite false)),
    ("+.inf", .float (.infinite false)), ("+.Inf", .float (.infinite false)),
    ("+.INF", .float (.infinite false)),
    ("-.inf", .float (.infinite true)), ("-.Inf", .float (.infinite true)),
    ("-.INF", .float (.infinite true))]

/-- The meaning of a word that has one. -/
def word? (s : Text) : Option Scalar :=
  (words.find? fun w => Text.lit w.1 == s).map (·.2)

/-! ## Numbers -/

/-- The value of a digit in a base of at most sixteen. -/
def digitIn? (base : Nat) (b : UInt8) : Option Nat :=
  let n := if Text.isDigit b then b.toNat - 0x30 else (Text.lowerByte b).toNat - 0x61 + 10
  if Text.isHexDigit b && n < base then some n else none

/-- The number written in digits of a base. -/
def natIn? (base : Nat) (s : Text) : Option Nat :=
  s.foldlM (fun n b => (digitIn? base b).map (base * n + ·)) 0

/-- The number written in digits of a base; there must be one. -/
def digitsIn? (base : Nat) (s : Text) : Option Nat :=
  if s.isEmpty then none else natIn? base s

/-- A number without sign, in the base that its start tells: sixteen, eight, two or ten. -/
def prefixed? (s : Text) : Option Nat :=
  match s with
  | 0x30 :: x :: r =>
    if Text.lowerByte x = 0x78 then digitsIn? 16 r
    else if Text.lowerByte x = 0x62 then digitsIn? 2 r
    else if Text.lowerByte x = 0x6F then digitsIn? 8 r
    else natIn? 8 (x :: r)
  | _ => digitsIn? 10 s

/-- A number with an optional sign, read by `read`; with a sign it has to fit into 64 bits with
sign, else into 64 bits. -/
def signedBy (read : Text → Option Nat) (s : Text) : Option Int :=
  match s with
  | 0x2D :: r => do
    let n := -((← read r : Nat) : Int)
    if Text.fitsInt64 n then some n else none
  | 0x2B :: r => do
    let n : Int := (← read r : Nat)
    if Text.fitsInt64 n then some n else none
  | _ => do
    let n ← read s
    if n < 18446744073709551616 then some n else none

/-- An integer whose base mark stands in front of its sign, or a negative one. -/
def marked? (mark : String) (base : Nat) (s : Text) : Option Int :=
  if Text.startsWith (Text.lit mark) s then signedBy (digitsIn? base) (s.drop 2)
  else if Text.startsWith (Text.lit "-" ++ Text.lit mark) s then
    signedBy (digitsIn? base) (Text.lit "-" ++ s.drop 3)
  else none

/-- The parts of a decimal number: sign, digits and power of ten. -/
def decimal? (s : Text) : Option (Bool × Nat × Int) :=
  let (negative, s) := Text.signed s
  let whole := s.takeWhile Text.isDigit
  let s := s.drop whole.length
  let (point, s) := match s with
    | 0x2E :: r => (true, r)
    | _ => (false, s)
  let places := if point then s.takeWhile Text.isDigit else []
  let s := s.drop places.length
  if whole.isEmpty && places.isEmpty then none
  else do
    let digits ← natIn? 10 (whole ++ places)
    match s with
    | [] => some (negative, digits, -(places.length : Int))
    | e :: r =>
      if Text.lowerByte e ≠ 0x65 then none
      else
        let (down, r) := Text.signed r
        let n ← Text.digits? r
        some (negative, digits, (if down then -(n : Int) else n) - places.length)

/-- A decimal number as a double, unless it is too large for one. -/
def double? (s : Text) : Option Double := do
  let (negative, digits, exponent) ← decimal? s
  match Double.ofDecimal negative digits exponent with
  | .infinite _ => none
  | x => some x

/-- Does every underscore stand between two digits? -/
def underscoresBetweenDigits : (afterDigit : Bool) → Text → Bool
  | _, [] => true
  | afterDigit, b :: r =>
    (b != 0x5F || (afterDigit && r.head?.any Text.isDigit)) &&
      underscoresBetweenDigits (Text.isDigit b) r

/-- The number that a text means; underscores between digits do not count. -/
def number? (s : Text) : Option Scalar :=
  let plain := s.filter (· != 0x5F)
  ((signedBy prefixed? plain).map .int).or
    (((double? plain).map .float).or
      (((marked? "0b" 2 plain).map .int).or ((marked? "0o" 8 plain).map .int)))

/-! ## Dates -/

/-- A number of one or two digits and what follows it. -/
def oneOrTwo? : Text → Option (Nat × Text)
  | a :: b :: r =>
    if Text.isDigit a then
      if Text.isDigit b then some ((a.toNat - 0x30) * 10 + (b.toNat - 0x30), r)
      else some (a.toNat - 0x30, b :: r)
    else none
  | [a] => if Text.isDigit a then some (a.toNat - 0x30, []) else none
  | [] => none

/-- What follows a byte. -/
def after? (b : UInt8) (s : Text) : Option Text :=
  if s.head? = some b then some s.tail else none

/-- The days of a month. -/
def daysIn (year month : Nat) : Nat :=
  if month = 2 then if year % 4 = 0 ∧ (year % 100 ≠ 0 ∨ year % 400 = 0) then 29 else 28
  else if month = 4 ∨ month = 6 ∨ month = 9 ∨ month = 11 then 30
  else 31

/-- What follows a date of year, month and day. -/
def date? (s : Text) : Option Text := do
  let year ← Text.digits? (s.take 4)
  let (month, s) ← oneOrTwo? (← after? 0x2D (s.drop 4))
  let (day, s) ← oneOrTwo? (← after? 0x2D s)
  if 1 ≤ month ∧ month ≤ 12 ∧ 1 ≤ day ∧ day ≤ daysIn year month then some s else none

/-- What follows a time of hours, minutes and seconds with a fraction. -/
def time? (s : Text) : Option Text := do
  let (hour, s) ← oneOrTwo? s
  let (minute, s) ← oneOrTwo? (← after? 0x3A s)
  let (second, s) ← oneOrTwo? (← after? 0x3A s)
  if 24 ≤ hour ∨ 60 ≤ minute ∨ 60 ≤ second then none
  else
    match s with
    | point :: d :: r =>
      if (point = 0x2E ∨ point = 0x2C) ∧ Text.isDigit d then some (r.dropWhile Text.isDigit)
      else some s
    | _ => some s

/-- Is this a time zone: `Z`, or hours and minutes with a sign? -/
def isZone (s : Text) : Bool :=
  match s with
  | [0x5A] => true
  | [sign, a, b, 0x3A, c, d] =>
    (sign == 0x2B || sign == 0x2D) && [a, b, c, d].all Text.isDigit &&
      (Text.digits? [a, b]).any (· ≤ 24) && (Text.digits? [c, d]).any (· ≤ 60)
  | _ => false

/-- Is this a date, perhaps with a time? The year has four digits. -/
def isTimestamp (s : Text) : Bool :=
  if (s.takeWhile Text.isDigit).length ≠ 4 then false
  else
    match date? s with
    | none => false
    | some [] => true
    | some (b :: r) =>
      if b = 0x54 ∨ b = 0x74 then (time? r).any isZone
      else if b = 0x20 then (time? (r.dropWhile (· == 0x20))).any (·.isEmpty)
      else false

/-! ## Meaning -/

/-- The meaning of a scalar by the way it is written. A date counts when `dates` allows it. -/
def written (dates : Bool) (s : Text) : Scalar :=
  match s with
  | [] => .null
  | b :: _ =>
    if b = 0x2B ∨ b = 0x2D ∨ Text.isDigit b then
      ((word? s).or
        ((if dates && isTimestamp s then some .timestamp else none).or (number? s))).getD (.text s)
    else if b = 0x2E then
      ((word? s).or (if underscoresBetweenDigits false s then
        (double? (s.filter (· != 0x5F))).map .float else none)).getD (.text s)
    else if b = 0x7E ∨ (Text.lit "yYnNtTfFoO").contains b then (word? s).getD (.text s)
    else .text s

/-- The meaning of a scalar with a tag. Anything is text or binary data, an integer is a number with
a fraction too, and the merge key means itself. -/
def tagged (tag s : Text) : Except Error (Text × Scalar) :=
  if tag == textTag then .ok (textTag, .text s)
  else if tag == binaryTag then
    match Text.ofBase64? s with
    | some t => .ok (binaryTag, .text t)
    | none => .error .badBinary
  else if tag == mergeTag && s == Text.lit "<<" then .ok (mergeTag, .text s)
  else
    let meaning := written (tag == Text.lit "!!timestamp") s
    if meaning.tag == tag then .ok (tag, meaning)
    else
      match meaning with
      | .int n =>
        if tag == Text.lit "!!float" && Text.fitsInt64 n then .ok (tag, .float (Double.ofInt n))
        else .error (.tagged meaning.tag s tag)
      | _ => .error (.tagged meaning.tag s tag)

end Scalar

end NovelScript.Yaml
