import NovelScript.Text.Quoted

/-!
# Percent coding

A byte that must not stand in an address is written as a percent sign and two digits of base
sixteen. Which bytes must not stand depends on the part of the address.
-/

namespace NovelScript.Url

/-- A part of an address with rules of its own. -/
inductive Part where
  /-- The path. -/
  | path
  /-- A host with its service number. -/
  | host
  /-- The zone of a numeric host. -/
  | zone
  /-- A user name or a password. -/
  | user
  /-- What follows a hash sign. -/
  | fragment
deriving DecidableEq, Repr

/-- Is the byte one of the characters? -/
def isOneOf (cs : String) (b : UInt8) : Bool :=
  (Text.lit cs).contains b

/-- Must the byte be written as a percent sign and digits? -/
def isCoded (part : Part) (b : UInt8) : Bool :=
  if Text.isAlphanumeric b || isOneOf "-_.~" b then false
  else
    match part with
    | .host | .zone => !isOneOf "!$&'()*+,;=:[]<>\"" b
    | .path => !isOneOf "$&+,/:;=@" b
    | .user => !isOneOf "$&+,;=" b
    | .fragment => !isOneOf "$&+,/:;=?@!()*" b

/-- The byte in percent coding. -/
def percentCoded (b : UInt8) : Text :=
  let digit (n : UInt8) : UInt8 := if n < 10 then 0x30 + n else 0x37 + n
  [0x25, digit (b / 16), digit (b % 16)]

/-- The text with the bytes coded that must be. -/
def encode (part : Part) (s : Text) : Text :=
  s.flatMap fun b => if isCoded part b then percentCoded b else [b]

/-- The value of a digit of base sixteen. -/
def hexDigitValue (b : UInt8) : UInt8 :=
  if Text.isDigit b then b - 0x30 else Text.lowerByte b - 0x57

/-- May a coded byte stand in the part? A host codes no byte of ASCII but the percent sign itself,
and a zone codes besides it the blank and what could stand there anyway. -/
def mayBeCoded (part : Part) (b : UInt8) : Bool :=
  match part with
  | .host => 0x80 ≤ b || b == 0x25
  | .zone => b == 0x25 || b == 0x20 || !isCoded .host b
  | _ => true

/-- May a byte stand in the part as it is? -/
def mayBePlain (part : Part) (b : UInt8) : Bool :=
  match part with
  | .host | .zone => 0x80 ≤ b || !isCoded part b
  | _ => true

/-- The text that was coded; `none` when it is not coded by the rules of the part. -/
def decode? (part : Part) : Text → Option Text
  | [] => some []
  | 0x25 :: a :: b :: r =>
    let value := 16 * hexDigitValue a + hexDigitValue b
    if Text.isHexDigit a && Text.isHexDigit b && mayBeCoded part value then
      (decode? part r).map (value :: ·)
    else none
  | b :: r =>
    if b != 0x25 && mayBePlain part b then (decode? part r).map (b :: ·) else none

/-- Could the text stand in the part as it is? Some more bytes are left alone than are written. -/
def isWellCoded (part : Part) (s : Text) : Bool :=
  s.all fun b => isOneOf "!$&'()*+,;=:@[]%" b || !isCoded part b

/-- How a part is written that was given as `raw` and means `meaning`: as it was given when that is
well coded. -/
def spelled (part : Part) (raw meaning : Text) : Text :=
  if raw != encode part meaning && isWellCoded part raw then raw
  else encode part meaning

end NovelScript.Url
