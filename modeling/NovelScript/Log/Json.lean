import NovelScript.Log.Value

/-!
# Values as JSON

The form of values for programs that read the log. Texts are escaped as far as they must be, and
besides that the two separators that end a line elsewhere. A group without members is left out, and
a group without a key has its members in the group around it.
-/

namespace NovelScript.Log.Json

/-- A character in a text. -/
def escapeChar (c : Char) : Text :=
  if c = '"' then Text.lit "\\\""
  else if c = '\\' then Text.lit "\\\\"
  else if c = '\n' then Text.lit "\\n"
  else if c = '\r' then Text.lit "\\r"
  else if c = '\t' then Text.lit "\\t"
  else if c.toNat < 0x20 ∨ c.toNat = 0x2028 ∨ c.toNat = 0x2029 then
    Text.lit "\\u" ++ Text.hexPadded 4 c.toNat
  else Text.encodeChar c

/-- The escaped characters of a text after `skip` bytes. -/
def escapeFrom : (skip : Nat) → Text → Text
  | _, [] => []
  | skip + 1, _ :: r => escapeFrom skip r
  | 0, b :: r =>
    match Text.wellFormed? b r with
    | some (c, width) => escapeChar c ++ escapeFrom (width - 1) r
    | none => Text.lit "\\ufffd" ++ escapeFrom 0 r

/-- A text in quotes. -/
def string (s : Text) : Text :=
  Text.lit "\"" ++ escapeFrom 0 s ++ Text.lit "\""

/-- A double, with an exponent below a millionth and from `10 ^ 21` on. -/
def number (x : Double) : Text :=
  let layout (d : Decimal) : Text :=
    let e : Int := d.exponent + (Text.ofNat d.digits).length - 1
    if d.digits ≠ 0 ∧ (e < -6 ∨ 21 ≤ e) then d.scientific 1 else d.positional
  Double.written layout x

/-- A key with what belongs to it. -/
def member (key value : Text) : Text :=
  string key ++ Text.lit ":" ++ value

/-- Members in braces. -/
def object (members : List Text) : Text :=
  Text.lit "\x7b" ++ Text.join (Text.lit ",") members ++ Text.lit "\x7d"

/-- The members under a key, if there are any. -/
def nested (key : Text) (members : List Text) : List Text :=
  if members.isEmpty then [] else [member key (object members)]

mutual

/-- The members that an attribute adds to the object around it. -/
def ofAttribute (key : Text) : Value → List Text
  | .text s => [member key (string s)]
  | .int n => [member key (Text.ofInt n)]
  | .nat n => [member key (Text.ofNat n)]
  | .double x => [member key (number x)]
  | .bool b => [member key (Value.boolText b)]
  | .duration n => [member key (Text.ofInt n)]
  | .fault m => [member key (string m)]
  | .nothing => if key.isEmpty then [] else [member key (Text.lit "null")]
  | .group members => if key.isEmpty then ofAttributes members else nested key (ofAttributes members)

/-- The members that a list of attributes adds. -/
def ofAttributes : List (Text × Value) → List Text
  | [] => []
  | (key, value) :: more => ofAttribute key value ++ ofAttributes more

end

end NovelScript.Log.Json
