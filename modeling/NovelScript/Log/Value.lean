import NovelScript.Log.Duration

/-!
# Values of attributes

An attribute of a record is a key with a value. Values are of a few plain kinds, or groups of
further attributes. Here is how they are written on the console; `Log.Json` has the other form.
-/

namespace NovelScript.Log

/-- A value. -/
inductive Value where
  /-- A text. -/
  | text (s : Text)
  /-- An integer. -/
  | int (n : Int)
  /-- A natural number. -/
  | nat (n : Nat)
  /-- A double. -/
  | double (x : Double)
  /-- A truth value. -/
  | bool (b : Bool)
  /-- A length of time in nanoseconds. -/
  | duration (n : Int)
  /-- A fault, by what is said about it. -/
  | fault (message : Text)
  /-- Nothing. -/
  | nothing
  /-- A group of attributes. -/
  | group (members : List (Text × Value))

instance : Inhabited Value := ⟨.nothing⟩

/-- An attribute: a key and a value. -/
abbrev Attribute := Text × Value

namespace Value

/-- Is it a group without members? -/
def isEmptyGroup : Value → Bool
  | group [] => true
  | _ => false

/-- The truth value in words. -/
def boolText (b : Bool) : Text :=
  Text.lit (if b then "true" else "false")

/-- A double with an exponent where it has more than six digits before the point or more than four
zeros after it. -/
def compactDouble (x : Double) : Text :=
  let layout (d : Decimal) : Text :=
    let e : Int := d.exponent + (Text.ofNat d.digits).length - 1
    if d.digits ≠ 0 ∧ (e < -4 ∨ 6 ≤ e) then d.scientific 2 else d.positional
  Double.written layout x

mutual

/-- The value in words, nothing quoted. -/
def bare : Value → Text
  | text s => s
  | int n => Text.ofInt n
  | nat n => Text.ofNat n
  | double x => compactDouble x
  | bool b => boolText b
  | duration n => durationText n
  | fault m => m
  | nothing => Text.lit "<nil>"
  | group members => Text.lit "[" ++ Text.join [Text.blank] (bareMembers members) ++ Text.lit "]"

/-- The members of a group in words; a group without members is not among them. -/
def bareMembers : List (Text × Value) → List Text
  | [] => []
  | (key, value) :: more =>
    if value.isEmptyGroup then bareMembers more
    else (key ++ Text.lit "=" ++ bare value) :: bareMembers more

end

/-- Must a text be quoted on the console? Only what could be taken for the end of a value counts. -/
def needsQuotes (s : Text) : Bool :=
  s.any fun b => b == Text.blank || b == Text.tab || b == 0x22 || b == 0x3D

/-- The value as the console shows it. -/
def shown : Value → Text
  | text s => if needsQuotes s then Text.quoted s else s
  | double x => x.plain
  | v => v.bare

end Value

end NovelScript.Log
