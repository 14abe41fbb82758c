import Std.Data.HashMap

/-!
# Tables of code points

Two compact ways to write down data of the character set: a set by the points at which membership
flips, and a map by lines of hexadecimal entries `from=to+to`.
-/

namespace NovelScript.Text

/-- Membership in the set that starts empty at 0 and flips at each of the ascending `bounds`. -/
def flipsAt (bounds : List Nat) (n : Nat) : Bool :=
  (bounds.takeWhile (· ≤ n)).length % 2 == 1

/-- A digit of base sixteen. -/
def hexDigit? (c : Char) : Option Nat :=
  if '0' ≤ c ∧ c ≤ '9' then some (c.toNat - '0'.toNat)
  else if 'a' ≤ c ∧ c ≤ 'f' then some (c.toNat - 'a'.toNat + 10)
  else if 'A' ≤ c ∧ c ≤ 'F' then some (c.toNat - 'A'.toNat + 10)
  else none

/-- The number written in base sixteen; characters that are no digit are skipped. -/
def hexValue (s : List Char) : Nat :=
  s.foldl (fun n c => match hexDigit? c with
    | some d => 16 * n + d
    | none => n) 0

/-- One entry `from=to+to` of a table. -/
def mapping (entry : String) : Nat × List Nat :=
  match entry.splitOn "=" with
  | source :: targets :: _ =>
    (hexValue source.toList, (targets.splitOn "+").map fun t => hexValue t.toList)
  | _ => (0, [])

/-- The table written in the lines of `data`, entries apart by blanks. -/
def mappings (data : List String) : Std.HashMap Nat (List Nat) :=
  Std.HashMap.ofList ((data.flatMap (·.splitOn " ")).map mapping)

end NovelScript.Text
