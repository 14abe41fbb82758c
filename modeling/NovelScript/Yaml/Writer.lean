import NovelScript.Text.Decimal
import NovelScript.Text.Letter
import NovelScript.Yaml.Style

/-!
# Writing documents

A document of nested mappings, indented by four. Keys of a table are in the order in which people
read them: letters after digits and signs, numbers by their value.
-/

namespace NovelScript.Yaml

/-- What is written. -/
inductive Out where
  /-- Text, in whatever way it needs. -/
  | text (t : Text)
  /-- A number or a truth value. -/
  | bare (t : Text)
  /-- A mapping. -/
  | mapping (entries : List (Text × Out))

/-! ## The order of keys -/

/-- The value of the digits in front, after `start`, and how many they are. -/
def leadingNumber (start : Int) (cs : List Char) : Int × Nat :=
  let ds := cs.takeWhile Text.isDecimalChar
  (ds.foldl (fun n c => Text.wrapInt64 (10 * n + ((c.toNat : Int) - 48))) start, ds.length)

/-- Does `a` come before `b`? `shared` are the characters that both have in front, last first. -/
def before (shared : List Char) : List Char → List Char → Bool
  | [], [] => false
  | [], _ :: _ => true
  | _ :: _, [] => false
  | a :: as, b :: bs =>
    if a = b then before (a :: shared) as bs
    else
      let la := Text.isLetterChar a
      let lb := Text.isLetterChar b
      if la && lb then a < b
      else if la || lb then if shared.head?.any Text.isDecimalChar then la else lb
      else
        let inNumber := (a == '0' || b == '0') &&
          (shared.takeWhile Text.isDecimalChar).any (· != '0')
        let start : Int := if inNumber then 1 else 0
        let (n, i) := leadingNumber start (a :: as)
        let (m, j) := leadingNumber start (b :: bs)
        if n ≠ m then n < m else if i ≠ j then i < j else a < b

/-- The entries in the order of their keys. -/
def sortEntries {β : Type} (entries : List (Text × β)) : List (Text × β) :=
  entries.mergeSort fun a b => !before [] (Text.decode b.1) (Text.decode a.1)

/-! ## Text -/

/-- A line break, unless the text ends with one. -/
def freshLine (s : Text) : Text :=
  match s.getLast? with
  | none => s
  | some b =>
    if b == Text.newline || Text.endsWith [0xE2, 0x80, 0xA8] s || Text.endsWith [0xE2, 0x80, 0xA9] s
    then s else s ++ [Text.newline]

/-- Can the key stand on one line with its value? -/
def isSimpleKey (key : Text) : Bool :=
  let (s, tagged) := prepared key
  !(Text.decode s).any breaksLine && (if tagged then 8 else 0) + s.length ≤ 128

/-- The key of an entry with the colon. -/
def writeKey (indent : Nat) (key : Text) : Text :=
  if isSimpleKey key then spaces indent ++ writeScalar (indent + 4) true key ++ Text.lit ":"
  else
    freshLine (spaces indent ++ Text.lit "? " ++ writeScalar (indent + 4) false key) ++
      spaces indent ++ Text.lit ":"

mutual

/-- A value after its key, up to the end of the line. -/
def Out.write (indent : Nat) : Out → Text
  | .text t => Text.lit " " ++ writeScalar (indent + 4) false t
  | .bare t => Text.lit " " ++ t
  | .mapping [] => Text.lit " \x7b\x7d"
  | .mapping (e :: es) => Text.newline :: Out.writeEntries (indent + 4) (e :: es)

/-- The entries of a mapping, each on lines of its own. -/
def Out.writeEntries (indent : Nat) : List (Text × Out) → Text
  | [] => []
  | (key, value) :: more =>
    freshLine (writeKey indent key ++ Out.write indent value) ++ Out.writeEntries indent more

end

end NovelScript.Yaml
