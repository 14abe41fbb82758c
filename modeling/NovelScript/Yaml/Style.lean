import NovelScript.Text.Utf8
import NovelScript.Yaml.Lexeme
import NovelScript.Yaml.Scalar

/-!
# How a scalar is written

Text is written without quotes where it reads back as the same text. Otherwise it is put in single
quotes, in double quotes with escapes when it has characters that cannot stand for themselves, or in
a block when it has more than one line. Bytes that are no text are written in base 64.
-/

namespace NovelScript.Yaml

/-- A way to write a scalar. -/
inductive Style where
  /-- Without quotes. -/
  | plain
  /-- In single quotes, which are doubled inside. -/
  | single
  /-- In double quotes, with escapes. -/
  | double
  /-- As a block of lines. -/
  | block
deriving DecidableEq, Repr

/-- A character that can stand for itself. -/
def isPrintable (c : Char) : Bool :=
  let n := c.toNat
  n == 0x0A || (0x20 ≤ n && n ≤ 0x7E) || (0xA0 ≤ n && n ≤ 0xD7FF) ||
    (0xE000 ≤ n && n ≤ 0xFFFD && n != 0xFEFF)

/-- A line break of any kind. -/
def breaksLine (c : Char) : Bool :=
  isBreak c || c == '\r' || c == Char.ofNat 0x85

/-- Does a blank follow, or nothing? -/
def blankNext : List Char → Bool
  | [] => true
  | c :: _ => isBlank c

/-- Do indicators keep the first character from standing without quotes? -/
def startsLikeIndicator : List Char → Bool
  | [] => false
  | c :: r =>
    ['#', ',', '[', ']', '\x7b', '\x7d', '&', '*', '!', '|', '>', '\'', '"', '%', '@', '\x60'].contains
      c || (['?', ':', '-'].contains c && blankNext r) ||
      (c :: r).take 3 == "---".toList || (c :: r).take 3 == "...".toList

/-- Do indicators keep a character after the first from standing without quotes? -/
def hasIndicator : (spaceBefore : Bool) → List Char → Bool
  | _, [] => false
  | spaceBefore, c :: r =>
    (c == ':' && blankNext r) || (c == '#' && spaceBefore) ||
      hasIndicator (isBlank c || breaksLine c || c == '\x00') r

/-- Is a character that satisfies `p` followed by one that satisfies `q`? -/
def hasPair (p q : Char → Bool) : List Char → Bool
  | a :: b :: r => (p a && q b) || hasPair p q (b :: r)
  | _ => false

/-- What can be said of a text before it is written. -/
structure Shape where
  /-- It has line breaks. -/
  multiline : Bool
  /-- It may stand without quotes. -/
  plain : Bool
  /-- It may stand in single quotes. -/
  single : Bool
  /-- It may be a block. -/
  block : Bool

/-- The shape of a text. -/
def Shape.of (cs : List Char) : Shape :=
  let space (c : Char) : Bool := c == ' '
  let multiline := cs.any breaksLine
  let edge := cs.head?.any (fun c => space c || breaksLine c) ||
    cs.getLast?.any (fun c => space c || breaksLine c)
  let special := cs.any fun c => c != '\t' && !isPrintable c
  let spaceBreak := hasPair space breaksLine cs
  let single := !hasPair breaksLine space cs && !spaceBreak && !special && !cs.contains '\t'
  { multiline
    plain := single && !multiline && !edge && !startsLikeIndicator cs && !hasIndicator false cs.tail
    single
    block := !cs.isEmpty && !spaceBreak && !special && !cs.getLast?.any space }

/-- Is the text a number with parts of sixty, as in times? Others read it so. -/
def isSexagesimal (s : Text) : Bool :=
  let s := (Text.signed s).2
  let whole := s.takeWhile fun b => Text.isDigit b || b == 0x5F
  let rec parts : (fuel : Nat) → (found : Bool) → Text → Bool
    | 0, _, _ => false
    | fuel + 1, found, s =>
      match s with
      | [] => found
      | 0x3A :: a :: b :: r =>
        if 0x30 ≤ a && a ≤ 0x35 && Text.isDigit b then parts fuel true r
        else if Text.isDigit a then parts fuel true (b :: r)
        else false
      | [0x3A, a] => Text.isDigit a
      | 0x2E :: r => found && r.all fun b => Text.isDigit b || b == 0x5F
      | _ => false
  s.head?.any Text.isDigit && parts (s.length + 1) false (s.drop whole.length)

/-- Does the text read back as itself when it stands without quotes? Old words for truth values and
times do not count. -/
def readsAsText (s : Text) : Bool :=
  (Scalar.written true s).tag == Scalar.textTag && !isSexagesimal s &&
    ((["y", "Y", "yes", "Yes", "YES", "on", "On", "ON", "n", "N", "no", "No", "NO", "off", "Off",
      "OFF"]).all (Text.lit · != s))

/-- The way to write a text; `key` says that it is a key on one line. -/
def styleOf (s : Text) (tagged key : Bool) : Style :=
  let cs := Text.decode s
  let shape := Shape.of cs
  if cs.contains '\n' then if shape.block && !key then .block else .double
  else if !tagged && !readsAsText s then .double
  else if shape.plain then .plain
  else if shape.single then .single
  else .double

/-- The escape of a character in double quotes. -/
def escaped (c : Char) : Text :=
  let n := c.toNat
  let hex (width : Nat) : Text :=
    (Text.hexPadded width n).map fun b => if 0x61 ≤ b then b - 32 else b
  if n = 0 then Text.lit "\\0"
  else if n = 0x07 then Text.lit "\\a"
  else if n = 0x08 then Text.lit "\\b"
  else if n = 0x09 then Text.lit "\\t"
  else if n = 0x0A then Text.lit "\\n"
  else if n = 0x0B then Text.lit "\\v"
  else if n = 0x0C then Text.lit "\\f"
  else if n = 0x0D then Text.lit "\\r"
  else if n = 0x1B then Text.lit "\\e"
  else if n = 0x22 then Text.lit "\\\""
  else if n = 0x5C then Text.lit "\\\\"
  else if n = 0x85 then Text.lit "\\N"
  else if n = 0xA0 then Text.lit "\\_"
  else if n = 0x2028 then Text.lit "\\L"
  else if n = 0x2029 then Text.lit "\\P"
  else if n ≤ 0xFF then Text.lit "\\x" ++ hex 2
  else if n ≤ 0xFFFF then Text.lit "\\u" ++ hex 4
  else Text.lit "\\U" ++ hex 8

/-- A text in double quotes. -/
def inDouble (cs : List Char) : Text :=
  Text.lit "\"" ++
    (cs.flatMap fun c =>
      if !isPrintable c || breaksLine c || c == '"' || c == '\\' then escaped c
      else Text.encodeChar c) ++
    Text.lit "\""

/-- Blanks for indentation. -/
def spaces (n : Nat) : Text :=
  List.replicate n Text.blank

/-- Characters in single quotes; after a line break there is indentation. -/
def singleFrom (indent : Nat) : (broken : Bool) → List Char → Text
  | _, [] => []
  | broken, c :: r =>
    if breaksLine c then Text.encodeChar c ++ singleFrom indent true r
    else
      (if broken && c != ' ' then spaces indent else []) ++
        (if c == '\'' then Text.lit "''" else Text.encodeChar c) ++
        singleFrom indent (broken && c == ' ') r

/-- The lines of a block: `fresh` says that a line was started, `broken` that a break came last. -/
def blockFrom (indent : Nat) : (fresh broken : Bool) → List Char → Text
  | _, _, [] => []
  | fresh, broken, c :: r =>
    if breaksLine c then Text.encodeChar c ++ blockFrom indent true true r
    else
      (if broken then (if fresh then [] else [Text.newline]) ++ spaces indent else []) ++
        Text.encodeChar c ++ blockFrom indent false false r

/-- The indicators of a block: its indentation if it starts with white space, and what becomes of
the breaks at its end. -/
def blockHints (cs : List Char) : Text :=
  (if cs.head?.any (fun c => c == ' ' || breaksLine c) then Text.lit "4" else []) ++
    match cs.reverse with
    | [] => Text.lit "-"
    | last :: more =>
      if !breaksLine last then Text.lit "-"
      else
        match more with
        | [] => Text.lit "+"
        | before :: _ => if breaksLine before then Text.lit "+" else []

/-- A text in base 64, in lines of seventy when it is long. -/
def binaryLines : (fuel : Nat) → Text → Text
  | 0, s => s
  | fuel + 1, s =>
    if s.length ≤ 70 then s ++ [Text.newline]
    else s.take 70 ++ Text.newline :: binaryLines fuel (s.drop 70)

/-- A text and the tag that it needs to be written: bytes that are no text need one. -/
def prepared (s : Text) : Text × Bool :=
  if Text.isValid s then (s, false)
  else
    let b := Text.base64 s
    (if b.length < 70 then b else binaryLines b.length b, true)

/-- A scalar as it is written, in a block whose contents are indented by `indent`. -/
def writeScalar (indent : Nat) (key : Bool) (value : Text) : Text :=
  let (s, tagged) := prepared value
  let cs := Text.decode s
  (if tagged then Text.lit "!!binary " else []) ++
    match styleOf s tagged key with
    | .plain => s
    | .single => Text.lit "'" ++ singleFrom indent false cs ++ Text.lit "'"
    | .double => inDouble cs
    | .block => Text.lit "|" ++ blockHints cs ++ blockFrom indent false true cs

end NovelScript.Yaml
