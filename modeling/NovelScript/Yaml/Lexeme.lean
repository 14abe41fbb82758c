import NovelScript.Text.CodePoints
import NovelScript.Yaml.Source

/-!
# Scalars, names and tags

The longer tokens of a document: scalars in quotes, plain ones and blocks, names of anchors, tags
and directives. Each function starts at the first character of the token and gives what the token
says and the input after it.
-/

namespace NovelScript.Yaml

/-! ## White space inside scalars -/

/-- White space between two words of a scalar: blanks on one line, or line breaks. A single line
feed folds into a blank, of more the first is dropped; separators stay. -/
inductive Gap where
  /-- Blanks that are kept. -/
  | blanks (kept : List Char)
  /-- The first line break, none when it was escaped, and those after it. -/
  | lines (first more : List Char)

namespace Gap

/-- No white space. -/
def empty : Gap := .blanks []

/-- Is there nothing? -/
def isEmpty : Gap → Bool
  | .blanks kept => kept.isEmpty
  | .lines _ _ => false

/-- Is there a line break? -/
def hasBreak : Gap → Bool
  | .blanks _ => false
  | .lines _ _ => true

/-- One more character of white space. -/
def add (g : Gap) (c : Char) : Gap :=
  match g with
  | .blanks kept => if isBreak c then .lines [c] [] else .blanks (kept ++ [c])
  | .lines first more => if isBreak c then .lines first (more ++ [c]) else g

/-- What the white space stands for. -/
def fold : Gap → List Char
  | .blanks kept => kept
  | .lines first more =>
    if first == ['\n'] then if more.isEmpty then [' '] else more else first ++ more

end Gap

/-! ## Scalars in quotes -/

/-- An escape sequence: characters it stands for, or a number of digits to follow. -/
inductive Escape where
  /-- One character. -/
  | char (c : Char)
  /-- A code in base sixteen. -/
  | code (digits : Nat)

/-- What a character after a backslash means. -/
def escape? (c : Char) : Option Escape :=
  if c = '0' then some (.char '\x00')
  else if c = 'a' then some (.char '\x07')
  else if c = 'b' then some (.char '\x08')
  else if c = 't' ∨ c = '\t' then some (.char '\t')
  else if c = 'n' then some (.char '\n')
  else if c = 'v' then some (.char '\x0b')
  else if c = 'f' then some (.char '\x0c')
  else if c = 'r' then some (.char '\r')
  else if c = 'e' then some (.char '\x1b')
  else if c = ' ' ∨ c = '"' ∨ c = '\'' ∨ c = '\\' then some (.char c)
  else if c = 'N' then some (.char (Char.ofNat 0x85))
  else if c = '_' then some (.char (Char.ofNat 0xA0))
  else if c = 'L' then some (.char (Char.ofNat 0x2028))
  else if c = 'P' then some (.char (Char.ofNat 0x2029))
  else if c = 'x' then some (.code 2)
  else if c = 'u' then some (.code 4)
  else if c = 'U' then some (.code 8)
  else none

/-- The character whose code is written in the first `digits` characters. -/
def codeChar (digits : Nat) (s : List Char) : Except Fault Char :=
  let ds := s.take digits
  if ds.length < digits ∨ ds.any (fun c => (Text.hexDigit? c).isNone) then .error .escapeDigits
  else
    let n := Text.hexValue ds
    if (0xD800 ≤ n ∧ n ≤ 0xDFFF) ∨ 0x10FFFF < n then .error .escapeCharacter
    else .ok (Char.ofNat n)

/-- A scalar in double quotes: `done` is what it has so far, reversed, `gap` the white space after
that, and `skip` characters are dealt with already. -/
def doubleQuoted (start : Mark) (done : List Char) (gap : Gap) :
    (skip : Nat) → Mark → List Char → Except Error (List Char × Input)
  | _, mark, [] => .error (scanError start mark .unclosed)
  | skip + 1, mark, c :: r => doubleQuoted start done gap skip (mark.after c) r
  | 0, mark, c :: r =>
    if isBlank c || isBreak c then doubleQuoted start done (gap.add c) 0 (mark.after c) r
    else if Input.atDocumentMark ⟨c :: r, mark⟩ then .error (scanError start mark .documentMark)
    else
      let before := gap.fold.reverse ++ done
      if c = '"' then .ok (before.reverse, ⟨r, mark.after c⟩)
      else if c = '\\' then
        match r with
        | [] => .error (scanError start mark .unknownEscape)
        | e :: after =>
          if isBreak e then doubleQuoted start before (.lines [] []) 1 (mark.after c) r
          else
            match escape? e with
            | none => .error (scanError start mark .unknownEscape)
            | some (.char d) => doubleQuoted start (d :: before) .empty 1 (mark.after c) r
            | some (.code digits) =>
              match codeChar digits after with
              | .error f => .error (scanError start mark f)
              | .ok d => doubleQuoted start (d :: before) .empty (digits + 1) (mark.after c) r
      else doubleQuoted start (c :: before) .empty 0 (mark.after c) r

/-- A scalar in single quotes, in the same way. -/
def singleQuoted (start : Mark) (done : List Char) (gap : Gap) :
    (skip : Nat) → Mark → List Char → Except Error (List Char × Input)
  | _, mark, [] => .error (scanError start mark .unclosed)
  | skip + 1, mark, c :: r => singleQuoted start done gap skip (mark.after c) r
  | 0, mark, c :: r =>
    if isBlank c || isBreak c then singleQuoted start done (gap.add c) 0 (mark.after c) r
    else if Input.atDocumentMark ⟨c :: r, mark⟩ then .error (scanError start mark .documentMark)
    else
      let before := gap.fold.reverse ++ done
      if c = '\'' then
        if r.head? = some '\'' then singleQuoted start ('\'' :: before) .empty 1 (mark.after c) r
        else .ok (before.reverse, ⟨r, mark.after c⟩)
      else singleQuoted start (c :: before) .empty 0 (mark.after c) r

/-! ## Plain scalars -/

/-- Characters that end a plain scalar inside brackets. -/
def flowIndicators : List Char := [',', '?', '[', ']', '\x7b', '\x7d']

/-- Does a plain scalar end before this character? After white space it may end for more reasons. -/
def plainEnds (flow : Bool) (indent : Int) (gap : Gap) (mark : Mark) (c : Char) (r : List Char) :
    Bool :=
  (!gap.isEmpty &&
      ((!flow && mark.column < indent) || Input.atDocumentMark ⟨c :: r, mark⟩ || c == '#')) ||
    (c == ':' && endsWord r) || (flow && flowIndicators.contains c)

/-- A plain scalar of which `done` is read, reversed. Also says whether a line break follows it. -/
def plainScalar (flow : Bool) (indent : Int) (start : Mark) (done : List Char) (gap : Gap) :
    Mark → List Char → Except Error (List Char × Bool × Input)
  | mark, [] => .ok (done.reverse, gap.hasBreak, ⟨[], mark⟩)
  | mark, c :: r =>
    if isBlank c || isBreak c then
      if c == '\t' && gap.hasBreak && mark.column < indent then
        .error (scanError start mark .tabPlain)
      else plainScalar flow indent start done (gap.add c) (mark.after c) r
    else if plainEnds flow indent gap mark c r then
      .ok (done.reverse, gap.hasBreak, ⟨c :: r, mark⟩)
    else plainScalar flow indent start (c :: (gap.fold.reverse ++ done)) .empty (mark.after c) r

/-! ## Block scalars -/

/-- What becomes of the line breaks at the end of a block. -/
inductive Chomp where
  /-- None is kept. -/
  | strip
  /-- One is kept. -/
  | clip
  /-- All are kept. -/
  | keep

/-- Indentation and empty lines in front of a line of a block whose indentation is `indent`, zero
when it is not known yet. Gives the greatest indentation met and the breaks. -/
def blockBreaks (indent : Nat) (start : Mark) (deepest : Nat) (breaks : List Char) :
    Mark → List Char → Except Error (Nat × List Char × Input)
  | mark, [] => .ok (max deepest mark.column, breaks, ⟨[], mark⟩)
  | mark, c :: r =>
    let deepest := max deepest mark.column
    let shallow := indent == 0 || mark.column < indent
    if c == ' ' && shallow then blockBreaks indent start deepest breaks (mark.after c) r
    else if c == '\t' && shallow then .error (scanError start mark .tabIndent)
    else if isBreak c then blockBreaks indent start deepest (breaks ++ [c]) (mark.after c) r
    else .ok (deepest, breaks, ⟨c :: r, mark⟩)

/-- The lines of a block: `done` is read, `lead` the break after it and `trail` the empty lines
after that; `indented` says that the line before starts with a blank. A folded block joins lines
that are not indented. -/
def blockLines (literal : Bool) (indent : Nat) (start : Mark) :
    (fuel : Nat) → (done lead trail : List Char) → (indented : Bool) → Input →
    Except Error (List Char × List Char × List Char × Input)
  | 0, done, lead, trail, _, i => .ok (done, lead, trail, i)
  | fuel + 1, done, lead, trail, indented, i =>
    match i.rest with
    | [] => .ok (done, lead, trail, i)
    | c :: _ =>
      if i.mark.column != indent then .ok (done, lead, trail, i)
      else do
        let blank := isBlank c
        let joined :=
          if !literal && !indented && !blank && lead == ['\n'] then
            if trail.isEmpty then [' '] else []
          else lead
        let (line, i) := i.takeWhile (!isBreak ·)
        let (lead, i) := (i.rest.take 1, i.skip 1)
        let (_, breaks, i) ← blockBreaks indent start 0 [] i.mark i.rest
        blockLines literal indent start fuel (done ++ joined ++ trail ++ line) lead breaks blank i

/-- The indicators of a block: how it ends and how deep it is indented. -/
def blockHeader (start : Mark) (i : Input) : Except Error (Chomp × Nat × Input) :=
  let chomp? (i : Input) : Option Chomp :=
    match i.rest with
    | '+' :: _ => some .keep
    | '-' :: _ => some .strip
    | _ => none
  let digit (i : Input) : Except Error (Nat × Input) :=
    match i.rest with
    | c :: _ =>
      if c = '0' then .error (scanError start i.mark .zeroIndent)
      else if c.isDigit then .ok (c.toNat - '0'.toNat, i.skip 1)
      else .ok (0, i)
    | [] => .ok (0, i)
  match chomp? i with
  | some chomp => do
    let (n, i) ← digit (i.skip 1)
    return (chomp, n, i)
  | none => do
    let (n, i) ← digit i
    match chomp? i with
    | some chomp => if n = 0 then return (.clip, n, i) else return (chomp, n, i.skip 1)
    | none => return (.clip, n, i)

/-- The rest of a line on which only a comment may stand, and its end. -/
def lineEnd (start : Mark) (i : Input) : Except Error Input :=
  let i := i.dropWhile isBlank
  let i := if i.rest.head? = some '#' then i.dropLine else i
  if endsLine i.rest then .ok (i.skip 1) else .error (scanError start i.mark .noLineEnd)

/-- A block scalar inside a block indented by `parent`. -/
def blockScalar (literal : Bool) (parent : Int) (i : Input) : Except Error (List Char × Input) := do
  let start := i.mark
  let (chomp, increment, i) ← blockHeader start (i.skip 1)
  let i ← lineEnd start i
  let wanted := if increment = 0 then 0 else (max parent 0).toNat + increment
  let (deepest, trail, i) ← blockBreaks wanted start 0 [] i.mark i.rest
  let indent := if wanted = 0 then max (max deepest (parent + 1).toNat) 1 else wanted
  let (done, lead, trail, i) ←
    blockLines literal indent start (i.rest.length + 1) [] [] trail false i
  match chomp with
  | .strip => return (done, i)
  | .clip => return (done ++ lead, i)
  | .keep => return (done ++ lead ++ trail, i)

/-! ## Names, tags and directives -/

/-- Characters that may follow the name of an anchor besides white space. -/
def afterName : List Char := ['?', ':', ',', ']', '\x7d', '%', '@', '\x60']

/-- The name of an anchor or alias, after its indicator. -/
def anchorName (i : Input) : Except Error (List Char × Input) :=
  let start := i.mark
  let (name, i) := (i.skip 1).takeWhile isNameChar
  let ends := endsWord i.rest || i.rest.head?.any afterName.contains
  if name.isEmpty || !ends then .error (scanError start i.mark .noName) else .ok (name, i)

/-- Characters of a tag besides those of names and escapes. -/
def tagChars : List Char :=
  [';', '/', '?', ':', '@', '&', '=', '+', '$', '.', ',', '!', '~', '*', '\'', '(', ')', '[', ']']

/-- The byte that is escaped by the two digits after a percent sign. -/
def escapedByte? : List Char → Option UInt8
  | '%' :: a :: b :: _ => do
    return ((← Text.hexDigit? a) * 16 + (← Text.hexDigit? b)).toUInt8
  | _ => none

/-- The rest of a tag: `done` is read, reversed, and `need` escaped bytes are missing to the last
character. -/
def tagText (start : Mark) (done : Text) (need : Nat) :
    (skip : Nat) → Mark → List Char → Except Error (Text × Input)
  | skip + 1, mark, c :: r => tagText start done need skip (mark.after c) r
  | 0, mark, c :: r =>
    if need ≠ 0 ∨ c = '%' then
      match escapedByte? (c :: r) with
      | none => .error (scanError start mark .tagEscape)
      | some b =>
        if need ≠ 0 then
          if b &&& 0xC0 == 0x80 then tagText start (b :: done) (need - 1) 2 (mark.after c) r
          else .error (scanError start mark .tagTrail)
        else
          match widthOf? b with
          | none => .error (scanError start mark .tagLead)
          | some width => tagText start (b :: done) (width - 1) 2 (mark.after c) r
    else if isNameChar c || tagChars.contains c then
      tagText start (c.toNat.toUInt8 :: done) 0 0 (mark.after c) r
    else .ok (done.reverse, ⟨c :: r, mark⟩)
  | _, mark, [] =>
    if need ≠ 0 then .error (scanError start mark .tagEscape) else .ok (done.reverse, ⟨[], mark⟩)

/-- The text of a tag that has `head` in front; there must be some. -/
def tagBody (start : Mark) (head : Text) (i : Input) : Except Error (Text × Input) := do
  let (body, j) ← tagText start [] 0 0 i.mark i.rest
  if head.isEmpty && body.isEmpty then .error (scanError start j.mark .noTag)
  else return (head.drop 1 ++ body, j)

/-- A handle: an exclamation mark, a name, and a second exclamation mark if there is one. -/
def tagHandle (start : Mark) (directive : Bool) (i : Input) : Except Error (Text × Input) :=
  if i.rest.head? ≠ some '!' then .error (scanError start i.mark .noBang)
  else
    let (name, i) := (i.skip 1).takeWhile isNameChar
    if i.rest.head? = some '!' then
      .ok (Text.lit "!" ++ Text.encode name ++ Text.lit "!", i.skip 1)
    else if directive && !name.isEmpty then .error (scanError start i.mark .noBang)
    else .ok (Text.lit "!" ++ Text.encode name, i)

/-- A tag: its handle, empty when there is none, and what follows it. -/
def tagOf (i : Input) : Except Error ((Text × Text) × Input) := do
  let start := i.mark
  let (tag, i) ←
    if i.rest.drop 1 |>.head? |> (· == some '<') then do
      let (suffix, i) ← tagBody start [] (i.skip 2)
      if i.rest.head? ≠ some '>' then throw (scanError start i.mark .noTagEnd)
      pure ((([] : Text), suffix), i.skip 1)
    else do
      let (handle, i) ← tagHandle start false i
      if handle.length > 1 && Text.endsWith (Text.lit "!") handle then do
        let (suffix, i) ← tagBody start [] i
        pure ((handle, suffix), i)
      else do
        let (suffix, i) ← tagBody start handle i
        if suffix.isEmpty then pure (([], handle), i) else pure ((Text.lit "!", suffix), i)
  if endsWord i.rest then return (tag, i) else throw (scanError start i.mark .noBlankOrBreak)

/-- A directive of a document. -/
inductive Directive where
  /-- The version of the language. -/
  | version (major minor : Nat)
  /-- A handle for tags and what it stands for. -/
  | handle (name meaning : Text)

/-- A number of at most two digits. -/
def versionNumber (start : Mark) (i : Input) : Except Error (Nat × Input) :=
  let (digits, j) := i.takeWhile Char.isDigit
  if digits.isEmpty then .error (scanError start j.mark .noVersion)
  else if 2 < digits.length then .error (scanError start j.mark .versionLength)
  else .ok (digits.foldl (fun n c => 10 * n + (c.toNat - '0'.toNat)) 0, j)

/-- What follows the name of a directive. -/
def directiveValue (start : Mark) (name : List Char) (i : Input) :
    Except Error (Directive × Input) := do
  if name == "YAML".toList then
    let (major, i) ← versionNumber start (i.dropWhile isBlank)
    if i.rest.head? ≠ some '.' then throw (scanError start i.mark .versionPoint)
    let (minor, i) ← versionNumber start (i.skip 1)
    return (.version major minor, i)
  else if name == "TAG".toList then
    let (handle, i) ← tagHandle start true (i.dropWhile isBlank)
    if !i.rest.head?.any isBlank then throw (scanError start i.mark .noBlank)
    let (meaning, i) ← tagBody start [] (i.dropWhile isBlank)
    if !endsWord i.rest then throw (scanError start i.mark .noBlankOrBreak)
    return (.handle handle meaning, i)
  else throw (scanError start i.mark .unknownDirective)

/-- A directive with its line. -/
def directive (i : Input) : Except Error (Directive × Input) := do
  let start := i.mark
  let (name, i) := (i.skip 1).takeWhile isNameChar
  if name.isEmpty then throw (scanError start i.mark .noDirectiveName)
  if !endsWord i.rest then throw (scanError start i.mark .directiveNameEnd)
  let (d, i) ← directiveValue start name i
  return (d, ← lineEnd start i)

end NovelScript.Yaml
