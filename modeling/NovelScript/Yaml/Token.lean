import NovelScript.Yaml.Lexeme

/-!
# Tokens

The tokens of a document and the queue in which they wait. Some tokens are only understood later: a
scalar is a key when a colon follows it, so tokens for the key and for the mapping around it are put
in front of it then. Indentation is turned into tokens that open and close blocks. A token may be
taken once two more wait behind it and it cannot become a key any more.
-/

namespace NovelScript.Yaml

/-- What a token is. -/
inductive Kind where
  /-- Nothing was read yet. -/
  | streamStart
  /-- There is nothing more. -/
  | streamEnd
  /-- A directive. -/
  | directive (d : Directive)
  /-- The mark in front of a document. -/
  | documentStart
  /-- The mark behind a document. -/
  | documentEnd
  /-- A sequence by indentation opens. -/
  | blockSequence
  /-- A mapping by indentation opens. -/
  | blockMapping
  /-- A sequence or mapping by indentation closes. -/
  | blockEnd
  /-- A sequence in brackets opens. -/
  | flowSequence
  /-- A sequence in brackets closes. -/
  | flowSequenceEnd
  /-- A mapping in braces opens. -/
  | flowMapping
  /-- A mapping in braces closes. -/
  | flowMappingEnd
  /-- A dash. -/
  | blockEntry
  /-- A comma. -/
  | flowEntry
  /-- A key follows. -/
  | key
  /-- A value follows. -/
  | value
  /-- A reference to an anchor. -/
  | reference (name : Text)
  /-- A name for the node that follows. -/
  | anchor (name : Text)
  /-- The tag of the node that follows. -/
  | tag (handle suffix : Text)
  /-- A scalar. -/
  | scalar (value : Text) (plain : Bool)

/-- A token and where it starts. -/
structure Token where
  /-- What it is. -/
  kind : Kind
  /-- Where it starts. -/
  start : Mark

/-- A token that is a key if a colon follows it soon. -/
structure PossibleKey where
  /-- Nothing but a key can stand there. -/
  required : Bool
  /-- The number of the token, counted from the start of the stream. -/
  number : Nat
  /-- Where it starts. -/
  mark : Mark

/-- The state of reading tokens. -/
structure Scanner where
  /-- What is not read yet. -/
  input : Input
  /-- Was the first token made? -/
  started : Bool := false
  /-- Tokens that wait. -/
  queue : List Token := []
  /-- How many tokens were taken. -/
  taken : Nat := 0
  /-- The indentation of the innermost block; minus one outside of all. -/
  indent : Int := -1
  /-- The indentations of the blocks around it, innermost first. -/
  indents : List Int := []
  /-- May a key start here? -/
  keyAllowed : Bool := true
  /-- The possible key of each level of brackets, innermost first; the last is for no brackets. -/
  keys : List (Option PossibleKey) := [none]

namespace Scanner

/-- Are we inside brackets? -/
def inFlow (s : Scanner) : Bool :=
  1 < s.keys.length

/-- The place that is read next. -/
def mark (s : Scanner) : Mark :=
  s.input.mark

/-- An error at this place. -/
def here (s : Scanner) (f : Fault) : Error :=
  scanError s.mark s.mark f

/-- Adds a token. -/
def push (s : Scanner) (kind : Kind) (start : Mark) : Scanner :=
  { s with queue := s.queue ++ [⟨kind, start⟩] }

/-- Puts a token in front of the one with the given number. -/
def pushAt (s : Scanner) (number : Nat) (kind : Kind) (start : Mark) : Scanner :=
  let n := number - s.taken
  { s with queue := s.queue.take n ++ ⟨kind, start⟩ :: s.queue.drop n }

/-- The error of a key that has no colon. -/
def noColon (s : Scanner) (k : PossibleKey) : Error :=
  scanError k.mark s.mark .noColon

/-- Is it too late for the colon of this key? It must be on the same line and not too far. -/
def isStale (s : Scanner) (k : PossibleKey) : Bool :=
  k.mark.line < s.mark.line || k.mark.index + 1024 < s.mark.index

/-- Gives up the possible key of this level. -/
def dropKey (s : Scanner) : Except Error Scanner :=
  match s.keys with
  | some k :: more => if k.required then .error (s.noColon k) else .ok { s with keys := none :: more }
  | _ => .ok s

/-- Notes that a key may start here. -/
def noteKey (s : Scanner) : Except Error Scanner :=
  if !s.keyAllowed then .ok s
  else do
    let key : PossibleKey :=
      ⟨!s.inFlow && s.indent == s.mark.column, s.taken + s.queue.length, s.mark⟩
    let s ← s.dropKey
    return { s with keys := some key :: s.keys.tail }

/-- Opens a block at a column that is deeper than the current one; `number` says in front of which
token, else behind all. -/
def openBlock (s : Scanner) (column : Nat) (number : Option Nat) (kind : Kind) (start : Mark) :
    Except Error Scanner :=
  if s.inFlow || (column : Int) ≤ s.indent then .ok s
  else if 10000 ≤ s.indents.length then .error (s.here .depth)
  else
    let s := { s with indents := s.indent :: s.indents, indent := column }
    .ok (match number with
      | some n => s.pushAt n kind start
      | none => s.push kind start)

/-- Closes the blocks that are deeper than a column. -/
def closeBlocks (column : Int) (start : Mark) : (outer : List Int) → Scanner → Scanner
  | [], s => s
  | indent :: outer, s =>
    if column < s.indent then
      closeBlocks column start outer
        { s.push .blockEnd start with indent := indent, indents := outer }
    else s

/-- Closes the blocks that are deeper than a column, outside of brackets. -/
def unindent (s : Scanner) (column : Int) (start : Mark) : Scanner :=
  if s.inFlow then s else closeBlocks column start s.indents s

/-- A comment on the rest of the line is skipped, blanks in front of it, too. -/
def skipComment (s : Scanner) : Scanner :=
  let (blanks, i) := s.input.takeWhile isBlank
  if i.rest.head? = some '#' && blanks.length < 512 then { s with input := i.dropLine } else s

/-- Skips white space, comments and line breaks in front of the next token. A tabulator counts as
white space only where no key can start. A line break lets a key start outside of brackets. -/
def skipSpace : (fuel : Nat) → Scanner → Scanner
  | 0, s => s
  | fuel + 1, s =>
    let i := s.input
    let i := if i.mark.column = 0 && i.rest.head? = some (Char.ofNat 0xFEFF) then i.skip 1 else i
    let i := i.dropWhile fun c => c == ' ' || (c == '\t' && (s.inFlow || !s.keyAllowed))
    let i := if i.rest.head? = some '#' then i.dropLine else i
    if i.rest.head?.any isBreak then
      skipSpace fuel { s with input := i.skip 1, keyAllowed := s.keyAllowed || !s.inFlow }
    else { s with input := i }

/-- A token of `n` characters. -/
def take (s : Scanner) (n : Nat) (kind : Kind) : Scanner :=
  { s.push kind s.mark with input := s.input.skip n }

/-- The end of the stream. -/
def streamEnd (s : Scanner) : Except Error Scanner := do
  let mark := s.mark
  let mark := if mark.column = 0 then mark else { mark with line := mark.line + 1, column := 0 }
  let s ← ({ s with input := { s.input with mark } }.unindent (-1) mark).dropKey
  return { s with keyAllowed := false }.push .streamEnd mark

/-- Outside of all blocks, before a directive or a document mark. -/
def outside (s : Scanner) : Except Error Scanner := do
  let s ← (s.unindent (-1) s.mark).dropKey
  return { s with keyAllowed := false }

/-- A directive. -/
def takeDirective (s : Scanner) : Except Error Scanner := do
  let s ← s.outside
  let (d, i) ← directive s.input
  return { s.push (.directive d) s.mark with input := i }

/-- A bracket or brace that opens. -/
def openFlow (s : Scanner) (kind : Kind) : Except Error Scanner := do
  let s ← s.noteKey
  if 10000 < s.keys.length then throw (s.here .depth)
  return { s with keys := none :: s.keys, keyAllowed := true }.take 1 kind

/-- A bracket or brace that closes. -/
def closeFlow (s : Scanner) (kind : Kind) : Except Error Scanner := do
  let s ← s.dropKey
  let keys := if s.inFlow then s.keys.tail else s.keys
  return { s with keys, keyAllowed := false }.take 1 kind

/-- A comma. -/
def takeFlowEntry (s : Scanner) : Except Error Scanner := do
  let s ← s.dropKey
  return { s with keyAllowed := true }.take 1 .flowEntry

/-- A dash. Inside brackets the grammar refuses it. -/
def takeBlockEntry (s : Scanner) : Except Error Scanner := do
  if !s.inFlow && !s.keyAllowed then throw (s.here .entryPlace)
  let s ← s.openBlock s.mark.column none .blockSequence s.mark
  let s ← s.dropKey
  return { s with keyAllowed := true }.take 1 .blockEntry

/-- A question mark. -/
def takeKey (s : Scanner) : Except Error Scanner := do
  if !s.inFlow && !s.keyAllowed then throw (s.here .keyPlace)
  let s ← s.openBlock s.mark.column none .blockMapping s.mark
  let s ← s.dropKey
  return { s with keyAllowed := !s.inFlow }.take 1 .key

/-- A colon: the possible key becomes one, or the value belongs to a key that was marked. -/
def takeValue (s : Scanner) : Except Error Scanner := do
  let live ← match s.keys.head? with
    | some (some k) =>
      if s.isStale k then if k.required then throw (s.noColon k) else pure none else pure (some k)
    | _ => pure none
  match live with
  | some k =>
    let s := s.pushAt k.number .key k.mark
    let s ← s.openBlock k.mark.column (some k.number) .blockMapping k.mark
    return { s with keys := none :: s.keys.tail, keyAllowed := false }.take 1 .value
  | none =>
    if !s.inFlow && !s.keyAllowed then throw (s.here .valuePlace)
    let s ← s.openBlock s.mark.column none .blockMapping s.mark
    return { s with keys := none :: s.keys.tail, keyAllowed := !s.inFlow }.take 1 .value

/-- An anchor or an alias. -/
def takeName (s : Scanner) (kind : Text → Kind) : Except Error Scanner := do
  let s ← s.noteKey
  let (name, i) ← anchorName s.input
  return { s.push (kind (Text.encode name)) s.mark with keyAllowed := false, input := i }

/-- A tag. -/
def takeTag (s : Scanner) : Except Error Scanner := do
  let s ← s.noteKey
  let ((handle, suffix), i) ← tagOf s.input
  return { s.push (.tag handle suffix) s.mark with keyAllowed := false, input := i }

/-- A block scalar. -/
def takeBlock (s : Scanner) (literal : Bool) : Except Error Scanner := do
  let s ← s.dropKey
  let (value, i) ← blockScalar literal s.indent s.input
  return { s.push (.scalar (Text.encode value) false) s.mark with keyAllowed := true, input := i }

/-- A scalar in quotes. -/
def takeQuoted (s : Scanner) (single : Bool) : Except Error Scanner := do
  let s ← s.noteKey
  let j := s.input.skip 1
  let (value, i) ←
    if single then singleQuoted s.mark [] .empty 0 j.mark j.rest
    else doubleQuoted s.mark [] .empty 0 j.mark j.rest
  return { s.push (.scalar (Text.encode value) false) s.mark with keyAllowed := false, input := i }

/-- A plain scalar. -/
def takePlain (s : Scanner) : Except Error Scanner := do
  let s ← s.noteKey
  let (value, broken, i) ←
    plainScalar s.inFlow (s.indent + 1) s.mark [] .empty s.mark s.input.rest
  return { s.push (.scalar (Text.encode value) true) s.mark with keyAllowed := broken, input := i }

/-- Characters that start no plain scalar. -/
def indicators : List Char :=
  ['-', '?', ':', ',', '[', ']', '\x7b', '\x7d', '#', '&', '*', '!', '|', '>', '\'', '"', '%', '@',
    '\x60']

/-- The next token, which starts with `c`. -/
def takeToken (s : Scanner) (c : Char) (r : List Char) : Except Error Scanner :=
  if c = '[' then s.openFlow .flowSequence
  else if c = '\x7b' then s.openFlow .flowMapping
  else if c = ']' then s.closeFlow .flowSequenceEnd
  else if c = '\x7d' then s.closeFlow .flowMappingEnd
  else if c = ',' then s.takeFlowEntry
  else if c = '-' && endsWord r then s.takeBlockEntry
  else if c = '?' && (s.inFlow || endsWord r) then s.takeKey
  else if c = ':' && (s.inFlow || endsWord r) then s.takeValue
  else if c = '*' then s.takeName .reference
  else if c = '&' then s.takeName .anchor
  else if c = '!' then s.takeTag
  else if c = '|' && !s.inFlow then s.takeBlock true
  else if c = '>' && !s.inFlow then s.takeBlock false
  else if c = '\'' then s.takeQuoted true
  else if c = '"' then s.takeQuoted false
  else if (!isBlank c && !indicators.contains c) || c = '-' || (!s.inFlow && (c = '?' || c = ':'))
  then s.takePlain
  else .error (s.here .noToken)

/-- Adds at least one token. -/
def fetch (s : Scanner) : Except Error Scanner :=
  if !s.started then .ok ({ s with started := true }.push .streamStart s.mark)
  else
    let before := s.mark
    let s := s.skipSpace (s.input.rest.length + 1)
    let s := s.unindent s.mark.column before
    match s.input.rest with
    | [] => s.streamEnd
    | c :: r =>
      if c = '%' && s.mark.column = 0 then s.takeDirective
      else if s.input.atMark '-' then (·.take 3 .documentStart) <$> s.outside
      else if s.input.atMark '.' then (·.take 3 .documentEnd) <$> s.outside
      else do
        let s ← s.takeToken c r
        match s.queue.getLast? with
        | some ⟨.blockEntry, _⟩ => return s
        | _ => return s.skipComment

/-- The possible key that is the next token, if it is one. -/
def headKey? (s : Scanner) : Option PossibleKey :=
  s.keys.findSome? fun k => k.filter (·.number == s.taken)

/-- Adds tokens until the next one may be taken. -/
def fill : (fuel : Nat) → Scanner → Except Error Scanner
  | 0, s => .ok s
  | fuel + 1, s =>
    if s.queue.length < 3 then s.fetch >>= fill fuel
    else
      match s.headKey? with
      | none => .ok s
      | some k =>
        if s.isStale k then if k.required then .error (s.noColon k) else .ok s
        else s.fetch >>= fill fuel

/-- The next token. -/
def peek (s : Scanner) : Except Error (Token × Scanner) := do
  let s ← s.fill (s.input.rest.length + 8)
  return (s.queue.headD ⟨.streamEnd, s.mark⟩, s)

/-- Takes the next token off. -/
def advance (s : Scanner) : Scanner :=
  { s with queue := s.queue.tail, taken := s.taken + 1 }

end Scanner

end NovelScript.Yaml
