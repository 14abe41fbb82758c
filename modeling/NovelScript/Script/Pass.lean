import NovelScript.Markdown.Token
import NovelScript.Script.Statement
import NovelScript.Text.Decimal

/-!
# One pass over a token stream

The pass reads tokens from left to right and writes script lines. It keeps the current level of
indentation and remembers, for each open list and each open quote, what its end has to undo. A
heading consumes the token behind it, a list item the two behind it; what is missing there, and an
end without its beginning, stop the pass with an error and no text.

A token and what follows it decide on an action, an action changes the state, and the run is
repeated steps of this kind on the tokens that are left.
-/

namespace NovelScript.Script

open Markdown (Kind Token)

/-! ## Errors -/

/-- What a token needs behind it. -/
inductive Need where
  /-- The text of a heading. -/
  | headingText
  /-- The first item of a list. -/
  | firstItem
  /-- The label of a list item. -/
  | itemLabel
deriving DecidableEq

/-- The need in words. -/
def Need.text : Need → Text
  | .headingText => Text.lit "heading text"
  | .firstItem => Text.lit "first list item"
  | .itemLabel => Text.lit "list item label"

/-- Why a pass stops. -/
inductive PassError where
  /-- A level of indentation below zero. -/
  | invalidIndent (level : Int)
  /-- The token of this kind at this index lacks what it needs. -/
  | malformed (index : Nat) (kind : Kind) (need : Need)
deriving DecidableEq

/-- What is said about a stopped pass. -/
def PassError.message : PassError → Text
  | .invalidIndent level => Text.lit "invalid indent level: " ++ Text.ofInt level
  | .malformed index kind need =>
    Text.lit "malformed document: " ++ kind.name ++ Text.lit " at token " ++ Text.ofNat index ++
      Text.lit " needs " ++ need.text

/-! ## Indentation -/

/-- The blanks in front of a line at a level. -/
def margin (level : Nat) : Text :=
  List.replicate (4 * level) Text.blank

/-- The blanks of any level; there are none below zero. -/
def indent (level : Int) : Except PassError Text :=
  if level < 0 then .error (.invalidIndent level) else .ok (margin level.toNat)

/-! ## The state -/

/-- A pass between two tokens. -/
structure Pass where
  /-- What is written so far. -/
  out : Text := []
  /-- The level of indentation. -/
  level : Int := 0
  /-- Does the innermost open list hold branches? -/
  conditional : Bool := false
  /-- For each open list, innermost first, whether it holds branches. -/
  lists : List Bool := []
  /-- For each open quote, innermost first, whether it lowered the level. -/
  quotes : List Bool := []
deriving DecidableEq

namespace Pass

/-- Writes text. -/
def write (p : Pass) (s : Text) : Pass :=
  { p with out := p.out ++ s }

/-- Writes what `f` makes of the blanks of the current level. -/
def indented (p : Pass) (f : Text → Text) : Except PassError Pass :=
  (indent p.level).map fun blanks => p.write (f blanks)

/-- Writes a line at the current level. -/
def line (p : Pass) (s : Text) : Except PassError Pass :=
  p.indented fun blanks => blanks ++ s ++ [Text.newline]

/-- One level down. -/
def nest (p : Pass) : Pass :=
  { p with level := p.level + 1 }

/-- One level up, unless there is none. -/
def dedent (p : Pass) : Except PassError Pass :=
  if p.level = 0 then .error (.invalidIndent (-1)) else .ok { p with level := p.level - 1 }

end Pass

/-! ## Rules -/

/-- What a pass needs to know: the options, their speakers and how headings become labels. -/
structure Setting where
  /-- The options. -/
  options : Options
  /-- The speakers of the cast. -/
  speakers : Speakers
  /-- Makes the name of a label from a heading. -/
  label : Text → Text

/-- The setting of options. -/
def Setting.of (o : Options) (label : Text → Text) : Setting :=
  ⟨o, Speakers.ofCast o.cast, label⟩

namespace Pass

/-- The rest of an escaped token goes to the script as it is. -/
def escape (s : Setting) (p : Pass) (content : Text) : Except PassError Pass :=
  p.line (Text.trim (content.drop s.options.marks.ignore.length))

/-- A quote extends the line before it: its keyword is written and the quoted text follows one level
up, so that it stands right behind the keyword. At level zero there is no level to give up. -/
def openQuote (p : Pass) : Except PassError Pass :=
  (p.indented fun blanks => blanks ++ Text.lit "extend ").map fun q =>
    { q with
      level := if 0 < p.level then p.level - 1 else p.level
      quotes := (0 < p.level) :: p.quotes }

/-- The end of a quote gives back the level that its start took. -/
def closeQuote (p : Pass) : Pass :=
  match p.quotes with
  | [] => p
  | lowered :: quotes =>
    { p with level := if lowered then p.level + 1 else p.level, quotes := quotes }

/-- Code line by line behind the blanks of a level, the first line with the blanks twice. -/
def codeText (content blanks : Text) : Text :=
  let lines := (Text.splitAt Text.newline (Text.trim content)).map (blanks ++ ·)
  blanks ++ Text.join [Text.newline] lines ++ [Text.newline]

/-- Code goes to the script line by line at the current level. -/
def code (p : Pass) (content : Text) : Except PassError Pass :=
  p.indented (codeText content)

/-- The line for a piece of running text; `none` for pieces of other kinds. -/
def pieceLine (s : Setting) (piece : Markdown.Piece) : Option Text :=
  let (content, comment) := splitComment piece.content
  match piece.kind with
  | .text => some (statement s.options s.speakers content ++ commentSuffix comment)
  | .codeInline => some (Text.lit "$ " ++ content ++ commentSuffix comment)
  | _ => none

/-- One line for each piece. -/
def pieces (s : Setting) (p : Pass) (ps : List Markdown.Piece) : Except PassError Pass :=
  (ps.filterMap (pieceLine s)).foldlM line p

/-- The line that starts a label. -/
def labelLine (s : Setting) (content : Text) : Text :=
  Text.lit "label " ++ s.label content ++ Text.lit ":" ++ [Text.newline]

/-- A heading starts a label and the level after it is one. -/
def heading (s : Setting) (p : Pass) (content : Text) : Pass :=
  let q := if p.out.isEmpty then p else p.write [Text.newline]
  { q.write (labelLine s content) with level := 1 }

/-- A list whose first label starts with a question mark holds branches and needs no line of its
own; any other list is a menu. -/
def openList (p : Pass) (first : Text) : Except PassError Pass :=
  let branches := Text.startsWith [question] first
  let q := { p with lists := branches :: p.lists, conditional := branches }
  if branches then .ok q else (q.line (Text.lit "menu:")).map nest

/-- The end of a list closes its menu. -/
def closeList (p : Pass) : Except PassError Pass :=
  match p.lists with
  | [] => .ok p
  | branches :: lists =>
    let q := { p with lists := lists, conditional := lists.headD false }
    if branches then .ok q else q.dedent

/-- The header of an item with this label, and its comment. -/
def headerText (label : Text) : Text :=
  let (choice, comment) := splitComment label
  itemHeader choice ++ commentSuffix comment

/-- An item writes its header and its body is one level down. -/
def openItem (p : Pass) (label : Text) : Except PassError Pass :=
  (p.line (headerText label)).map nest

end Pass

/-! ## Actions -/

/-- What a token makes the pass do, with everything that is read from the tokens. -/
inductive Action where
  | escape (content : Text)
  | openQuote
  | code (content : Text)
  | pieces (ps : List Markdown.Piece)
  | heading (content : Text)
  | openList (first : Text)
  | openItem (label : Text)
  | closeItem
  | closeList
  | closeQuote
  | remark (content : Text)
  /-- Nothing. -/
  | skip
deriving DecidableEq

/-- The text of the inline token at place `n` of what follows; `none` when there is no token or it
is of another kind. -/
def inlineAt? (rest : List Token) (n : Nat) : Option Text :=
  (rest[n]?.filter Token.isInline).map Token.content

/-- The action of a token that needs nothing behind it. -/
def Action.ofToken (t : Token) : Action :=
  match t.kind with
  | .blockquoteOpen => .openQuote
  | .fence => .code t.content
  | .inline => .pieces t.pieces
  | .listItemClose => .closeItem
  | .bulletListClose => .closeList
  | .blockquoteClose => .closeQuote
  | .htmlBlock => .remark t.content
  | _ => .skip

/-- Is the token escaped? Then it goes to the script as it is, whatever its kind is. -/
def Setting.escapes (s : Setting) (t : Token) : Bool :=
  Text.startsWith s.options.marks.ignore t.content

/-- The action for a token with `rest` behind it, or what is missing there. -/
def actionOf (s : Setting) (t : Token) (rest : List Token) : Except Need Action :=
  if s.escapes t then .ok (.escape t.content)
  else match t.kind with
    | .headingOpen =>
      match inlineAt? rest 0 with
      | some content => .ok (.heading content)
      | none => .error .headingText
    | .bulletListOpen =>
      match rest[2]? with
      | some first => .ok (.openList first.content)
      | none => .error .firstItem
    | .listItemOpen =>
      match inlineAt? rest 1 with
      | some label => .ok (.openItem label)
      | none => .error .itemLabel
    | _ => .ok (.ofToken t)

/-- How many of the tokens behind its own an action consumes. -/
def Action.extra : Action → Nat
  | .heading _ => 1
  | .openItem _ => 2
  | _ => 0

/-- What an action does to the pass. -/
def Action.perform (s : Setting) : Action → Pass → Except PassError Pass
  | .escape content, p => p.escape s content
  | .openQuote, p => p.openQuote
  | .code content, p => p.code content
  | .pieces ps, p => p.pieces s ps
  | .heading content, p => .ok (p.heading s content)
  | .openList first, p => p.openList first
  | .openItem label, p => p.openItem label
  | .closeItem, p => p.dedent
  | .closeList, p => p.closeList
  | .closeQuote, p => .ok p.closeQuote
  | .remark content, p => p.line (Script.remark content)
  | .skip, p => .ok p

namespace Pass

/-- The step for a token at `index` with `rest` behind it: the state after it, and how many of the
tokens behind it were consumed as well. -/
def step (s : Setting) (index : Nat) (t : Token) (rest : List Token) (p : Pass) :
    Except PassError (Pass × Nat) :=
  match actionOf s t rest with
  | .error need => .error (.malformed index t.kind need)
  | .ok a => (a.perform s p).map (·, a.extra)

/-- The run over the tokens from `index` on. -/
def run (s : Setting) (index : Nat) (tokens : List Token) (p : Pass) : Except PassError Pass :=
  match tokens with
  | [] => .ok p
  | t :: rest =>
    match step s index t rest p with
    | .error e => .error e
    | .ok (q, extra) => run s (index + 1 + extra) (rest.drop extra) q
termination_by tokens.length
decreasing_by simp only [List.length_cons, List.length_drop]; omega

end Pass

/-- The script of a token stream. -/
def ofTokens (s : Setting) (tokens : List Token) : Except PassError Text :=
  (Pass.run s 0 tokens {}).map (·.out)

end NovelScript.Script
