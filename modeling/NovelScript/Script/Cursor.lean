import NovelScript.Markdown.Token
import NovelScript.Text.Decimal

/-!
# A cursor on a token stream

A position in a stream that may be moved anywhere; positions are 64-bit numbers and wrap.
-/

namespace NovelScript.Script

open Markdown (Token)

/-- A position in a stream. -/
structure Cursor where
  /-- The stream. -/
  tokens : List Token
  /-- Index of the current token. -/
  pos : Int := 0

namespace Cursor

/-- Is the position behind the last token? -/
def done (c : Cursor) : Bool :=
  (c.tokens.length : Int) ≤ c.pos

/-- The token at an index. -/
def at? (c : Cursor) (i : Int) : Option Token :=
  if i < 0 then none else c.tokens[i.toNat]?

/-- The current token. -/
def current? (c : Cursor) : Option Token :=
  c.at? c.pos

/-- The token `offset` places ahead. -/
def peek? (c : Cursor) (offset : Int) : Option Token :=
  c.at? (Text.wrapInt64 (c.pos + offset))

/-- Moves `n` tokens forward. -/
def advance (c : Cursor) (n : Int) : Cursor :=
  { c with pos := Text.wrapInt64 (c.pos + n) }

end Cursor

end NovelScript.Script
