import NovelScript.Markdown.Inline
import NovelScript.Text.Punctuation

/-!
# Emphasis

Runs of stars or underscores open and close emphasis, depending on what stands around them. Parts of
running text are paired from left to right: a run that may close looks back for the nearest run of
the same mark that may open, both give up one or two of their marks, and what was between them is
emphasized. Marks that find no partner are text.
-/

namespace NovelScript.Markdown

/-- A run of marks that may open or close emphasis. -/
structure Run where
  /-- The mark. -/
  mark : UInt8
  /-- How many of its marks are left. -/
  length : Nat
  /-- How many it had in the source. -/
  whole : Nat
  /-- May it open? -/
  canOpen : Bool
  /-- May it close? -/
  canClose : Bool

/-- A white-space character, as far as emphasis is concerned. -/
def isGap (c : Char) : Bool :=
  c = ' ' || ('\t' ≤ c && c ≤ '\r') || Text.isSpaceChar c

/-- The run of `length` marks between two characters. -/
def Run.between (mark : UInt8) (length : Nat) (before after : Char) : Run :=
  let left := !isGap after &&
    (!Text.isSymbol after || isGap before || Text.isSymbol before)
  let right := !isGap before &&
    (!Text.isSymbol before || isGap after || Text.isSymbol after)
  if mark = 0x5F then
    ⟨mark, length, length, left && (!right || Text.isSymbol before),
      right && (!left || Text.isSymbol after)⟩
  else ⟨mark, length, length, left, right⟩

namespace Run

/-- The marks that are left, as text. -/
def text (r : Run) : Inline :=
  .text (List.replicate r.length r.mark) false

/-- How many marks an opener and a closer give up. A run that could do both pairs with another one
only where their lengths cannot be confused: a sum that is a multiple of three needs two such
lengths. -/
def consumption (opener closer : Run) : Nat :=
  if (opener.canClose || closer.canOpen) && (opener.whole + closer.whole) % 3 == 0 &&
      closer.whole % 3 != 0 then 0
  else if 2 ≤ opener.length && 2 ≤ closer.length then 2 else 1

/-- May this run open what a run of `closer`'s mark closes? -/
def opensFor (opener closer : Run) : Bool :=
  opener.canOpen && opener.mark == closer.mark

end Run

/-- Open runs, innermost first, each with what follows it, last first; and what is in front of all
of them. -/
structure Pairing where
  /-- The open runs. -/
  openRuns : List (Run × List Inline) := []
  /-- What is in front of them, last first. -/
  base : List Inline := []

namespace Pairing

/-- Adds parts, last first, behind everything. -/
def add (p : Pairing) (parts : List Inline) : Pairing :=
  match p.openRuns with
  | [] => { p with base := parts ++ p.base }
  | (r, body) :: more => { p with openRuns := (r, parts ++ body) :: more }

/-- Open runs with what follows them as plain parts, last first. -/
def flat (openRuns : List (Run × List Inline)) : List Inline :=
  openRuns.flatMap fun (r, body) => body ++ [r.text]

/-- Closes with `closer`, at most `fuel` times. -/
def close : (fuel : Nat) → Run → Pairing → Pairing
  | 0, _, p => p
  | fuel + 1, closer, p =>
    if closer.length = 0 then p
    else
      let fits (e : Run × List Inline) := e.1.opensFor closer && 0 < e.1.consumption closer
      let inner := p.openRuns.takeWhile fun e => !fits e
      match p.openRuns.drop inner.length with
      | [] =>
        let known := p.openRuns.any fun e => e.1.opensFor closer
        if !known && !closer.canOpen then p.add [closer.text]
        else { p with openRuns := (closer, []) :: p.openRuns }
      | (opener, body) :: outer =>
        let n := opener.consumption closer
        let part := Inline.emphasis (flat inner ++ body).reverse
        let left := { opener with length := opener.length - n }
        let rest : Pairing :=
          if left.length = 0 then ({ p with openRuns := outer } : Pairing).add [part]
          else { p with openRuns := (left, [part]) :: outer }
        close fuel { closer with length := closer.length - n } rest

/-- Adds a run: it closes what it can and opens what is left. -/
def run (p : Pairing) (r : Run) : Pairing :=
  if r.canClose then close (r.length + 1) r p else { p with openRuns := (r, []) :: p.openRuns }

/-- Everything in order. -/
def parts (p : Pairing) : List Inline :=
  (flat p.openRuns ++ p.base).reverse

end Pairing

/-- A part of running text before runs are paired. -/
inductive Part where
  /-- A finished part. -/
  | done (part : Inline)
  /-- A run of marks. -/
  | run (r : Run)
  /-- An opening bracket at a position, of a link or an image. -/
  | bracket (image : Bool) (position : Nat)

/-- A bracket as text. -/
def bracketText (image : Bool) : Inline :=
  .text (if image then Text.lit "![" else Text.lit "[") false

/-- Parts in order, with runs paired and brackets as text. -/
def paired (ps : List Part) : List Inline :=
  (ps.foldl (fun p part => match part with
    | .done part => p.add [part]
    | .run r => p.run r
    | .bracket image _ => p.add [bracketText image]) ({} : Pairing)).parts

end NovelScript.Markdown
