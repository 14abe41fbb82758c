import Mathlib.Data.List.SplitBy
import NovelScript.Markdown.Inline
import NovelScript.Proofs.Text.Space

/-!
# Running text by its leaves

Emphasis, links and images are only there for the eye: what running text comes to depends on its
leaves alone, the bytes and the inline code that stand in it from left to right.

* Leaves are cut into groups behind every line break and on both sides of inline code
  (`Inline.Leaf.joins`), and each group becomes one piece or none (`pieceOf?`).
* Reading a tree is reading its leaves (**`readAll_eq_foldl`**), however deep they are nested.
* While leaves are read, the closed groups are the pieces so far and the open group is the line
  (`Reading.Shows`, kept by every leaf in `Reading.Shows.read`).
* **`piecesOf_eq_leaves`**: so the pieces of running text are those of the groups of its leaves.
-/

namespace NovelScript.Markdown

open Text (blank newline trim)

/-! ## Leaves -/

/-- A leaf of running text. -/
inductive Inline.Leaf where
  /-- Bytes of a line, which ends behind them when it `breaks`. -/
  | bytes (content : Text) (breaks : Bool)
  /-- Inline code. -/
  | code (source : Text)
deriving DecidableEq

namespace Inline.Leaf

/-- Does a line end behind the leaf? -/
def breaks : Inline.Leaf → Bool
  | bytes _ b => b
  | code _ => false

/-- Is it inline code? -/
def isCode : Inline.Leaf → Bool
  | bytes _ _ => false
  | code _ => true

/-- Its bytes. -/
def content : Inline.Leaf → Text
  | bytes s _ => s
  | code s => s

/-- Do two neighbours stand in one group? There is a cut behind every line break and on both sides of
inline code. -/
def joins (x y : Inline.Leaf) : Bool :=
  !x.breaks && !x.isCode && !y.isCode

/-- Every leaf goes on with the open group or closes it. The cases are those of the leaf: text, a
break, and code, which is a piece of its own. -/
def read : Inline.Leaf → Reading → Reading
  | bytes s b, r => if b then (r.add s).flush else r.add s
  | code s, r => r.code s

end Inline.Leaf

mutual

/-- The leaves of a part, from left to right. -/
def Inline.leaves : Inline → List Inline.Leaf
  | .text source breaks => [.bytes source breaks]
  | .string value => [.bytes value false]
  | .code source => [.code source]
  | .address label => [.bytes label false]
  | .markup source => [.bytes source false]
  | .emphasis body => leavesOf body
  | .link body => leavesOf body
  | .image body => leavesOf body

/-- The leaves of parts one after the other. -/
def leavesOf : List Inline → List Inline.Leaf
  | [] => []
  | part :: more => part.leaves ++ leavesOf more

end

mutual

/-- To read an inline tree is to read its leaves from left to right. The proof follows the tree,
with one case for each kind of node. -/
theorem Inline.read_eq_foldl : (part : Inline) → (r : Reading) →
    part.read r = part.leaves.foldl (fun r l => l.read r) r
  | .text _ _, _ => rfl
  | .string _, _ => rfl
  | .code _, _ => rfl
  | .address _, _ => rfl
  | .markup _, _ => rfl
  | .emphasis body, r => readAll_eq_foldl body r
  | .link body, r => readAll_eq_foldl body r
  | .image body, r => readAll_eq_foldl body r

/-- **Reading a tree is reading its leaves.** -/
theorem readAll_eq_foldl : (body : List Inline) → (r : Reading) →
    readAll body r = (leavesOf body).foldl (fun r l => l.read r) r
  | [], _ => rfl
  | part :: more, r => by
      rw [readAll, leavesOf, List.foldl_append, part.read_eq_foldl r, readAll_eq_foldl more]

end

/-! ## Groups of leaves -/

/-- The piece of a line: none when there is nothing to see. -/
def lineOf? (source : Text) : Option Piece :=
  let s := trim (plain source)
  if s.isEmpty then none else some ⟨.text, s⟩

/-- The piece of a group of leaves: inline code as it is, with its line breaks as blanks, and the
bytes of any other group as one line. -/
def pieceOf? : List Inline.Leaf → Option Piece
  | [.code source] => some ⟨.codeInline, source.map fun b => if b = newline then blank else b⟩
  | group => lineOf? (group.flatMap Inline.Leaf.content)

/-- The pieces of leaves: those of their groups, in order. -/
def piecesOfLeaves (ls : List Inline.Leaf) : List Piece :=
  (ls.splitBy Inline.Leaf.joins).filterMap pieceOf?

/-- Leaves with a cut between them become pieces on their own. -/
theorem piecesOfLeaves_append {ls more : List Inline.Leaf}
    (hcut : ∀ x ∈ ls.getLast?, ∀ y ∈ more.head?, x.joins y = false) :
    piecesOfLeaves (ls ++ more) = piecesOfLeaves ls ++ piecesOfLeaves more := by
  unfold piecesOfLeaves
  rw [List.splitBy_append hcut, List.filterMap_append]

/-- Leaves without code make up one line of text. -/
theorem pieceOf?_of_bytes {ls : List Inline.Leaf} (hbytes : ∀ l ∈ ls, l.isCode = false) :
    pieceOf? ls = lineOf? (ls.flatMap Inline.Leaf.content) := by
  unfold pieceOf?
  split
  · rename_i source
    cases hbytes (.code source) List.mem_cons_self
  · rfl

/-- Bytes without a line break before the last of them are one line, which becomes one piece or,
when it is blank, none. -/
theorem piecesOfLeaves_line {ls : List Inline.Leaf} (hbytes : ∀ l ∈ ls, l.isCode = false)
    (hbreaks : ∀ l ∈ ls.dropLast, l.breaks = false) :
    piecesOfLeaves ls = (lineOf? (ls.flatMap Inline.Leaf.content)).toList := by
  by_cases hne : ls = []
  · subst hne
    decide
  · have hchain : ls.IsChain fun x y => x.joins y = true := by
      rw [List.isChain_iff_getElem]
      intro i hi
      have hx : ls[i] ∈ ls.dropLast := by
        rw [← List.getElem_dropLast (by rw [List.length_dropLast]; omega)]
        exact List.getElem_mem _
      have hy : ls[i + 1] ∈ ls := List.getElem_mem hi
      simp [Inline.Leaf.joins, hbreaks _ hx, hbytes _ (List.dropLast_subset ls hx), hbytes _ hy]
    rw [piecesOfLeaves, List.splitBy_of_isChain hne hchain, ← pieceOf?_of_bytes hbytes]
    cases hpiece : pieceOf? ls with
    | none => simp [hpiece]
    | some piece => simp [hpiece]

/-- A code span is one piece, with blanks where the source has line breaks. -/
theorem piecesOfLeaves_code (source : Text) :
    piecesOfLeaves [.code source] =
      [⟨.codeInline, source.map fun b => if b = newline then blank else b⟩] := rfl

/-! ## Reading leaves -/

/-- At its end a line becomes a piece, if anything is in it. -/
theorem Reading.flush_eq (r : Reading) :
    r.flush = { line := [], pieces := r.pieces ++ (lineOf? r.line).toList } := by
  unfold flush lineOf?
  dsimp only
  split
  · simp
  · rfl

/-- What a reading has seen: the leaves of closed groups, and behind them those of the group that is
still open. -/
structure Reading.Shows (r : Reading) (closed opened : List Inline.Leaf) : Prop where
  /-- The open group is the line. -/
  line : r.line = opened.flatMap Inline.Leaf.content
  /-- The closed groups are the pieces. -/
  pieces : r.pieces = piecesOfLeaves closed
  /-- There is no code in the open group. -/
  bytes : ∀ l ∈ opened, l.isCode = false
  /-- No line ends in it. -/
  unbroken : ∀ l ∈ opened, l.breaks = false
  /-- The closed groups end in a cut. -/
  cut : ∀ x ∈ closed.getLast?, ∀ y, x.joins y = false

namespace Reading.Shows

variable {r : Reading} {closed opened : List Inline.Leaf}

/-- Before anything is read nothing is shown. -/
theorem start : Shows {} [] [] where
  line := rfl
  pieces := rfl
  bytes := by simp
  unbroken := by simp
  cut := by simp

/-- Closing the open group, perhaps with a line break behind more of it, makes it a piece. -/
theorem closes (h : r.Shows closed opened) {ls : List Inline.Leaf}
    (hbytes : ∀ l ∈ ls, l.isCode = false)
    (hbreaks : ∀ l ∈ (opened ++ ls).dropLast, l.breaks = false) :
    piecesOfLeaves (closed ++ (opened ++ ls)) =
      r.pieces ++ (lineOf? (r.line ++ ls.flatMap Inline.Leaf.content)).toList := by
  have hopened : ∀ l ∈ opened ++ ls, l.isCode = false := by
    intro l hl
    rcases List.mem_append.mp hl with hl | hl
    · exact h.bytes l hl
    · exact hbytes l hl
  rw [piecesOfLeaves_append fun x hx y _ => h.cut x hx y, piecesOfLeaves_line hopened hbreaks,
    List.flatMap_append, h.pieces, h.line]

/-- At the end of a line all leaves that were read are shown. -/
theorem flush (h : r.Shows closed opened) :
    r.flush.pieces = piecesOfLeaves (closed ++ opened) := by
  have hnone : ∀ l ∈ ([] : List Inline.Leaf), l.isCode = false := by simp
  have hpieces := h.closes hnone fun l hl =>
    h.unbroken l (by simpa using List.dropLast_subset _ hl)
  rw [List.append_nil, List.flatMap_nil, List.append_nil] at hpieces
  rw [r.flush_eq, hpieces]

/-- Every leaf goes on with the open group or closes it. -/
theorem read (h : r.Shows closed opened) (l : Inline.Leaf) :
    ∃ closed' opened', closed' ++ opened' = closed ++ opened ++ [l] ∧
      (l.read r).Shows closed' opened' := by
  cases l with
  | bytes s b =>
    cases b with
    -- bytes without a break stay in the group that is open
    | false =>
      refine ⟨closed, opened ++ [.bytes s false], by simp, ?_⟩
      constructor
      · simp [Inline.Leaf.read, Reading.add, h.line, Inline.Leaf.content]
      · exact h.pieces
      · intro l hl
        rcases List.mem_append.mp hl with hl | hl
        · exact h.bytes l hl
        · rw [List.mem_singleton.mp hl]
          rfl
      · intro l hl
        rcases List.mem_append.mp hl with hl | hl
        · exact h.unbroken l hl
        · rw [List.mem_singleton.mp hl]
          rfl
      · exact h.cut
    -- a break closes the group, bytes included
    | true =>
      refine ⟨closed ++ (opened ++ [.bytes s true]), [], by simp, ?_⟩
      constructor
      · simp [Inline.Leaf.read, Reading.flush_eq]
      · rw [h.closes (by simp [Inline.Leaf.isCode]) (by simpa using h.unbroken)]
        simp [Inline.Leaf.read, Reading.flush_eq, Reading.add, Inline.Leaf.content]
      · simp
      · simp
      · intro x hx y
        obtain rfl : x = .bytes s true := by simpa [eq_comm] using hx
        rfl
  -- code closes the group in front of it and is a group of its own
  | code s =>
    refine ⟨closed ++ opened ++ [.code s], [], by simp, ?_⟩
    constructor
    · simp [Inline.Leaf.read, Reading.code, Reading.flush_eq]
    · have hcode : ∀ x : Inline.Leaf, x.joins (.code s) = false := by
        simp [Inline.Leaf.joins, Inline.Leaf.isCode]
      rw [piecesOfLeaves_append (by simp [hcode]), ← h.flush, piecesOfLeaves_code]
      rfl
    · simp
    · simp
    · intro x hx y
      obtain rfl : x = .code s := by simpa [eq_comm] using hx
      simp [Inline.Leaf.joins, Inline.Leaf.isCode]

/-- Reading any number of leaves goes on showing those that were read: by induction on the leaves,
with what is still open kept apart from what is closed. -/
theorem foldl (h : r.Shows closed opened) (ls : List Inline.Leaf) :
    ∃ closed' opened', closed' ++ opened' = closed ++ opened ++ ls ∧
      (ls.foldl (fun r l => l.read r) r).Shows closed' opened' := by
  induction ls generalizing r closed opened with
  | nil => exact ⟨closed, opened, by simp, h⟩
  | cons l ls ih =>
    obtain ⟨closed', opened', hseen, hl⟩ := h.read l
    obtain ⟨closed'', opened'', hall, hrest⟩ := ih hl
    exact ⟨closed'', opened'', by simpa [hseen] using hall, hrest⟩

end Reading.Shows

/-! ## Pieces -/

/-- **The pieces of a body are those of its leaves**, so the nesting of marks does not show in
them. -/
theorem piecesOf_eq_piecesOfLeaves (body : List Inline) :
    piecesOf body = piecesOfLeaves (leavesOf body) := by
  obtain ⟨closed, opened, hseen, h⟩ := Reading.Shows.start.foldl (leavesOf body)
  rw [piecesOf, readAll_eq_foldl, h.flush, hseen]
  rfl

/-- The piece of a code span has no line break. -/
theorem newline_not_mem_code (source : Text) :
    newline ∉ source.map fun b => if b = newline then blank else b := by
  intro hmem
  obtain ⟨b, -, hb⟩ := List.mem_map.mp hmem
  split at hb
  · exact absurd hb (by decide)
  · contradiction

/-- A piece is a line with something to see and no white space around it, or inline code without
line breaks. -/
def Piece.Tidy (piece : Piece) : Prop :=
  (piece.kind = .text ∧ piece.content ≠ [] ∧
      ∀ w ∈ Text.spaces, ¬ w <+: piece.content ∧ ¬ w <:+ piece.content) ∨
    piece.kind = .codeInline ∧ newline ∉ piece.content

/-- A piece of text is tidy: trimmed, not empty and on one line. -/
theorem tidy_of_lineOf? {source : Text} {piece : Piece} (h : lineOf? source = some piece) :
    Piece.Tidy piece := by
  unfold lineOf? at h
  dsimp only at h
  split at h
  · cases h
  · rename_i hne
    cases h
    refine .inl ⟨rfl, by simpa using hne, fun w hw => ?_⟩
    exact ⟨Text.not_isPrefix_trim hw _, Text.not_isSuffix_trim hw _⟩

/-- Whatever piece a group of leaves gives is tidy. -/
theorem tidy_of_pieceOf? {group : List Inline.Leaf} {piece : Piece} (h : pieceOf? group = some piece) :
    Piece.Tidy piece := by
  unfold pieceOf? at h
  split at h
  · cases h
    exact .inr ⟨rfl, newline_not_mem_code _⟩
  · exact tidy_of_lineOf? h

/-- All pieces of a body are tidy. -/
theorem tidy_piecesOf (body : List Inline) : ∀ piece ∈ piecesOf body, Piece.Tidy piece := by
  intro piece hpiece
  rw [piecesOf_eq_piecesOfLeaves, piecesOfLeaves] at hpiece
  obtain ⟨group, -, hgroup⟩ := List.mem_filterMap.mp hpiece
  exact tidy_of_pieceOf? hgroup

end NovelScript.Markdown
