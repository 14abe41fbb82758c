import NovelScript.Markdown.Scan

/-!
# Link definitions

A paragraph may begin with definitions of link labels, `[label]: destination "title"`. They leave
the paragraph; what a label leads to does not matter here, only that it is defined.
-/

namespace NovelScript.Markdown

/-- A definition that was read: the key of its label, the lines it takes, and where reading goes
on. -/
structure Definition where
  /-- Key of the label. -/
  key : Text
  /-- Its first line. -/
  first : Nat
  /-- The line behind it. -/
  stop : Nat
  /-- Where reading goes on. -/
  next : Nat

/-- Nothing but white space from `i` to the end of its line. -/
def restIsBlank (s : Source) (i : Nat) : Bool :=
  isBlankLine (s.slice i (s.lineEnd i))

/-- The end of a definition whose destination ends at `i`. A title that does not work out is no part
of the definition when it stands on a line of its own. -/
def definitionEnd? (s : Source) (first : Nat) (key : Text) (i : Nat) : Option Definition :=
  let ownLine := restIsBlank s i
  let line := s.lineNumber i
  let j := s.skipSpaces i
  let without (stop next : Nat) : Option Definition :=
    if ownLine then some ⟨key, first, stop, next⟩ else none
  match if j < s.size then Source.titleCloser? (s.byteAt j) else none with
  | none => without (line + 1) j
  | some closer =>
    if i = j then none
    else match s.findClosure (s.byteAt j) closer (j + 1) (j + 1) with
      | .error stopped => without (line + 1) (s.lineEnd stopped)
      | .ok k =>
        if restIsBlank s (k + 1) then some ⟨key, first, s.lineNumber (k + 1) + 1, k + 1⟩
        else without line (k + 1)

/-- The definition that starts at `i`, if one does. -/
def definition? (s : Source) (i : Nat) : Option Definition :=
  let i := s.skipSpaces i
  if i < s.size && s.byteAt i = 0x5B then
    match s.findClosure 0x5B 0x5D (i + 1) (i + 1) with
    | .error _ => none
    | .ok j =>
      let label := s.slice (i + 1) j
      if isBlankLine label || !(j + 1 < s.size && s.byteAt (j + 1) = 0x3A) then none
      else match s.destinationEnd? (s.skipSpaces (j + 2)) with
        | none => none
        | some k => definitionEnd? s (s.lineNumber i) (labelKey label) k
  else none

/-- The definitions from `i` on; at most `fuel` of them. -/
def definitionsFrom (s : Source) : (fuel : Nat) → (i : Nat) → List Definition
  | 0, _ => []
  | fuel + 1, i =>
    match definition? s i with
    | some d => d :: definitionsFrom s fuel d.next
    | none => []

/-- The lines that are left when the lines of the definitions are gone; `gone` lines in front of
`lines` are gone already. -/
def withoutDefinitions {α : Type} (gone : Nat) : List Definition → List α → List α
  | [], lines => lines
  | d :: more, lines =>
    if lines.isEmpty then []
    else
      let stop := max d.stop (d.first + 1)
      withoutDefinitions stop more (lines.take (d.first - gone) ++ lines.drop (stop - gone))

/-- The definitions at the start of a paragraph, given by its lines. -/
def definitionsOf (lines : List Text) : List Definition :=
  let s : Source := lines.flatten.toArray
  definitionsFrom s (lines.length + 1) 0

end NovelScript.Markdown
