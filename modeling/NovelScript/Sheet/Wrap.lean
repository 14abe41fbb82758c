import NovelScript.Text.Utf8

/-!
# Wrapped lines

A line that is wider than the column is cut into rows. The blanks in front of the line are repeated
on the rows after the first, at most half a row of them, so that nesting stays visible.
-/

namespace NovelScript.Sheet

/-- The characters in pieces of `width`, the last one perhaps shorter; a width of zero counts as
one. -/
def pieces (width : Nat) (cs : List Char) : List (List Char) :=
  match cs with
  | [] => []
  | c :: r => (c :: r.take (width - 1)) :: pieces width (r.drop (width - 1))
termination_by cs.length
decreasing_by
  simp only [List.length_cons, List.length_drop]
  omega

/-- How many blanks are repeated on each further row. -/
def lead (columns : Nat) (cs : List Char) : Nat :=
  min (cs.takeWhile (· == ' ')).length (columns / 2)

/-- The rows of a line. A line that fits stays as it is. -/
def wrap (columns : Nat) (line : Text) : List Text :=
  let cs := Text.decode line
  if cs.length ≤ columns then [line]
  else
    let blanks := List.replicate (lead columns cs) ' '
    Text.encode (cs.take columns) ::
      (pieces (columns - lead columns cs) (cs.drop columns)).map fun p => Text.encode (blanks ++ p)

end NovelScript.Sheet
