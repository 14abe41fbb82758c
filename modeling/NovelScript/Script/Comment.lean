import NovelScript.Text.Space

/-!
# Comments on a line

The first hash sign of a line starts its comment; later ones belong to the comment. Statement and
comment are trimmed, and a comment goes behind the statement in the script.
-/

namespace NovelScript.Script

/-- The statement and the comment of a line. -/
def splitComment (s : Text) : Text × Text :=
  match Text.cut [Text.hash] s with
  | some (content, comment) => (Text.trim content, Text.trim comment)
  | none => (Text.trim s, [])

/-- What follows a statement in the script: nothing, or its comment. -/
def commentSuffix (comment : Text) : Text :=
  if comment.isEmpty then [] else Text.lit " # " ++ comment

end NovelScript.Script
