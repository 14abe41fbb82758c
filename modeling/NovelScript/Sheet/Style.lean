import NovelScript.Text.Space

/-!
# Styles of lines

A printed script shows at a glance where labels and menus start and what is a comment.
-/

namespace NovelScript.Sheet

/-- A colour by its parts of red, green and blue, from 0 to 255. -/
structure Color where
  /-- The red part. -/
  red : Int := 0
  /-- The green part. -/
  green : Int := 0
  /-- The blue part. -/
  blue : Int := 0
deriving DecidableEq, Repr

/-- The faces of the type. -/
inductive Face where
  /-- The plain face. -/
  | plain
  /-- The bold face. -/
  | bold
  /-- The slanted face. -/
  | slanted
deriving DecidableEq, Repr

/-- The face and the colour of a line: labels and menus are bold, comments slanted and in a colour
of their own. -/
def lineStyle (comment : Color) (line : Text) : Face × Color :=
  let s := Text.trim line
  if Text.startsWith (Text.lit "label ") s || Text.startsWith (Text.lit "menu:") s then (.bold, {})
  else if Text.startsWith (Text.lit "#") s then (.slanted, comment)
  else (.plain, {})

end NovelScript.Sheet
