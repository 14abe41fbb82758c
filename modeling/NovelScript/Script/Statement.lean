import NovelScript.Script.Comment
import NovelScript.Script.Speaker

/-!
# Statements

How single lines of a document read in the script: calls, jumps and dialogue, the header of a choice
or branch, and comments.
-/

namespace NovelScript.Script

/-- A line without its comment: a call, a jump or dialogue. -/
def statement (o : Options) (speakers : Speakers) (content : Text) : Text :=
  if Text.startsWith o.marks.call content then
    Text.lit "call " ++ Text.trim (content.drop o.marks.call.length)
  else if Text.startsWith o.marks.jump content then
    Text.lit "jump " ++ Text.trim (content.drop o.marks.jump.length)
  else speakers.dialogue content o.delimiter

/-- The question mark that starts a branch. -/
def question : UInt8 := 0x3F

/-- The bar between a choice and its condition. -/
def bar : UInt8 := 0x7C

/-- The header of a list item with this label: `???` is the last branch, `??` a further one, `?` the
first; anything else is a choice of a menu, with a condition behind a bar. -/
def itemHeader (label : Text) : Text :=
  if Text.startsWith [question, question, question] label then Text.lit "else:"
  else if Text.startsWith [question, question] label then
    Text.lit "elif " ++ Text.trim (label.drop 2) ++ Text.lit ":"
  else if Text.startsWith [question] label then
    Text.lit "if " ++ Text.trim (label.drop 1) ++ Text.lit ":"
  else match Text.cut [bar] label with
    | some (choice, condition) =>
      literal (Text.trim choice) ++ Text.lit " if " ++ Text.trim condition ++ Text.lit ":"
    | none => literal label ++ Text.lit ":"

/-- A block of markup as a comment line: its words without the marks of a comment, up to the first
hash sign. -/
def remark (content : Text) : Text :=
  let bare := Text.replaceFirst (Text.lit "-->") []
    (Text.replaceFirst (Text.lit "<!--") [] (Text.collapse content))
  let s := (splitComment bare).1
  if s.isEmpty then Text.lit "#" else Text.lit "# " ++ s

end NovelScript.Script
