import NovelScript.Text.Case
import NovelScript.Text.Decomposition
import NovelScript.Text.Mark
import NovelScript.Text.Space

/-!
# Names of labels

A heading may be in any script; the name of a label has ASCII letters, digits, underscores and dots
only. Cyrillic is romanized, accents are taken off, white space and dashes become underscores, and
the rest is dropped.
-/

namespace NovelScript.Script

/-- Lower-case Russian and Ukrainian letters in Latin letters. -/
def romanization : List (Char × String) :=
  [('а', "a"), ('б', "b"), ('в', "v"), ('г', "g"), ('ґ', "g"), ('д', "d"), ('е', "e"), ('ё', "e"),
    ('є', "ye"), ('ж', "zh"), ('з', "z"), ('и', "i"), ('і', "i"), ('ї', "yi"), ('й', "y"),
    ('к', "k"), ('л', "l"), ('м', "m"), ('н', "n"), ('о', "o"), ('п', "p"), ('р', "r"), ('с', "s"),
    ('т', "t"), ('у', "u"), ('ф', "f"), ('х', "h"), ('ц', "c"), ('ч', "ch"), ('ш', "sh"),
    ('щ', "shch"), ('ъ', ""), ('ы', "y"), ('ь', ""), ('э', "e"), ('ю', "yu"), ('я', "ya")]

/-- The first letter as a capital. -/
def capitalized : List Char → List Char
  | [] => []
  | c :: r => c.toUpper :: r

/-- A character in Latin letters: a capital keeps its case on the first letter. -/
def romanize (c : Char) : List Char :=
  match romanization.lookup (Text.lowerChar c) with
  | some latin => if Text.lowerChar c = c then latin.toList else capitalized latin.toList
  | none => [c]

/-- The characters with their marks taken off. -/
def withoutMarks (cs : List Char) : List Char :=
  (cs.flatMap Text.decompose).filter fun c => !Text.isMark c

/-- What a character contributes to a name. -/
def labelChar (c : Char) : Option Char :=
  if c.isAlphanum || c = '_' || c = '.' then some c
  else if c = '-' || Text.isSpaceChar c then some '_'
  else none

/-- The name of the label for a heading. -/
def labelName (heading : Text) : Text :=
  Text.encode ((withoutMarks ((Text.decode (Text.trim heading)).flatMap romanize)).filterMap labelChar)

end NovelScript.Script
