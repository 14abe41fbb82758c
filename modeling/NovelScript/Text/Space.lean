import NovelScript.Text.Basic

/-!
# White space

The characters with the property White_Space, each by its bytes. No such sequence of bytes can start
inside another character, so looking for it byte by byte and character by character is the same.
Trimming and splitting into words are defined by these sequences alone.
-/

namespace NovelScript.Text

/-- The white-space characters: tab to carriage return, blank, next line, no-break space, and the
wider blanks and separators. -/
def spaces : List Text :=
  [[0x09], [0x0A], [0x0B], [0x0C], [0x0D], [0x20], [0xC2, 0x85], [0xC2, 0xA0], [0xE1, 0x9A, 0x80],
    [0xE2, 0x80, 0x80], [0xE2, 0x80, 0x81], [0xE2, 0x80, 0x82], [0xE2, 0x80, 0x83],
    [0xE2, 0x80, 0x84], [0xE2, 0x80, 0x85], [0xE2, 0x80, 0x86], [0xE2, 0x80, 0x87],
    [0xE2, 0x80, 0x88], [0xE2, 0x80, 0x89], [0xE2, 0x80, 0x8A], [0xE2, 0x80, 0xA8],
    [0xE2, 0x80, 0xA9], [0xE2, 0x80, 0xAF], [0xE2, 0x81, 0x9F], [0xE3, 0x80, 0x80]]

/-- How many bytes the white-space character in front of `s` has; 0 when there is none. -/
def spaceWidth (s : Text) : Nat :=
  match spaces.find? (·.isPrefixOf s) with
  | some w => w.length
  | none => 0

/-- The same at the end of a text, given with its bytes in reverse. -/
def spaceWidthRev (s : Text) : Nat :=
  match spaces.find? (·.reverse.isPrefixOf s) with
  | some w => w.length
  | none => 0

/-- What is left of `s` after `skip` bytes and then as many bytes as `width` finds in front, over
and over until it finds none. -/
def dropLeading (width : Text → Nat) : (skip : Nat) → Text → Text
  | _, [] => []
  | skip + 1, _ :: r => dropLeading width skip r
  | 0, b :: r =>
    match width (b :: r) with
    | 0 => b :: r
    | w + 1 => dropLeading width w r

/-- The text without white space in front. -/
def trimLeft (s : Text) : Text :=
  dropLeading spaceWidth 0 s

/-- The text without white space at its end. -/
def trimRight (s : Text) : Text :=
  (dropLeading spaceWidthRev 0 s.reverse).reverse

/-- The text without white space around it. -/
def trim (s : Text) : Text :=
  trimRight (trimLeft s)

/-- Is there nothing but white space? -/
def isBlank (s : Text) : Bool :=
  (trim s).isEmpty

/-- The words of a text after `skip` bytes; `word` is what the current word has so far, reversed. -/
def wordsFrom (word : Text) : (skip : Nat) → Text → List Text
  | _, [] => if word.isEmpty then [] else [word.reverse]
  | skip + 1, _ :: r => wordsFrom word skip r
  | 0, b :: r =>
    match spaceWidth (b :: r) with
    | 0 => wordsFrom (b :: word) 0 r
    | w + 1 => if word.isEmpty then wordsFrom [] w r else word.reverse :: wordsFrom [] w r

/-- The maximal runs without white space. -/
def words (s : Text) : List Text :=
  wordsFrom [] 0 s

/-- The words with single blanks between them. -/
def collapse (s : Text) : Text :=
  join [blank] (words s)

/-- A white-space character. -/
def isSpaceChar (c : Char) : Bool :=
  spaces.contains (encodeChar c)

end NovelScript.Text
