import NovelScript.Markdown.Line

/-!
# Tags and other markup

Recognizers for markup of angle brackets, inside a line and as the start of a block. Each takes the
text from where the markup would start and gives back what is behind it.
-/

namespace NovelScript.Markdown

/-- White space inside a tag. -/
def isTagSpace (b : UInt8) : Bool :=
  b = 0x20 || b = 0x09 || b = 0x0A || b = 0x0D

/-- The name of an element: a letter, then letters, digits and hyphens. -/
def tagName? : Text → Option (Text × Text)
  | [] => none
  | b :: r =>
    let isInner (c : UInt8) := Text.isAlphanumeric c || c = 0x2D
    if Text.isLetter b then some (b :: r.takeWhile isInner, r.dropWhile isInner) else none

/-- A quoted value up to its closing quote. -/
def quotedValue? (quote : UInt8) (s : Text) : Option Text :=
  match s.dropWhile (· != quote) with
  | _ :: r => some r
  | [] => none

/-- A byte of a value without quotes. -/
def isBareValue (b : UInt8) : Bool :=
  0x20 < b && !(b = 0x22 || b = 0x27 || b = 0x3D || b = 0x3C || b = 0x3E || b = 0x60)

/-- The value of an attribute. -/
def attributeValue? (s : Text) : Option Text :=
  match s with
  | 0x27 :: r => quotedValue? 0x27 r
  | 0x22 :: r => quotedValue? 0x22 r
  | b :: r => if isBareValue b then some (r.dropWhile isBareValue) else none
  | [] => none

/-- The value behind an attribute's name, with its equals sign. -/
def assigned? (s : Text) : Option Text :=
  match s.dropWhile isTagSpace with
  | 0x3D :: r => attributeValue? (r.dropWhile isTagSpace)
  | _ => none

/-- White space and an attribute: what is behind it. -/
def attribute? (s : Text) : Option Text :=
  match s with
  | [] => none
  | b :: _ =>
    if !isTagSpace b then none
    else match s.dropWhile isTagSpace with
      | [] => none
      | c :: r =>
        if Text.isLetter c || c = 0x5F || c = 0x3A then
          let isInner (d : UInt8) := Text.isAlphanumeric d || d = 0x3A || d = 0x2E || d = 0x5F || d = 0x2D
          let afterName := r.dropWhile isInner
          some ((assigned? afterName).getD afterName)
        else none

/-- What is behind as many attributes as there are; at most `fuel` are read. -/
def attributes : (fuel : Nat) → Text → Text
  | 0, s => s
  | fuel + 1, s =>
    match attribute? s with
    | some r => attributes fuel r
    | none => s

/-- What is behind blanks and ends of lines at the end of a tag. -/
def tagEndSpace : Text → Text
  | 0x0D :: 0x0A :: r => tagEndSpace r
  | b :: r => if b = 0x20 || b = 0x09 || b = 0x0A then tagEndSpace r else b :: r
  | [] => []

/-! ## Inside a line -/

/-- What is behind an opening tag; `s` starts behind its angle bracket. -/
def openTag? (s : Text) : Option Text := do
  let (_, r) ← tagName? s
  match tagEndSpace (attributes s.length r) with
  | 0x2F :: 0x3E :: rest => some rest
  | 0x3E :: rest => some rest
  | _ => none

/-- What is behind a closing tag; `s` starts behind its slash. -/
def closeTag? (s : Text) : Option Text := do
  let (_, r) ← tagName? s
  match tagEndSpace r with
  | 0x3E :: rest => some rest
  | _ => none

/-- What is behind the first occurrence of `closer`. -/
def after? (closer s : Text) : Option Text :=
  (Text.cut closer s).map (·.2)

/-- How many bytes the markup has that starts `s`, the angle bracket included. `readable` is the
part of `s` that a tag may reach into. -/
def markupLength? (s readable : Text) : Option Nat :=
  let used (whole : Text) (rest : Option Text) := rest.map fun r => whole.length - r.length
  match s with
  | 0x3C :: r =>
    match r with
    | 0x2F :: c :: _ =>
      if Text.isAlphanumeric c then used readable (closeTag? (readable.drop 2)) else none
    | 0x21 :: 0x2D :: 0x2D :: more =>
      if Text.startsWith [0x3E] more then some 5
      else if Text.startsWith [0x2D, 0x3E] more then some 6
      else used s (after? (Text.lit "-->") more)
    | 0x3F :: _ => used s (after? (Text.lit "?>") s)
    | 0x21 :: c :: _ =>
      if 0x41 ≤ c && c ≤ 0x5A then used s (after? [0x3E] s)
      else if Text.startsWith (Text.lit "<![CDATA[") s then used s (after? (Text.lit "]]>") s)
      else none
    | c :: _ => if Text.isAlphanumeric c then used readable (openTag? (readable.drop 1)) else none
    | [] => none
  | _ => none

/-! ## Blocks -/

/-- What ends a block of markup. -/
inductive MarkupEnd where
  /-- The closing tag of an element with verbatim content. -/
  | verbatimTag
  /-- A mark. -/
  | mark (closer : Text)
  /-- A blank line. -/
  | blankLine
deriving DecidableEq

/-- Elements whose content is verbatim. -/
def verbatimTags : List Text :=
  [Text.lit "script", Text.lit "pre", Text.lit "style", Text.lit "textarea"]

/-- Elements that start a block wherever a line begins with their tag. -/
def blockTags : List Text :=
  ["address", "article", "aside", "base", "basefont", "blockquote", "body", "caption", "center",
    "col", "colgroup", "dd", "details", "dialog", "dir", "div", "dl", "dt", "fieldset",
    "figcaption", "figure", "footer", "form", "frame", "frameset", "h1", "h2", "h3", "h4", "h5",
    "h6", "head", "header", "hr", "html", "iframe", "legend", "li", "link", "main", "menu",
    "menuitem", "meta", "nav", "noframes", "ol", "optgroup", "option", "p", "param", "search",
    "section", "summary", "table", "tbody", "td", "tfoot", "th", "thead", "title", "tr", "track",
    "ul"].map Text.lit

/-- The end of a line, or nothing. -/
def isLineEnd (s : Text) : Bool :=
  s == [] || s == [0x0A] || s == [0x0D, 0x0A]

/-- May this follow the name of a verbatim element? -/
def verbatimFollows (s : Text) : Bool :=
  match s with
  | [] => true
  | b :: r => isTagSpace b || b = 0x0C || b = 0x3E || (b = 0x2F && Text.startsWith [0x3E] r)

/-- May this follow the name of a block element? -/
def blockFollows (s : Text) : Bool :=
  isLineEnd s || match s with
  | b :: r => b = 0x20 || b = 0x3E || (b = 0x2F && Text.startsWith [0x3E] r)
  | [] => false

/-- Does `s`, behind an angle bracket, start with the tag of a verbatim element? -/
def startsVerbatim (s : Text) : Bool :=
  verbatimTags.any fun t =>
    Text.eqIgnoringCase t (s.take t.length) && verbatimFollows (s.drop t.length)

/-- Does the line have the closing tag of a verbatim element? -/
def endsVerbatim (s : Text) : Bool :=
  let t := s.map Text.lowerByte
  verbatimTags.any fun name => Text.includes (Text.lit "</" ++ name ++ [0x3E]) t

/-- A slash and blanks in front of a name: is there a slash, are there blanks, and the rest. -/
def slash (s : Text) : Bool × Bool × Text :=
  match s with
  | 0x2F :: r => (true, Text.startsWith [Text.blank] r, r.dropWhile (· = Text.blank))
  | _ => (false, false, s)

/-- Is the line, behind an angle bracket, one whole tag? Gives its name, and whether it is a closing
tag with attributes. -/
def wholeTag? (s : Text) : Option (Text × Bool) := do
  let (closing, spaced, r) := slash s
  let (name, r) ← tagName? r
  let behind := attributes s.length r
  let rest ← match behind.dropWhile (· = Text.blank) with
    | 0x2F :: 0x3E :: rest => some rest
    | 0x3E :: rest => some rest
    | _ => none
  if isLineEnd (rest.dropWhile (· = Text.blank)) then
    some (name.map Text.lowerByte, closing && !spaced && behind.length != r.length)
  else none

/-- Does the line, behind an angle bracket, start with the tag of a block element? -/
def startsBlockTag (s : Text) : Bool :=
  match tagName? (slash s).2.2 with
  | some (name, r) => blockTags.contains (name.map Text.lowerByte) && blockFollows r
  | none => false

/-- Does a block of markup start with this line, and what ends it? A lone tag of any other element
starts one only where no paragraph is interrupted. -/
def markupStart? (inParagraph : Bool) (line : Text) : Option MarkupEnd :=
  match line.dropWhile (· = Text.blank) with
  | 0x3C :: r =>
    if startsVerbatim r then some .verbatimTag
    else if Text.startsWith (Text.lit "!--") r then some (.mark (Text.lit "-->"))
    else if Text.startsWith (Text.lit "?") r then some (.mark (Text.lit "?>"))
    else if Text.startsWith (Text.lit "![CDATA[") r then some (.mark (Text.lit "]]>"))
    else match r with
      | 0x21 :: c :: _ => if 0x41 ≤ c && c ≤ 0x5A then some (.mark [0x3E]) else none
      | _ =>
        match wholeTag? r with
        | some (name, odd) =>
          if blockTags.contains name then some .blankLine
          else if !(verbatimTags.take 3).contains name && !inParagraph && !odd then some .blankLine
          else if startsBlockTag r then some .blankLine else none
        | none => if startsBlockTag r then some .blankLine else none
  | _ => none

/-- Does the line end a block of markup with such an end? -/
def MarkupEnd.isIn : MarkupEnd → Text → Bool
  | .verbatimTag, s => endsVerbatim s
  | .mark closer, s => Text.includes closer s
  | .blankLine, _ => false

end NovelScript.Markdown
