import NovelScript.Script.Cast
import NovelScript.Text.Quoted
import NovelScript.Text.Space

/-!
# Options of a script

What an author may choose: the delimiter between a tag and the spoken text, three marks that start
special lines, and the cast. Marks are compared with the start of a line, so two of them must not be
able to start the same line; `Options.validate` refuses settings that could.
-/

namespace NovelScript

/-- The marks at the start of a line. -/
structure Marks where
  /-- The rest of the line goes to the script as it is. -/
  ignore : Text
  /-- Calls a label. -/
  call : Text
  /-- Jumps to a label. -/
  jump : Text
deriving DecidableEq

/-- The options of a script. -/
structure Options where
  /-- Stands between the tag of a speaker and the text. -/
  delimiter : Text
  /-- The marks of special lines. -/
  marks : Marks
  /-- The cast; `none` when there is no table at all, which means the same as an empty one. -/
  characters : Option Cast
deriving DecidableEq

namespace Options

/-- The cast, empty when there is no table. -/
def cast (o : Options) : Cast :=
  o.characters.getD Cast.empty

/-- The cast that is used when nothing else is said. -/
def defaultCast : Cast :=
  Cast.ofList
    [(Text.lit "mt", Text.lit "od"), (Text.lit "me", Text.lit "s"), (Text.lit "dv", Text.lit "a"),
      (Text.lit "sl", Text.lit "sl"), (Text.lit "sh", Text.lit "sh"), (Text.lit "us", Text.lit "us"),
      (Text.lit "un", Text.lit "l"), (Text.lit "mi", Text.lit "m"), (Text.lit "mz", Text.lit "zh")]

/-- The options that are used when nothing else is said. -/
def default : Options where
  delimiter := Text.lit " - "
  marks := { ignore := Text.lit "\\", call := Text.lit "%", jump := Text.lit "=" }
  characters := some defaultCast

/-- Why options are refused. -/
inductive Problem where
  /-- A setting that must not be empty is. -/
  | empty (name : String)
  /-- One setting is the start of another, so that a line could mean either. -/
  | overlap (name : String) (value : Text) (other : String) (otherValue : Text)
  /-- An entry of the cast with nothing on one side. -/
  | blankSide (tag speaker : Text)
deriving DecidableEq

/-- What is said about refused options. -/
def Problem.message : Problem → Text
  | .empty name => Text.lit "invalid options: " ++ Text.lit name ++ Text.lit " is empty"
  | .overlap name value other otherValue =>
    Text.lit "invalid options: " ++ Text.lit name ++ Text.lit " " ++ Text.quoted value ++
      Text.lit " is a prefix of " ++ Text.lit other ++ Text.lit " " ++ Text.quoted otherValue
  | .blankSide tag speaker =>
    Text.lit "invalid options: empty character entry " ++ Text.quoted tag ++ Text.lit ": " ++
      Text.quoted speaker

/-- The settings that are compared with the start of a line, by name. -/
def leads (o : Options) : List (String × Text) :=
  [("syntax.ignore", o.marks.ignore), ("syntax.call", o.marks.call), ("syntax.jump", o.marks.jump),
    ("character_delim", o.delimiter)]

/-- The first empty one of the named settings. -/
def emptyLead? (named : List (String × Text)) : Option Problem :=
  (named.find? (·.2.isEmpty)).map fun n => .empty n.1

/-- The first setting that starts another one of a different name. -/
def overlap? (named : List (String × Text)) : Option Problem :=
  named.findSome? fun n =>
    (named.find? fun m => m.1 != n.1 && Text.startsWith n.2 m.2).map fun m =>
      .overlap n.1 n.2 m.1 m.2

/-- The first entry with a blank side. -/
def blankSide? (c : Cast) : Option Problem :=
  (c.sorted.find? fun e => Text.isBlank e.1 || Text.isBlank e.2).map fun e => .blankSide e.1 e.2

/-- The first problem of the options: empty settings, then overlaps, then the cast. -/
def problem? (o : Options) : Option Problem :=
  (emptyLead? o.leads).or ((overlap? o.leads).or (blankSide? o.cast))

/-- Accepts the options, or says what is wrong with them. -/
def validate (o : Options) : Except Problem Unit :=
  match o.problem? with
  | some p => .error p
  | none => .ok ()

end Options

end NovelScript
