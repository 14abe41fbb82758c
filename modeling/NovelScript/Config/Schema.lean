import NovelScript.Config.Basic
import NovelScript.Text.Decimal
import NovelScript.Text.Utf8

/-!
# What settings must be like

The rules that settings have to keep, whatever file or variable they come from. All broken rules are
reported, and only settings that keep them are looked at further: the options of scripts have rules
of their own.
-/

namespace NovelScript.Config

/-- A rule that a setting breaks. -/
inductive Rule where
  /-- It must not be empty. -/
  | tooShort
  /-- It must not be less. -/
  | tooSmall (least : Int)
  /-- It must not be greater. -/
  | tooLarge (greatest : Int)
  /-- It must look like the pattern. -/
  | pattern (text : String)
  /-- It must be one of the words. -/
  | oneOf (words : List String)
deriving DecidableEq

/-- A setting that breaks a rule. -/
structure Violation where
  /-- The name of the setting. -/
  field : Text
  /-- The rule. -/
  rule : Rule
deriving DecidableEq

/-- What is said about a broken rule. -/
def Violation.message (v : Violation) : Text :=
  v.field ++ Text.lit ": " ++
    match v.rule with
    | .tooShort => Text.lit "String length must be greater than or equal to 1"
    | .tooSmall n => Text.lit "Must be greater than or equal to " ++ Text.ofInt n
    | .tooLarge n => Text.lit "Must be less than or equal to " ++ Text.ofInt n
    | .pattern p => Text.lit "Does not match pattern '" ++ Text.lit p ++ Text.lit "'"
    | .oneOf words =>
      v.field ++ Text.lit " must be one of the following: " ++
        Text.join (Text.lit ", ") (words.map fun w => Text.quoted (Text.lit w))

/-- A violation of a setting unless a condition holds. -/
def require (condition : Bool) (field : Text) (rule : Rule) : List Violation :=
  if condition then [] else [⟨field, rule⟩]

/-- The words for levels of the log. -/
def levels : List String := ["debug", "info", "warn", "warning", "error"]

/-- The words for forms of the log. -/
def formats : List String := ["console", "json"]

/-- Is it the ending of a name: a point, then letters and digits? -/
def isEnding (s : Text) : Bool :=
  match s with
  | 0x2E :: r => !r.isEmpty && r.all Text.isAlphanumeric
  | _ => false

/-- ASCII white space as patterns know it. -/
def isPatternSpace (b : UInt8) : Bool :=
  b == 0x20 || b == 0x09 || b == 0x0A || b == 0x0C || b == 0x0D

/-- Is it a word, without ASCII white space? -/
def isWord (s : Text) : Bool :=
  !s.isEmpty && s.all (!isPatternSpace ·)

/-- The rules that an entry of the cast breaks. -/
def characterViolations (e : Text × Text) : List Violation :=
  let field := Text.lit "script.characters." ++ Text.encode (Text.decode e.1)
  require (!e.2.isEmpty) field .tooShort ++ require (isWord e.2) field (.pattern "^\\S+$")

/-- The rules that settings break. -/
def violations (c : Config) : List Violation :=
  require (1 ≤ c.version) (Text.lit "config_version") (.tooSmall 1) ++
    require (!c.script.delimiter.isEmpty) (Text.lit "script.character_delim") .tooShort ++
    require (!c.script.marks.ignore.isEmpty) (Text.lit "script.syntax.ignore") .tooShort ++
    require (!c.script.marks.call.isEmpty) (Text.lit "script.syntax.call") .tooShort ++
    require (!c.script.marks.jump.isEmpty) (Text.lit "script.syntax.jump") .tooShort ++
    c.script.cast.sorted.flatMap characterViolations ++
    require (isEnding c.build.ext) (Text.lit "build.ext") (.pattern "^\\.[A-Za-z0-9]+$") ++
    require (0 ≤ c.build.workers) (Text.lit "build.workers") (.tooSmall 0) ++
    require (c.build.workers ≤ 256) (Text.lit "build.workers") (.tooLarge 256) ++
    require (levels.any (Text.lit · == c.log.level)) (Text.lit "logging.level") (.oneOf levels) ++
    require (formats.any (Text.lit · == c.log.format)) (Text.lit "logging.format") (.oneOf formats)

/-- Why settings are refused. -/
inductive Refusal where
  /-- They break rules. -/
  | violations (list : List Violation)
  /-- The options of scripts contradict each other. -/
  | options (p : Options.Problem)
deriving DecidableEq

/-- What is said about refused settings. -/
def Refusal.message : Refusal → Text
  | .violations list =>
    Text.lit "invalid config: " ++ Text.join (Text.lit "; ") (list.map Violation.message)
  | .options p => Text.lit "invalid config: " ++ p.message

/-- Accepts settings, or says why not. -/
def validate (c : Config) : Except Refusal Unit :=
  match c.violations with
  | [] =>
    match c.script.problem? with
    | none => .ok ()
    | some p => .error (.options p)
  | vs => .error (.violations vs)

end NovelScript.Config
