import NovelScript.Config.Layer
import NovelScript.Yaml.Decode

/-!
# Reading a file of settings

A file of settings is a YAML document with a mapping of sections. Fields that nobody knows are
skipped; fields of the wrong type are reported, all of them together.
-/

namespace NovelScript

open Yaml Decoding

namespace Layer

/-- Decoding a layer, with the fields that are read of the record at hand. -/
abbrev Fields := Decoding (Layer × List Text) Unit

/-- Sets a part of the layer when there is a value for it. -/
def put {α : Type} (read : Node → List Nat → Decoding (Layer × List Text) (Option α))
    (set : α → Layer → Layer) (n : Node) (through : List Nat) : Fields := do
  match ← read n through with
  | some a => update fun d => (set a d.1, d.2)
  | none => return

/-- The marks of lines. -/
def readMarks (key : Text) (n : Node) (through : List Nat) : Fields :=
  if key == Text.lit "ignore" then
    put text (fun t l => { l with marks := { l.marks with ignore := t } }) n through
  else if key == Text.lit "call" then
    put text (fun t l => { l with marks := { l.marks with call := t } }) n through
  else put text (fun t l => { l with marks := { l.marks with jump := t } }) n through

/-- Is there nothing, perhaps by reference? -/
def isNothing (n : Node) (through : List Nat) : Decoding (Layer × List Text) Bool := do
  return (← follow n through).node.tag == Scalar.nullTag

/-- An entry of the cast. A tag for nothing is there with an empty speaker, unless it was there
before this mapping. -/
def readCharacter (fresh : Bool) (tag : Text) (n : Node) (through : List Nat) : Fields := do
  let add (speaker : Text) : Fields := update fun d =>
    ({ d.1 with characters := some ((d.1.characters.getD Cast.empty).insert tag speaker) }, d.2)
  match ← text n through with
  | some speaker => add speaker
  | none =>
    let known := ((← get).value.1.characters.getD Cast.empty).speaker? tag
    if (← isNothing n through) && (fresh || known.isNone) then add []

/-- The cast. -/
def readCharacters (fuel : Nat) (n : Node) (through : List Nat) : Fields :=
  mappingOf "map[string]string" fuel
    (do
      let fresh := (← get).value.1.characters.isNone
      update fun d => ({ d.1 with characters := some (d.1.characters.getD Cast.empty) }, d.2)
      return fun _ tag v through => readCharacter fresh tag v through) n through

/-- The section of scripts. -/
def readScript (fuel : Nat) (key : Text) (n : Node) (through : List Nat) : Fields :=
  if key == Text.lit "character_delim" then
    put text (fun t l => { l with delimiter := t }) n through
  else if key == Text.lit "syntax" then
    record "transpile.Syntax" fuel ["ignore", "call", "jump"] readMarks n through
  else readCharacters fuel n through

/-- The section of builds. -/
def readBuild (key : Text) (n : Node) (through : List Nat) : Fields :=
  if key == Text.lit "out_dir" then put text (fun t l => { l with outDir := t }) n through
  else if key == Text.lit "ext" then put text (fun t l => { l with ext := t }) n through
  else if key == Text.lit "workers" then put int (fun m l => { l with workers := m }) n through
  else put bool (fun b l => { l with backup := some b }) n through

/-- The section of the cache. -/
def readCache (key : Text) (n : Node) (through : List Nat) : Fields :=
  if key == Text.lit "disabled" then
    put bool (fun b l => { l with cacheDisabled := some b }) n through
  else put text (fun t l => { l with dsn := t }) n through

/-- The section of the log. -/
def readLog (key : Text) (n : Node) (through : List Nat) : Fields :=
  if key == Text.lit "level" then put text (fun t l => { l with level := t }) n through
  else if key == Text.lit "format" then put text (fun t l => { l with format := t }) n through
  else if key == Text.lit "source" then put bool (fun b l => { l with source := some b }) n through
  else put text (fun t l => { l with logFile := t }) n through

/-- The sections of a file. -/
def readSection (fuel : Nat) (key : Text) (n : Node) (through : List Nat) : Fields :=
  if key == Text.lit "config_version" then
    put int (fun m l => { l with version := m }) n through
  else if key == Text.lit "script" then
    record "transpile.Options" fuel ["character_delim", "syntax", "characters"] (readScript fuel) n
      through
  else if key == Text.lit "build" then
    record "config.BuildConfig" fuel ["out_dir", "ext", "workers", "backup"] readBuild n through
  else if key == Text.lit "cache" then
    record "config.CacheConfig" fuel ["disabled", "dsn"] readCache n through
  else
    record "config.LoggingConfig" fuel ["level", "format", "source", "file"] readLog n through

/-- The layer of a file. -/
def ofFile (content : Text) : Except Yaml.Error Layer := do
  match ← Document.read content with
  | none => return {}
  | some d =>
    let fuel := 2 * content.length + 2
    let (l, _) ← run d (({}, []) : Layer × List Text) fun n =>
      record "config.AppConfig" fuel ["config_version", "script", "build", "cache", "logging"]
        (readSection fuel) n []
    return l

end Layer

end NovelScript
