import NovelScript.Config.Basic
import NovelScript.Text.Case
import NovelScript.Text.Decimal

/-!
# Layers of settings

Settings are laid over each other: what nobody sets is under the file of the user, that is under the
file that was asked for, and the environment is on top. A layer says only some of the settings. In
texts and numbers the empty text and zero say nothing; a truth value is there or not, so that `false`
can be said; the cast is replaced as a whole.
-/

namespace NovelScript

/-- The settings that a file gives. -/
structure Layer where
  /-- The version; zero says nothing. -/
  version : Int := 0
  /-- The delimiter of speakers. -/
  delimiter : Text := []
  /-- The marks of lines. -/
  marks : Marks := ⟨[], [], []⟩
  /-- The cast. -/
  characters : Option Cast := none
  /-- Where scripts go. -/
  outDir : Text := []
  /-- The ending of the name of a script. -/
  ext : Text := []
  /-- How many documents are built at a time; zero says nothing. -/
  workers : Int := 0
  /-- Is a copy kept of a script that is replaced? -/
  backup : Option Bool := none
  /-- Is no cache used? -/
  cacheDisabled : Option Bool := none
  /-- Where the cache is. -/
  dsn : Text := []
  /-- The least level that is written. -/
  level : Text := []
  /-- The form of the lines of the log. -/
  format : Text := []
  /-- Does a line name its place in the program? -/
  source : Option Bool := none
  /-- The file of the log. -/
  logFile : Text := []
deriving DecidableEq

namespace Layer

/-- The upper text, or the lower one when the upper is empty. -/
def upperOr (upper lower : Text) : Text :=
  if upper.isEmpty then lower else upper

/-- The upper number, or the lower one when the upper is zero. -/
def upperOrInt (upper lower : Int) : Int :=
  if upper = 0 then lower else upper

/-- The settings `c` with this layer on top. Names and levels lose the white space around them, and
words of the log are in lower case. -/
def apply (l : Layer) (c : Config) : Config where
  version := upperOrInt l.version c.version
  script :=
    { delimiter := upperOr l.delimiter c.script.delimiter
      marks :=
        { ignore := upperOr l.marks.ignore c.script.marks.ignore
          call := upperOr l.marks.call c.script.marks.call
          jump := upperOr l.marks.jump c.script.marks.jump }
      characters := l.characters.or c.script.characters }
  build :=
    { outDir := upperOr (Text.trim l.outDir) c.build.outDir
      ext := upperOr (Text.trim l.ext) c.build.ext
      workers := upperOrInt l.workers c.build.workers
      backup := l.backup.getD c.build.backup }
  cache :=
    { disabled := l.cacheDisabled.getD c.cache.disabled
      dsn := upperOr (Text.trim l.dsn) c.cache.dsn }
  log :=
    { level := upperOr (Text.lower (Text.trim l.level)) c.log.level
      format := upperOr (Text.lower (Text.trim l.format)) c.log.format
      source := l.source.getD c.log.source
      file := upperOr (Text.trim l.logFile) c.log.file }

end Layer

namespace Environment

/-- The settings that a variable can set, with the name of the variable. -/
def names : List (String × String) :=
  [("script.character_delim", "MDRPY_CHARACTER_DELIM"), ("build.out_dir", "MDRPY_OUT_DIR"),
    ("build.workers", "MDRPY_WORKERS"), ("cache.dsn", "MDRPY_CACHE_DSN"),
    ("cache.disabled", "MDRPY_CACHE_DISABLED"), ("logging.level", "MDRPY_LOG_LEVEL"),
    ("logging.format", "MDRPY_LOG_FORMAT"), ("logging.source", "MDRPY_LOG_SOURCE"),
    ("logging.file", "MDRPY_LOG_FILE")]

/-- The variable that sets a setting, when it is there. -/
def override? (env : Environment) (key : String) : Option String :=
  (names.lookup key).filter fun name => !(env.value (Text.lit name)).isEmpty

/-- Does a word switch something on? -/
def isOn (s : Text) : Bool :=
  let word := Text.lower (Text.trim s)
  word == Text.lit "1" || word == Text.lit "true" || word == Text.lit "on" || word == Text.lit "yes"

/-- A switch: `none` when the variable is empty. -/
def switch? (env : Environment) (name : String) : Option Bool :=
  let v := env.trimmed (Text.lit name)
  if v.isEmpty then none else some (isOn v)

/-- A number: `none` when the variable is not one. -/
def int? (env : Environment) (name : String) : Option Int :=
  (Text.int64? (env.trimmed (Text.lit name))).toOption

/-- The settings with the environment on top. Unlike a file, a variable can set the number of
workers to zero. -/
def apply (env : Environment) (c : Config) : Config :=
  let word (name : String) (old : Text) := Layer.upperOr (env.trimmed (Text.lit name)) old
  { c with
    script :=
      { c.script with
        delimiter := Layer.upperOr (env.value (Text.lit "MDRPY_CHARACTER_DELIM")) c.script.delimiter }
    build :=
      { c.build with
        outDir := word "MDRPY_OUT_DIR" c.build.outDir
        workers := (env.int? "MDRPY_WORKERS").getD c.build.workers }
    cache :=
      { dsn := word "MDRPY_CACHE_DSN" c.cache.dsn
        disabled := (env.switch? "MDRPY_CACHE_DISABLED").getD c.cache.disabled }
    log :=
      { level := Layer.upperOr (Text.lower (env.trimmed (Text.lit "MDRPY_LOG_LEVEL"))) c.log.level
        format := Layer.upperOr (Text.lower (env.trimmed (Text.lit "MDRPY_LOG_FORMAT"))) c.log.format
        source := (env.switch? "MDRPY_LOG_SOURCE").getD c.log.source
        file := word "MDRPY_LOG_FILE" c.log.file } }

end Environment

end NovelScript
