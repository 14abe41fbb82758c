import NovelScript.Config.Basic
import NovelScript.Yaml.Writer

/-!
# Writing settings

Settings as a file from which the same settings are read: every field is written, also the ones that
have their usual value.
-/

namespace NovelScript.Config

open Yaml

/-- A truth value. -/
def outBool (b : Bool) : Out :=
  .bare (Text.lit (if b then "true" else "false"))

/-- A number. -/
def outInt (n : Int) : Out :=
  .bare (Text.ofInt n)

/-- The options of scripts. -/
def outScript (o : Options) : Out :=
  .mapping
    [(Text.lit "character_delim", .text o.delimiter),
      (Text.lit "syntax", .mapping
        [(Text.lit "ignore", .text o.marks.ignore), (Text.lit "call", .text o.marks.call),
          (Text.lit "jump", .text o.marks.jump)]),
      (Text.lit "characters",
        .mapping ((sortEntries o.cast.entries).map fun e => (e.1, .text e.2)))]

/-- The sections of a file. -/
def sections (c : Config) : List (Text × Out) :=
  [(Text.lit "config_version", outInt c.version),
    (Text.lit "script", outScript c.script),
    (Text.lit "build", .mapping
      [(Text.lit "out_dir", .text c.build.outDir), (Text.lit "ext", .text c.build.ext),
        (Text.lit "workers", outInt c.build.workers), (Text.lit "backup", outBool c.build.backup)]),
    (Text.lit "cache", .mapping
      [(Text.lit "disabled", outBool c.cache.disabled), (Text.lit "dsn", .text c.cache.dsn)]),
    (Text.lit "logging", .mapping
      [(Text.lit "level", .text c.log.level), (Text.lit "format", .text c.log.format),
        (Text.lit "source", outBool c.log.source), (Text.lit "file", .text c.log.file)])]

/-- The settings as a file. -/
def write (c : Config) : Text :=
  Out.writeEntries 0 c.sections

end NovelScript.Config
