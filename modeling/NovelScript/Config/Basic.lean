import NovelScript.Script.Options

/-!
# Settings

Everything a user can set: the options of scripts, how documents are built, the cache of builds and
the log. Settings come from files and from the environment; this file has the settings themselves
and the values they have when nobody sets them.
-/

namespace NovelScript

/-- How documents are built. -/
structure BuildSettings where
  /-- Where scripts go; empty means next to the document. -/
  outDir : Text := []
  /-- The ending of the name of a script. -/
  ext : Text := Text.lit ".rpy"
  /-- How many documents are built at a time; zero means as many as there are processors. -/
  workers : Int := 0
  /-- Is a copy kept of a script that is replaced? -/
  backup : Bool := false
deriving DecidableEq

/-- The cache of builds. -/
structure CacheSettings where
  /-- Is no cache used? -/
  disabled : Bool := false
  /-- Where the cache is; empty means a file beside the documents. -/
  dsn : Text := []
deriving DecidableEq

/-- The log. -/
structure LogSettings where
  /-- The least level that is written. -/
  level : Text := Text.lit "info"
  /-- The form of the lines. -/
  format : Text := Text.lit "console"
  /-- Does a line name its place in the program? -/
  source : Bool := false
  /-- A file that gets the log, too; empty means none. -/
  file : Text := []
deriving DecidableEq

/-- All settings. -/
structure Config where
  /-- The version of the form of the settings. -/
  version : Int := 1
  /-- Options of scripts. -/
  script : Options := Options.default
  /-- How documents are built. -/
  build : BuildSettings := {}
  /-- The cache of builds. -/
  cache : CacheSettings := {}
  /-- The log. -/
  log : LogSettings := {}
deriving DecidableEq

/-- The variables of the environment, name first. What is not there counts as empty. -/
abbrev Environment := List (Text × Text)

namespace Environment

/-- The value of a variable. -/
def value (env : Environment) (name : Text) : Text :=
  (env.lookup name).getD []

/-- The value of a variable without white space around it. -/
def trimmed (env : Environment) (name : Text) : Text :=
  Text.trim (env.value name)

/-- The environment with a variable set. -/
def insert (env : Environment) (name value : Text) : Environment :=
  (name, value) :: env

end Environment

end NovelScript
