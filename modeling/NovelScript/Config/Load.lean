import NovelScript.Config.Reading
import NovelScript.Config.Schema
import NovelScript.Files.Disk

/-!
# Loading settings

The settings in force: the usual ones, under the file of the user if that can be read, under the
file that was asked for, under the environment. Mistakes in the file of the user are passed over,
those in the file that was asked for are not.
-/

namespace NovelScript.Config

/-- Why settings cannot be loaded. -/
inductive LoadError where
  /-- The file cannot be read. -/
  | unreadable (e : Files.DiskError)
  /-- The file makes no sense. -/
  | malformed (path : Text) (e : Yaml.Error)
  /-- The settings are refused. -/
  | refused (r : Refusal)
deriving DecidableEq

/-- What is said when settings cannot be loaded. -/
def LoadError.message : LoadError → Text
  | .unreadable e => Text.lit "read config: " ++ e.message
  | .malformed path e => Text.lit "invalid config: " ++ path ++ Text.lit ": " ++ e.message
  | .refused r => r.message

/-- The settings under the file of the user. -/
def withUser (user : Option Text) (c : Config) : Config :=
  match user.map Layer.ofFile with
  | some (.ok l) => l.apply c
  | _ => c

/-- The settings under the file that was asked for; a blank path asks for none. -/
def withFile (read : Text → Except Files.DiskError Text) (path : Text) (c : Config) :
    Except LoadError Config :=
  if Text.isBlank path then .ok c
  else
    match read path with
    | .error e => .error (.unreadable e)
    | .ok content =>
      match Layer.ofFile content with
      | .error e => .error (.malformed path e)
      | .ok l => .ok (l.apply c)

/-- Loads the settings: `user` is the file of the user, `path` the file that was asked for. -/
def load (user : Option Text) (read : Text → Except Files.DiskError Text) (path : Text)
    (env : Environment) : Except LoadError Config := do
  let c := env.apply (← withFile read path (withUser user {}))
  match c.validate with
  | .ok _ => return c
  | .error r => throw (.refused r)

end NovelScript.Config
