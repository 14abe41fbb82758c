import NovelScript.Command.Session

/-!
# What a command may look at

A command works on the paths that its arguments and the settings name, on their directories and on
the state directories in those. Nothing else of a disk has to be known to run it.
-/

namespace NovelScript.Command

/-- The texts in arguments that may be paths: words, and values behind an equals sign. -/
def namedIn (args : List Text) : List Text :=
  args.flatMap fun a =>
    match Text.cut [equals] a with
    | some (_, value) => [a, value]
    | none => [a]

/-- The paths that settings name, and the scripts of some documents beside them. -/
def namedBy (words : List Text) (c : Config) : List Text :=
  [c.build.outDir, c.cache.dsn, c.log.file] ++
    words.map (Build.Target.renamed ⟨c.build.outDir, c.build.ext⟩)

/-- The paths that a command line and the settings name. Settings are counted for every file that
may hold some. -/
def World.named (w : World) (args : List Text) : List Text :=
  let words := namedIn args
  let found := ([] :: words).filterMap fun path => (w.settings path).toOption
  ((words ++ found.flatMap (namedBy words)).filter fun p => !Text.isBlank p).eraseDups

/-- The directories above a path, the outermost first. -/
def above : (fuel : Nat) → Text → List Text
  | 0, _ => []
  | fuel + 1, path =>
    let dir := Files.directory path
    if dir == path then [] else above fuel dir ++ [dir]

/-- The directories that matter only as being there: those above the named paths. -/
def barePaths (named : List Text) : List Text :=
  (named.flatMap fun p => above p.length p).eraseDups

/-- The paths that matter with all below them: the named ones, and the state directories beside them
and in the working directory. -/
def wholePaths (named : List Text) : List Text :=
  let dirs := (Files.dot :: named.map Files.directory).eraseDups
  (dirs.map (Files.join · Files.stateName) ++ named).eraseDups

/-- The file with the settings of the user: below the directory for settings, or below the home of
the user, if either is known. -/
def userConfigPath (settings home : Text) : Option Text :=
  let file (dir : Text) := Files.join (Files.join dir (Text.lit "mdrpy")) (Text.lit "config.yaml")
  if settings.isEmpty then
    if home.isEmpty then none else some (file (Files.join home (Text.lit ".config")))
  else if settings.head? == some Files.slash then some (file settings)
  else none

end NovelScript.Command
