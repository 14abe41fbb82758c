import NovelScript.Version

/-!
# How the program is used

The text that is shown to somebody who asks, and after a command line that makes no sense.
-/

namespace NovelScript.Command

/-- The lines about the commands. -/
def usageLines : List String :=
  ["",
    "Usage:",
    "  mdrpy version|-v|--version                      Show version",
    "  mdrpy print <file.md> [-config f]                Print the script to stdout",
    "  mdrpy build <file|dir> [-o dir] [-workers n]     Write .rpy files",
    "              [-config f] [-no-cache] [-backup]",
    "  mdrpy watch <dir> [-o dir] [-config f]           Rebuild documents as they change",
    "  mdrpy pdf <file.md> <out.pdf> [-numbers]         Render a PDF proof of the script",
    "  mdrpy config [-config f] [-save path]            Show (or save) the effective config",
    "  mdrpy cache stats|prune <dir> [-days n]          Inspect or trim the build cache",
    "  mdrpy restore <file.rpy>                         Put back the newest backup of a script"]

/-- One line. -/
def line (t : Text) : Text := t ++ [Text.newline]

/-- How the program of some version is used. -/
def usageText (version : Text) : Text :=
  line (Text.lit "mdrpy: Markdown to Ren'Py script transpiler") ++
    line (Text.lit "Version: " ++ version) ++
    usageLines.flatMap fun l => line (Text.lit l)

/-- The version of the program in words. -/
def versionText (version : Text) : Text :=
  line (Text.lit "mdrpy " ++ version)

end NovelScript.Command
