import NovelScript.Config.Write
import NovelScript.Content
import NovelScript.Files.Disk

/-!
# Saving settings

Settings are written to a file as a whole, with the directories above it.
-/

namespace NovelScript.Config

open Files (Disk DiskError)

/-- Why settings are not saved. -/
inductive SaveError where
  /-- No path is given. -/
  | noPath
  /-- The disk refuses. -/
  | disk (e : DiskError)
deriving DecidableEq

/-- What is said when settings are not saved. -/
def SaveError.message : SaveError → Text
  | .noPath => Text.lit "config path is required"
  | .disk e => e.message

/-- Saves settings. -/
def save (c : Config) (path : Text) : Disk.Work Content SaveError Unit := do
  if Text.isBlank path then throw .noPath
  Disk.change .disk (·.makeAll (Files.directory path))
  Disk.change .disk (·.write path (.text c.write))

end NovelScript.Config
