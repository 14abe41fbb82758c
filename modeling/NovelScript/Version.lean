import NovelScript.Text.Basic

/-!
# The version of the program

A build may carry a version of its own. One that carries none is a build for development.
-/

namespace NovelScript

/-- The version of a build for development. -/
def developmentVersion : Text := Text.lit "dev"

/-- The version that is shown for the one that a build carries. -/
def shownVersion (carried : Text) : Text :=
  if carried.isEmpty then developmentVersion else carried

end NovelScript
