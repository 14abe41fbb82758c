import NovelScript.Files.Path
import NovelScript.Text.Case

/-!
# Documents and their scripts

Which paths are documents, and where the script of a document goes: beside it, or to the same place
below another directory.
-/

namespace NovelScript.Build

/-- The extensions of documents. -/
def documentExtensions : List Text :=
  [Text.lit ".md", Text.lit ".markdown"]

/-- Does a name start with a point, so that it is not shown? -/
def isHidden (name : Text) : Bool :=
  name.head? == some 0x2E

/-- Is the path that of a document? Its extension may be in any case, and it must not be hidden. -/
def isSource (path : Text) : Bool :=
  documentExtensions.contains (Text.lower (Files.extension path)) && !isHidden (Files.base path)

/-- Where scripts go. -/
structure Target where
  /-- The directory for scripts; empty when a script goes beside its document. -/
  outDir : Text := []
  /-- The extension of scripts; empty for the usual one. -/
  ext : Text := []
deriving DecidableEq

/-- The usual extension of scripts. -/
def scriptExtension : Text := Text.lit ".rpy"

namespace Target

/-- The extension that is used. -/
def extension (t : Target) : Text :=
  if t.ext.isEmpty then scriptExtension else t.ext

/-- The path with its extension replaced by that of scripts. -/
def renamed (t : Target) (path : Text) : Text :=
  Files.stem path ++ t.extension

/-- The path of the script of a document below a root; there is none when the document cannot be
seen from the root. -/
def path? (t : Target) (root source : Text) : Option Text :=
  if t.outDir.isEmpty then some (t.renamed source)
  else (Files.relative? root source).map fun rel => Files.join t.outDir (t.renamed rel)

end Target

end NovelScript.Build
