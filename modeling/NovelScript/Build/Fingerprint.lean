import NovelScript.Build.Digest
import NovelScript.Script.Options

/-!
# Fingerprints

A built document is up to date when its source and the options are the ones it was built from. Both
are known by digests. The options are written out in one way whatever the order of the cast, and
different options are written out differently.
-/

namespace NovelScript.Build

/-- A named setting on a line of its own. -/
def settingLine (name : String) (value : Text) : Text :=
  Text.lit name ++ Text.lit "=" ++ Text.quoted value ++ [Text.newline]

/-- An entry of the cast on a line of its own. -/
def entryLine (e : Text × Text) : Text :=
  Text.lit "char " ++ Text.quoted e.1 ++ Text.lit "=" ++ Text.quoted e.2 ++ [Text.newline]

/-- Everything in the options that shows in a script, written out. -/
def optionsRecord (o : Options) : Text :=
  settingLine "delim" o.delimiter ++ settingLine "ignore" o.marks.ignore ++
    settingLine "call" o.marks.call ++ settingLine "jump" o.marks.jump ++
    o.cast.sorted.flatMap entryLine

/-- The fingerprint of options. -/
def optionsFingerprint (o : Options) : Text :=
  digest (optionsRecord o)

/-- The fingerprint of a document. -/
def sourceFingerprint (source : Text) : Text :=
  digest source

end NovelScript.Build
