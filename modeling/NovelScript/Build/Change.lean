import NovelScript.Build.Watch

/-!
# Changes between two looks

A system that tells nothing can still be watched by looking again and again. What differs between
two looks at the watched directories is an event.
-/

namespace NovelScript.Build

open Files (Disk Entry)

variable {α : Type}

/-- What is in a directory; nothing when there is no such directory. -/
def entriesAt (d : Disk α) (dir : Text) : List (Text × Entry α) :=
  match d.find dir with
  | .ok (.directory es) => es
  | _ => []

/-- Are two entries the same to one who does not look into directories? -/
def sameEntry (same : α → α → Bool) : Entry α → Entry α → Bool
  | .file a, .file b => same a b
  | .directory _, .directory _ => true
  | _, _ => false

/-- What happened in one directory between two looks. -/
def changesIn (same : α → α → Bool) (before after : Disk α) (dir : Text) : List Event :=
  let old := entriesAt before dir
  let new := entriesAt after dir
  let path (name : Text) := dir ++ Files.slash :: name
  (new.filterMap fun (name, e) =>
    match old.lookup name with
    | none => some { path := path name, created := true }
    | some e' => if sameEntry same e' e then none else some { path := path name, written := true }) ++
    old.filterMap fun (name, _) =>
      if (new.lookup name).isSome then none else some { path := path name, removed := true }

/-- What happened in the directories of a watch between two looks. -/
def Watch.changes (same : α → α → Bool) (before after : Disk α) (w : Watch) : List Event :=
  w.directories.flatMap (changesIn same before after)

end NovelScript.Build
