import NovelScript.Files.Disk

/-!
# Snapshots

A disk may be only a part of a larger one, copied before some work is done on it. Afterwards the
differences between the copy and what has become of it say what has to be done on the larger one.
-/

namespace NovelScript.Files

/-- One thing to do on a disk; a place is a list of names from the root on. -/
inductive Deed (α : Type) where
  /-- Make a directory. -/
  | makeDirectory (names : List Text)
  /-- Put a file in place. -/
  | putFile (names : List Text) (content : α)
  /-- Take a file away. -/
  | removeFile (names : List Text)
  /-- Take an empty directory away. -/
  | removeDirectory (names : List Text)

namespace Entry

variable {α : Type}

/-- The tree with an entry at a list of names, and with directories on the way to it. What was there
is replaced. -/
def plant (new : Entry α) : List Text → Entry α → Entry α
  | [], _ => new
  | name :: more, .directory es =>
    .directory (setEntry name (some (plant new more ((es.lookup name).getD (.directory [])))) es)
  | name :: more, .file _ => .directory [(name, plant new more (.directory []))]

mutual

/-- What it takes to make an entry. -/
def making (names : List Text) : Entry α → List (Deed α)
  | .file c => [.putFile names c]
  | .directory es => .makeDirectory names :: makingAll names es

/-- What it takes to make the entries of a directory. -/
def makingAll (names : List Text) : List (Text × Entry α) → List (Deed α)
  | [] => []
  | (name, e) :: more => making (names ++ [name]) e ++ makingAll names more

end

mutual

/-- What it takes to take an entry away. -/
def removing (names : List Text) : Entry α → List (Deed α)
  | .file _ => [.removeFile names]
  | .directory es => removingAll names es ++ [.removeDirectory names]

/-- What it takes to take the entries of a directory away. -/
def removingAll (names : List Text) : List (Text × Entry α) → List (Deed α)
  | [] => []
  | (name, e) :: more => removing (names ++ [name]) e ++ removingAll names more

end

mutual

/-- What it takes to make the second entry of the first one. -/
def turning (same : α → α → Bool) (names : List Text) (old : Entry α) : Entry α → List (Deed α)
  | .file c =>
    match old with
    | .file c' => if same c' c then [] else [.putFile names c]
    | .directory es => removing names (.directory es) ++ [.putFile names c]
  | .directory es =>
    match old with
    | .file _ => .removeFile names :: making names (.directory es)
    | .directory es' =>
      (es'.filter fun (name, _) => (es.lookup name).isNone).flatMap
          (fun (name, e) => removing (names ++ [name]) e) ++
        turningAll same names es' es

/-- What it takes to make the second entries of the first ones, gone ones aside. -/
def turningAll (same : α → α → Bool) (names : List Text) (old : List (Text × Entry α)) :
    List (Text × Entry α) → List (Deed α)
  | [] => []
  | (name, e) :: more =>
    (match old.lookup name with
      | none => making (names ++ [name]) e
      | some e' => turning same (names ++ [name]) e' e) ++
      turningAll same names old more

end

end Entry

/-- What has to be done so that the first disk becomes the second. -/
def Disk.deeds {α : Type} (same : α → α → Bool) (before after : Disk α) : List (Deed α) :=
  before.root.turning same [] after.root

end NovelScript.Files
