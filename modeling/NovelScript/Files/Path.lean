import NovelScript.Text.Basic

/-!
# Paths

Names of files, apart by slashes. A path has many spellings; `Path` is the clean one, without empty
names, without `.`, and with `..` only in front. Cleaning is done by the text alone and never looks
at a disk.
-/

namespace NovelScript.Files

/-- A clean path: whether it starts at the root, and its names. -/
structure Path where
  /-- Does it start at the root? -/
  rooted : Bool
  /-- The names, outermost first. -/
  names : List Text
deriving DecidableEq

/-- The byte between names. -/
def slash : UInt8 := 0x2F

/-- The name of the same directory. -/
def dot : Text := Text.lit "."

/-- The name of the directory above. -/
def dotDot : Text := Text.lit ".."

/-- The name of the directory beside the sources that holds what the program keeps for itself. -/
def stateName : Text := Text.lit ".mdrpy"

namespace Path

/-- One more name after `out`, which is reversed. -/
def push (rooted : Bool) (out : List Text) (name : Text) : List Text :=
  if name.isEmpty || name == dot then out
  else if name == dotDot then
    match out with
    | [] => if rooted then [] else [dotDot]
    | last :: more => if last == dotDot then dotDot :: out else more
  else name :: out

/-- The clean path of a spelling. -/
def ofText (s : Text) : Path :=
  let rooted := s.head? == some slash
  ⟨rooted, ((Text.splitAt slash s).foldl (push rooted) []).reverse⟩

/-- The names with slashes between them. -/
def joined (names : List Text) : Text :=
  Text.join [slash] names

/-- The shortest spelling of a path. -/
def toText (p : Path) : Text :=
  if p.rooted then slash :: joined p.names
  else if p.names.isEmpty then dot
  else joined p.names

end Path

/-- The shortest spelling of the same path. -/
def clean (s : Text) : Text :=
  (Path.ofText s).toText

/-- One path after the other; an empty one in front does not count. -/
def join (a b : Text) : Text :=
  if a.isEmpty then if b.isEmpty then [] else clean b
  else clean (a ++ slash :: b)

/-- Everything up to the last slash and what follows it. -/
def splitLast (s : Text) : Text × Text :=
  let name := (s.reverse.takeWhile (· != slash)).reverse
  (s.take (s.length - name.length), name)

/-- The directory of a path. -/
def directory (s : Text) : Text :=
  clean (splitLast s).1

/-- The last name of a path. -/
def base (s : Text) : Text :=
  if s.isEmpty then dot
  else
    let name := (splitLast (s.reverse.dropWhile (· == slash)).reverse).2
    if name.isEmpty then [slash] else name

/-- The last name from its last point on; empty when it has none. -/
def extension (s : Text) : Text :=
  let name := (splitLast s).2
  let tail := (name.reverse.takeWhile (· != 0x2E)).reverse
  if tail.length = name.length then [] else 0x2E :: tail

/-- The path without its extension. -/
def stem (s : Text) : Text :=
  Text.dropEnd (extension s) s

/-- What is left of two lists of names after the names that they share in front. -/
def diverge : List Text → List Text → List Text × List Text
  | a :: as, b :: bs => if a = b then diverge as bs else (a :: as, b :: bs)
  | as, bs => (as, bs)

/-- The path of `target` as seen from the directory `base`. There is none when only one of them
starts at the root, or when one would have to know where the directory above is. -/
def relative? (base target : Text) : Option Text :=
  let b := Path.ofText base
  let t := Path.ofText target
  if b = t then some dot
  else if b.rooted != t.rooted then none
  else
    let (up, down) := diverge b.names (if t.rooted || !t.names.isEmpty then t.names else [dot])
    if up.head? = some dotDot && !down.isEmpty then none
    else some (Path.joined (up.map (fun _ => dotDot) ++ down))

/-- What is said when a path cannot be seen from a directory. -/
def relativeMessage (base target : Text) : Text :=
  Text.lit "Rel: can't make " ++ target ++ Text.lit " relative to " ++ base

end NovelScript.Files
