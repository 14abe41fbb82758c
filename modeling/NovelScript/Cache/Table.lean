import NovelScript.Text.Decimal
import NovelScript.Text.Space

/-!
# The table of builds

For every document the table has at most one entry: the script that was built last, with
fingerprints of what it was built from. An entry counts only when both fingerprints agree.
-/

namespace NovelScript.Cache

/-- A script that was built. -/
structure Entry where
  /-- The document. -/
  path : Text
  /-- The fingerprint of its text. -/
  source : Text
  /-- The fingerprint of the options. -/
  options : Text
  /-- The script. -/
  output : Text
  /-- The run that built it. -/
  run : Text
  /-- When it was built, in seconds. -/
  builtAt : Int
deriving DecidableEq

/-- The nanoseconds of a second. -/
def second : Int := 1000000000

/-- The time that stands for no time: the first moment of the year one, in nanoseconds from 1970
on. -/
def noTime : Int := -62135596800 * second

/-- What is offered to a cache: a script that was built. -/
structure Offer where
  /-- The document. -/
  path : Text
  /-- The fingerprint of its text. -/
  source : Text
  /-- The fingerprint of the options. -/
  options : Text
  /-- The script. -/
  output : Text
  /-- The run that built it. -/
  run : Text
  /-- When it was built, in nanoseconds. No time at all means that it was built just now. -/
  builtAt : Int := noTime
deriving DecidableEq

/-- The entry for what is offered at the time `now`. Whatever is below a second is cut off. -/
def Offer.entry (o : Offer) (now : Int) : Entry where
  path := o.path
  source := o.source
  options := o.options
  output := o.output
  run := o.run
  builtAt := (if o.builtAt = noTime then now else o.builtAt) / second

/-- The entries, one for each document. -/
abbrev Table := List Entry

/-- How much there is in a table. -/
structure Stats where
  /-- How many entries there are. -/
  entries : Int
  /-- How long the scripts are together. -/
  size : Int
  /-- When the oldest entry was built. -/
  oldest : Option Int
  /-- When the newest entry was built. -/
  newest : Option Int
deriving DecidableEq

namespace Table

/-- The script of a document that was built from this text with these options. -/
def lookup (t : Table) (path source options : Text) : Option Text :=
  (t.find? fun e => e.path == path && e.source == source && e.options == options).map (·.output)

/-- The table with an entry in place of the one of the same document. -/
def store (e : Entry) : Table → Table
  | [] => [e]
  | old :: more => if old.path = e.path then e :: more else old :: store e more

/-- The entries that were not built before `cutoff`. -/
def prune (cutoff : Int) (t : Table) : Table :=
  t.filter fun e => cutoff ≤ e.builtAt

/-- The length of a text in characters: a lead byte counts with the bytes that continue it, and the
byte zero ends the text. -/
def lengthFrom : (inside : Bool) → Text → Nat
  | _, [] => 0
  | inside, b :: r =>
    if inside && 0x80 ≤ b && b < 0xC0 then lengthFrom true r
    else if b = 0 then 0
    else 1 + lengthFrom (0xC0 ≤ b) r

/-- The length of a text as the table counts it. -/
def textLength (s : Text) : Nat :=
  lengthFrom false s

/-- The first of some times, if there is one. -/
def first? : List Int → Option Int
  | [] => none
  | n :: more => some ((first? more).elim n fun m => if m < n then m else n)

/-- The last of some times, if there is one. -/
def last? : List Int → Option Int
  | [] => none
  | n :: more => some ((last? more).elim n fun m => if n < m then m else n)

/-- How much there is in the table. -/
def stats (t : Table) : Stats where
  entries := t.length
  size := (t.foldl (fun n e => n + textLength e.output) 0 : Nat)
  oldest := first? (t.map (·.builtAt))
  newest := last? (t.map (·.builtAt))

end Table

/-- The second before which an entry is older than `age` at the time `now`, both in nanoseconds.
Ages are 64-bit numbers, and so is an age with the other sign. -/
def cutoff (now age : Int) : Int :=
  (now + Text.wrapInt64 (-age)) / second

end NovelScript.Cache
