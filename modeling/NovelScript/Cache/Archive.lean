import NovelScript.Cache.Database

/-!
# The file of a cache

A database as the bytes of a file: a mark, then fields, each with its length in front, so that a
field may hold any bytes.
-/

namespace NovelScript.Cache

/-- The mark that the file of a cache starts with. -/
def archiveMark : Text := Text.lit "NovelScript cache 1\n"

/-- A field with its length in front. -/
def packField (s : Text) : Text :=
  Text.ofNat s.length ++ Text.lit ":" ++ s

/-- The field at the start of some bytes, and what follows it. -/
def unpackField? (s : Text) : Option (Text × Text) := do
  let (digits, rest) ← Text.cut (Text.lit ":") s
  let n ← Text.digits? digits
  if n ≤ rest.length then some (rest.take n, rest.drop n) else none

/-- All fields of some bytes. -/
def unpackFields : (fuel : Nat) → Text → Option (List Text)
  | _, [] => some []
  | 0, _ => none
  | fuel + 1, s => do
    let (field, rest) ← unpackField? s
    return field :: (← unpackFields fuel rest)

namespace Schema

/-- The schema as a field. -/
def toField : Option Schema → Text
  | none => Text.lit "none"
  | some (.number n) => Text.lit "number " ++ Text.ofInt n
  | some (.text t) => Text.lit "text " ++ t

/-- The schema of a field. -/
def ofField? (s : Text) : Option (Option Schema) :=
  if s == Text.lit "none" then some none
  else
    match Text.cut (Text.lit " ") s with
    | some (kind, value) =>
      if kind == Text.lit "number" then
        (Text.int64? value).toOption.map fun n => some (.number n)
      else if kind == Text.lit "text" then some (some (.text value))
      else none
    | none => none

end Schema

namespace Entry

/-- The fields of an entry. -/
def toFields (e : Entry) : List Text :=
  [e.path, e.source, e.options, e.output, e.run, Text.ofInt e.builtAt]

/-- The entries of fields. -/
def ofFields? : List Text → Option Table
  | [] => some []
  | path :: source :: options :: output :: run :: builtAt :: more => do
    let time ← (Text.int64? builtAt).toOption
    return ⟨path, source, options, output, run, time⟩ :: (← ofFields? more)
  | _ => none

end Entry

namespace Builds

/-- The form of the table as a field. -/
def kindField : Option Builds → Text
  | none => Text.lit "absent"
  | some b => Text.lit (if b.hasRuns then "runs" else "plain")

/-- The table of a form with fields. -/
def ofFields? (kind : Text) (fields : List Text) : Option (Option Builds) :=
  if kind == Text.lit "absent" then some none
  else do
    let table ← Entry.ofFields? fields
    return some { table, hasRuns := kind == Text.lit "runs" }

end Builds

namespace Database

/-- The bytes of the file. -/
def pack (d : Database) : Text :=
  archiveMark ++
    ((Schema.toField d.schema :: Builds.kindField d.builds ::
      (d.builds.elim [] (·.table)).flatMap Entry.toFields).flatMap packField)

/-- The database in the bytes of a file. -/
def unpack? (s : Text) : Option Database :=
  if !Text.startsWith archiveMark s then none
  else
    match unpackFields s.length (s.drop archiveMark.length) with
    | some (schema :: kind :: fields) => do
      return { schema := ← Schema.ofField? schema, builds := ← Builds.ofFields? kind fields }
    | _ => none

end Database

end NovelScript.Cache
