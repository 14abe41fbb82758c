import NovelScript.Text.Decimal

/-!
# Statements with places for values

A statement to a database has a question mark where a value is filled in. A server wants the places
numbered instead.
-/

namespace NovelScript.Cache

/-- The two kinds of database. -/
inductive Backend where
  /-- A database in a file. -/
  | file
  /-- A database on a server. -/
  | server
deriving DecidableEq, Repr

/-- The name of a kind of database. -/
def Backend.name : Backend → String
  | .file => "sqlite"
  | .server => "postgres"

/-- The characters with every question mark replaced by the number of its place, counting on from
`n`. -/
def numberPlaces (n : Nat) : List Char → Text
  | [] => []
  | c :: r =>
    if c = '?' then Text.lit "$" ++ Text.ofNat (n + 1) ++ numberPlaces (n + 1) r
    else Text.encodeChar c ++ numberPlaces n r

/-- The statement as the database wants it. -/
def Backend.statement (b : Backend) (s : Text) : Text :=
  match b with
  | .file => s
  | .server => numberPlaces 0 (Text.decode s)

end NovelScript.Cache
