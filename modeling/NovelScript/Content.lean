import NovelScript.Cache.Database
import NovelScript.Sheet.Layout

/-!
# What files hold

Most files hold a text. The file of a cache holds its database, and a printed script its pages.
-/

namespace NovelScript

/-- What a file holds. -/
inductive Content where
  /-- A text. -/
  | text (t : Text)
  /-- A cache. -/
  | database (d : Cache.Database)
  /-- A printed script. -/
  | pages (ps : List (List Sheet.Item))

namespace Content

/-- The file of no length. -/
def empty : Content := .text []

/-- What a reader of texts finds. Of files that hold no text it is only the mark in front. -/
def asText : Content → Text
  | .text t => t
  | .database _ => Text.lit "SQLite format 3\x00"
  | .pages _ => Text.lit "%PDF-1.3\n"

/-- The database that a file holds; an empty file is a database without tables. -/
def asDatabase? : Content → Option Cache.Database
  | .text [] => some {}
  | .database d => some d
  | _ => none

end Content

end NovelScript
