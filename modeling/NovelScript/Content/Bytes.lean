import NovelScript.Cache.Archive
import NovelScript.Content
import NovelScript.Sheet.Pdf

/-!
# What files hold, as bytes

The bytes of each kind of file, and what some bytes are taken for. A printed script is only ever
written, so its bytes are taken for a text.
-/

namespace NovelScript.Content

/-- The bytes of a file. -/
def toBytes : Content → Text
  | .text t => t
  | .database d => d.pack
  | .pages ps => Sheet.pdf ps

/-- What a file of these bytes holds. -/
def ofBytes (s : Text) : Content :=
  match Cache.Database.unpack? s with
  | some d => .database d
  | none => .text s

/-- Do two files have the same bytes? -/
def same (a b : Content) : Bool :=
  a.toBytes == b.toBytes

end NovelScript.Content
