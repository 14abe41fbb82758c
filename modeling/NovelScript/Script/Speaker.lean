import NovelScript.Script.Literal
import NovelScript.Script.Options
import NovelScript.Text.Case

/-!
# Who speaks

An author names a speaker by tag or by the speaker's own name, in any letter case. A tag wins over a
name spelled alike. A line is spoken when it has the delimiter, something after it and a known
speaker before it; any other line is narration.
-/

namespace NovelScript.Script

/-- What each identifier of the source stands for; the first entry of an identifier counts. -/
structure Speakers where
  /-- Identifiers with their speakers. -/
  table : List (Text × Text)

namespace Speakers

/-- Enters one identifier before all others. -/
def enter (s : Speakers) (id speaker : Text) : Speakers :=
  ⟨(id, speaker) :: s.table⟩

/-- The speakers of two lists of cast entries: names are entered from the first, then tags from the
second. Both lists hold the entries of one cast. -/
def ofOrders (forNames forTags : List (Text × Text)) : Speakers :=
  let names := forNames.foldl (fun s e => s.enter e.2 e.2) (⟨[]⟩ : Speakers)
  forTags.foldl (fun s e => s.enter e.1 e.2) names

/-- The speakers of a cast. -/
def ofCast (c : Cast) : Speakers :=
  ofOrders c.entries c.entries

/-- The speaker that an identifier of the source stands for. -/
def resolve (s : Speakers) (id : Text) : Option Text :=
  s.table.lookup (Text.lower (Text.trim id))

/-- A line of speech or narration. -/
def dialogue (s : Speakers) (content delimiter : Text) : Text :=
  match Text.cut delimiter content with
  | none => literal content
  | some (id, rest) =>
    if (Text.trim rest).isEmpty then literal content
    else match s.resolve id with
      | none => literal content
      | some speaker => speaker ++ Text.lit " " ++ literal (Text.trim rest)

end Speakers

end NovelScript.Script
