import NovelScript.Text.Basic

/-!
# The cast

The table of speaking characters: the tag an author writes in front of a line, and the speaker of
the script that it stands for. A tag occurs once. The order of the entries is the order in which
they were given and has no meaning.
-/

namespace NovelScript

/-- Tags with their speakers; no tag twice. -/
structure Cast where
  /-- The entries, tag first. -/
  entries : List (Text × Text)
  /-- A tag has one speaker. -/
  nodup : (entries.map Prod.fst).Nodup
deriving DecidableEq

namespace Cast

/-- Nobody. -/
def empty : Cast := ⟨[], List.nodup_nil⟩

/-- The tags. -/
def tags (c : Cast) : List Text :=
  c.entries.map Prod.fst

/-- The speaker of a tag. -/
def speaker? (c : Cast) (tag : Text) : Option Text :=
  c.entries.lookup tag

/-- The entries with `tag` standing for `speaker`: in place where the tag was known, else at the
end. -/
def put (tag speaker : Text) (es : List (Text × Text)) : List (Text × Text) :=
  if tag ∈ es.map Prod.fst then es.map fun e => if e.1 = tag then (tag, speaker) else e
  else es ++ [(tag, speaker)]

/-- Putting a tag keeps the tags distinct: one that is known stays where it is, and one that is not
comes to the end. This is what `Cast.insert` carries as its proof. -/
theorem nodup_put (tag speaker : Text) {es : List (Text × Text)} (h : (es.map Prod.fst).Nodup) :
    ((put tag speaker es).map Prod.fst).Nodup := by
  unfold put
  split
  · have keys : (es.map fun e => if e.1 = tag then (tag, speaker) else e).map Prod.fst
        = es.map Prod.fst := by
      rw [List.map_map]
      refine List.map_congr_left fun e _ => ?_
      by_cases he : e.1 = tag <;> simp [he]
    rw [keys]
    exact h
  · rename_i hn
    rw [List.map_append, List.nodup_append]
    refine ⟨h, by simp, ?_⟩
    intro a ha b hb hab
    simp only [List.map_cons, List.map_nil, List.mem_singleton] at hb
    exact hn (hb ▸ hab ▸ ha)

/-- The cast with one entry set. -/
def insert (c : Cast) (tag speaker : Text) : Cast :=
  ⟨put tag speaker c.entries, nodup_put tag speaker c.nodup⟩

/-- The cast of a list of entries; the last entry of a tag counts. -/
def ofList (es : List (Text × Text)) : Cast :=
  es.foldl (fun c e => c.insert e.1 e.2) empty

/-- The entries in the order of their tags. -/
def sorted (c : Cast) : List (Text × Text) :=
  c.entries.mergeSort fun a b => Text.le a.1 b.1

end Cast

end NovelScript
