import NovelScript.Proofs.Script.Options
import NovelScript.Proofs.Script.Render

/-!
# The script of a document

For options that are accepted, the pass over the stream of a shaped document has two outcomes.

* **`ofTokens_eq_render`**: every item has a label, and the script is the one rendered from the
  tree.
* **`ofTokens_malformed`**: some item has none, and the error is about the first one; no heading and
  no list is ever reported.
-/

namespace NovelScript.Script

open Markdown

/-- No item without a label is found exactly when all items have one. -/
theorem firstUnlabelled_eq_none_iff {items : List PlacedItem} :
    firstUnlabelled items = none ↔ ∀ x ∈ items, label? x.body ≠ none := by
  simp [firstUnlabelled]

/-- In a list in the order of places, the first item without a label is the one with the least
place. -/
theorem position_le_of_firstUnlabelled {items : List PlacedItem} {x y : PlacedItem}
    (hsorted : items.Pairwise fun x y => x.position < y.position)
    (hx : firstUnlabelled items = some x) (hy : y ∈ items) (hl : label? y.body = none) :
    x.position ≤ y.position := by
  obtain ⟨-, before, after, rfl, hbefore⟩ := List.find?_eq_some_iff_append.mp hx
  rcases List.mem_append.mp hy with hy | hy
  · have := hbefore y hy
    simp [hl] at this
  · rcases List.mem_cons.mp hy with rfl | hy
    · exact Nat.le_refl _
    · have hpair := (List.pairwise_append.mp hsorted).2.1
      exact Nat.le_of_lt ((List.pairwise_cons.mp hpair).1 y hy)

variable (o : Options) (label : Text → Text) {trees : List (Block Running)}

/-- **A pass over the stream of a document renders its tree.** Let the options be accepted, and let
the document have lists with items, headings only at the top or at the start of items, and a label
for every item at any depth. Then the pass succeeds, and its script is that of the tree. -/
theorem ofTokens_eq_render (hv : o.validate = .ok ()) (hs : shapedBlocks true true trees = true)
    (hl : ∀ x ∈ blockItems 0 trees, label? x.body ≠ none) :
    ofTokens (.of o label) (blockTokens 0 trees) = .ok (render (.of o label) trees) := by
  have hi : (Setting.of o label).options.marks.ignore ≠ [] := Options.ignore_ne_nil hv
  rw [ofTokens_blockTokens hi hs, outcome, firstUnlabelled_eq_none_iff.mpr hl]

/-- Branches within a choice of a menu, with a quote in them, under the first of two labels. -/
theorem ofTokens_menu_of_branches :
    ofTokens (.of Options.default id) (blockTokens 0
      [.heading 1 ⟨Text.lit "Start", []⟩,
        .list false
          [.item [.paragraph ⟨Text.lit "Go", []⟩,
            .list false
              [.item [.paragraph ⟨Text.lit "? ready", []⟩,
                .quote [.paragraph ⟨Text.lit "on", [⟨.text, Text.lit "on"⟩]⟩],
                .paragraph ⟨Text.lit "now", [⟨.text, Text.lit "now"⟩]⟩]]],
            .item [.heading 2 ⟨Text.lit "Stay | late", []⟩]],
        .heading 1 ⟨Text.lit "End", []⟩]) =
      .ok (Text.lit "label Start:\n    menu:\n        \"Go\":\n            if ready:\n" ++
        Text.lit "                extend             \"on\"\n                \"now\"\n" ++
        Text.lit "        \"Stay\" if late:\n\nlabel End:\n") := by
  rw [ofTokens_eq_render Options.default id Options.validate_default (by decide) (by decide)]
  exact congrArg Except.ok (by decide +kernel)

/-- **Which documents are malformed**: those with an item, at any depth and in a list of any kind,
that is empty or starts with another block than a paragraph or heading. The error is about such an
item, the first one in the stream, and its place is where the tokens of the item start. So no
heading and no list of a document is ever reported. -/
theorem ofTokens_malformed (hv : o.validate = .ok ()) (hs : shapedBlocks true true trees = true) :
    ((∃ e, ofTokens (.of o label) (blockTokens 0 trees) = .error e) ↔
      ∃ x ∈ blockItems 0 trees, label? x.body = none) ∧
    (∀ e, ofTokens (.of o label) (blockTokens 0 trees) = .error e →
      ∃ x ∈ blockItems 0 trees, label? x.body = none ∧
        (∀ y ∈ blockItems 0 trees, label? y.body = none → x.position ≤ y.position) ∧
        x.StandsIn 0 (blockTokens 0 trees) ∧
        e = .malformed x.position .listItemOpen .itemLabel) ∧
    ∀ index need,
      ofTokens (.of o label) (blockTokens 0 trees) ≠ .error (.malformed index .headingOpen need) ∧
      ofTokens (.of o label) (blockTokens 0 trees) ≠
        .error (.malformed index .bulletListOpen need) := by
  have hi : (Setting.of o label).options.marks.ignore ≠ [] := Options.ignore_ne_nil hv
  rw [ofTokens_blockTokens hi hs, outcome]
  cases hfirst : firstUnlabelled (blockItems 0 trees) with
  | none =>
    have hall := firstUnlabelled_eq_none_iff.mp hfirst
    refine ⟨⟨?_, ?_⟩, ?_, ?_⟩
    · rintro ⟨e, he⟩
      cases he
    · rintro ⟨x, hx, hnone⟩
      exact absurd hnone (hall x hx)
    · intro e he
      cases he
    · intro index need
      exact ⟨by simp, by simp⟩
  | some x =>
    have hmem : x ∈ blockItems 0 trees := List.mem_of_find?_eq_some hfirst
    have hnone : label? x.body = none := by
      simpa using List.find?_some hfirst
    refine ⟨⟨fun _ => ⟨x, hmem, hnone⟩, fun _ => ⟨_, rfl⟩⟩, ?_, ?_⟩
    · intro e he
      cases he
      exact ⟨x, hmem, hnone,
        fun y hy => position_le_of_firstUnlabelled (blockItems_sorted 0 trees) hfirst hy,
        standsIn_blockTokens 0 0 trees hmem, rfl⟩
    · intro index need
      exact ⟨by simp, by simp⟩

/-- In an ordered list, an item that starts with a quote: two tokens behind its opening token the
paragraph in the quote opens, and that is not a label. The empty item behind it is not reported. -/
theorem ofTokens_item_of_quote :
    ofTokens (.of Options.default id) (blockTokens 0
      [.paragraph ⟨Text.lit "x", []⟩,
        .list true [.item [.quote [.paragraph ⟨Text.lit "y", []⟩]], .item []]]) =
      .error (.malformed 4 .listItemOpen .itemLabel) := by
  have hitems : blockItems 0
      [.paragraph ⟨Text.lit "x", []⟩,
        .list true [.item [.quote [.paragraph ⟨Text.lit "y", []⟩]], .item []]] =
      [⟨4, [.quote [.paragraph ⟨Text.lit "y", []⟩]]⟩, ⟨11, []⟩] := rfl
  obtain ⟨hfails, herror, -⟩ := @ofTokens_malformed Options.default id
    [.paragraph ⟨Text.lit "x", []⟩,
      .list true [.item [.quote [.paragraph ⟨Text.lit "y", []⟩]], .item []]]
    Options.validate_default (by decide)
  rw [hitems] at hfails herror
  obtain ⟨e, he⟩ := hfails.mpr ⟨_, List.mem_cons_self, rfl⟩
  obtain ⟨x, hx, -, hfirst, -, rfl⟩ := herror e he
  have hle : x.position ≤ 4 := hfirst _ List.mem_cons_self rfl
  have hposition : x.position = 4 := by
    simp only [List.mem_cons, List.not_mem_nil, or_false] at hx
    rcases hx with rfl | rfl
    · rfl
    · simp at hle
  rw [he, hposition]

end NovelScript.Script
