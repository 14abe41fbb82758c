import NovelScript.Proofs.Script.Options
import NovelScript.Proofs.Script.Setting
import NovelScript.Proofs.Text.Case
import NovelScript.Proofs.Text.Split

/-!
# Who is heard

An identifier of a document is looked up in lower case and without white space around it.
`Cast.voice?` says, from the table alone, whom such an identifier names: the speaker of the tag that
it is, or else the speaker that it is. A cast may name the same text on both sides, give one speaker
several tags, and lead from tag to tag in chains and circles; none of this makes a difference to what
an identifier names, for no entry is followed further than one step.

* `resolve_ofOrders`: this is what is found, in whatever orders the entries were gone through.
* **`resolve_in_any_order`**: so neither order shows in any line.
* `resolve_of_lower_eq`: spellings of an identifier in different letter case name the same.
* **`dialogue_of_spelling`**: a tag in lower case is heard in every spelling of it, as long as the
  first delimiter of the line is the one behind it. Capitals in the table are not looked for, and a
  delimiter may start inside a spelling of the tag (`dialogue_of_unheard_tags`).
-/

namespace NovelScript

/-- Whom an identifier in lower case names: the speaker of a tag, or else a speaker by name. -/
def Cast.voice? (c : Cast) (x : Text) : Option Text :=
  (c.speaker? x).or ((c.entries.find? (·.2 == x)).map Prod.snd)

namespace Script.Speakers

/-- An identifier that is no tag names itself or nobody. Names are accepted beside tags, but a tag
comes first. -/
theorem voice?_of_not_tag {c : Cast} {x : Text} (h : c.speaker? x = none) :
    c.voice? x = if x ∈ c.entries.map Prod.snd then some x else none := by
  rw [Cast.voice?, h, Option.none_or]
  split
  · rename_i hname
    obtain ⟨e, he, rfl⟩ := List.mem_map.mp hname
    cases hfound : c.entries.find? (·.2 == e.2) with
    | none => simpa using List.find?_eq_none.mp hfound e he
    | some e' =>
      have hsame : e'.2 = e.2 := by simpa using List.find?_some hfound
      rw [Option.map_some, hsame]
  · rename_i hname
    have hfound : c.entries.find? (·.2 == x) = none := by
      rw [List.find?_eq_none]
      intro e he hsame
      exact hname (List.mem_map.mpr ⟨e, he, by simpa using hsame⟩)
    rw [hfound, Option.map_none]

/-- What is known under a tag is its speaker, also when the tag is a name besides. -/
theorem voice?_of_tag {c : Cast} {x speaker : Text} (h : (x, speaker) ∈ c.entries) :
    c.voice? x = some speaker := by
  rw [Cast.voice?, Cast.speaker?_eq_some_iff.mpr h, Option.some_or]

/-- **Who speaks under a word**: the speaker whose tag it is, or, when it is nobody's tag, the
speaker who has it for a name. -/
theorem voice?_eq_some_iff {c : Cast} {a b : Text} :
    c.voice? a = some b ↔
      (a, b) ∈ c.entries ∨ ((∀ x, (a, x) ∉ c.entries) ∧ a = b ∧ ∃ tag, (tag, a) ∈ c.entries) := by
  cases hspeaker : c.speaker? a with
  | some speaker =>
    have hmem := Cast.speaker?_eq_some_iff.mp hspeaker
    have htag : ¬ ∀ x, (a, x) ∉ c.entries := fun h => h speaker hmem
    simp only [htag, false_and, or_false]
    rw [← Cast.speaker?_eq_some_iff, Cast.voice?, hspeaker, Option.some_or]
  | none =>
    have hnone : ∀ x, (a, x) ∉ c.entries := by
      intro x hx
      rw [Cast.speaker?_eq_some_iff.mpr hx] at hspeaker
      cases hspeaker
    rw [voice?_of_not_tag hspeaker]
    simp [hnone, and_comm]

/-! ## The orders of the entries -/

variable {c : Cast} {names tags names' tags' : List (Text × Text)}

/-- In whatever orders the table is made, a word is resolved to the one who speaks under it. The
tags are entered last, and each of them once, so no order among them shows. -/
theorem resolve_ofOrders (hnames : names.Perm c.entries) (htags : tags.Perm c.entries) (id : Text) :
    (ofOrders names tags).resolve id = c.voice? (Text.lower (Text.trim id)) := by
  apply Option.ext
  intro speaker
  rw [resolve, lookup_ofOrders hnames htags, voice?_eq_some_iff]

/-- **The orders do not show.** Let the entries of a cast be gone through in two orders, one for the
names and one for the tags, and then again in two others. Every identifier stands for the same
speaker and every line reads the same; and an identifier, without white space around it and in lower
case, stands for the speaker of the tag that it is, or else for itself where it is the speaker of some
tag, or else for nobody. -/
theorem resolve_in_any_order (hnames : names.Perm c.entries) (htags : tags.Perm c.entries)
    (hnames' : names'.Perm c.entries) (htags' : tags'.Perm c.entries) :
    (∀ id, (ofOrders names tags).resolve id = (ofOrders names' tags').resolve id) ∧
      (∀ content delimiter, (ofOrders names tags).dialogue content delimiter =
        (ofOrders names' tags').dialogue content delimiter) ∧
      ∀ id x, x = Text.lower (Text.trim id) →
        (∀ speaker, (x, speaker) ∈ c.entries →
          (ofOrders names tags).resolve id = some speaker) ∧
        (x ∉ c.tags → x ∈ c.entries.map Prod.snd → (ofOrders names tags).resolve id = some x) ∧
        (x ∉ c.tags → x ∉ c.entries.map Prod.snd → (ofOrders names tags).resolve id = none) := by
  have hsame : (ofOrders names tags).resolve = (ofOrders names' tags').resolve := by
    funext id
    rw [resolve_ofOrders hnames htags, resolve_ofOrders hnames' htags']
  refine ⟨fun id => congrFun hsame id, fun content delimiter => ?_, ?_⟩
  · rw [dialogue_congr hsame]
  · rintro id x rfl
    rw [resolve_ofOrders hnames htags]
    generalize Text.lower (Text.trim id) = x
    refine ⟨?_, ?_, ?_⟩
    · intro speaker hmem
      exact voice?_of_tag hmem
    · intro hx hname
      rw [voice?_of_not_tag (Cast.speaker?_eq_none_iff.mpr hx), if_pos hname]
    · intro hx hname
      rw [voice?_of_not_tag (Cast.speaker?_eq_none_iff.mpr hx), if_neg hname]

/-- Two tags that name each other, and a third one whose speaker is a tag. -/
def circle : Cast :=
  Cast.ofList [(Text.lit "a", Text.lit "b"), (Text.lit "b", Text.lit "a"),
    (Text.lit "c", Text.lit "b")]

/-- A cast in which each name is the tag of the next. Two opposite orders resolve it alike. -/
theorem resolve_in_any_order_of_circle :
    (ofOrders circle.entries circle.entries.reverse).resolve (Text.lit " B") =
        (ofOrders circle.entries.reverse circle.entries).resolve (Text.lit " B") ∧
      (ofOrders circle.entries circle.entries.reverse).resolve (Text.lit " B") =
        some (Text.lit "a") := by
  obtain ⟨hsame, -, hfound⟩ := resolve_in_any_order (c := circle) (.refl _) (List.reverse_perm _)
    (List.reverse_perm _) (.refl _)
  exact ⟨hsame _, (hfound (Text.lit " B") (Text.lit "b") (by decide)).1 _ (by decide)⟩

/-! ## Spellings -/

/-- Identifiers that differ in letter case only are looked up alike. -/
theorem resolve_of_lower_eq (s : Speakers) {id tag : Text} (h : Text.lower id = Text.lower tag) :
    s.resolve id = s.resolve tag := by
  rw [resolve, resolve, Text.lower_trim, Text.lower_trim, h]

/-- A line with a known speaker and something to say. -/
theorem dialogue_of_first {s : Speakers} {id delimiter text speaker : Text}
    (hfirst : ∀ i < id.length, ¬ delimiter <+: (id ++ delimiter).drop i)
    (hspeaker : s.resolve id = some speaker) (htext : Text.trim text ≠ []) :
    s.dialogue (id ++ delimiter ++ text) delimiter =
      speaker ++ Text.lit " " ++ literal (Text.trim text) := by
  have hsay : (Text.trim text).isEmpty = false := by simpa using htext
  simp only [dialogue, Text.cut_append hfirst, hsay, hspeaker, Bool.false_eq_true, if_false]

/-- **Characters are heard in any letter case.** Let a tag have no white space around it, and let it
be in lower case; or let its lower case be a tag of the same speaker, or no tag but that speaker's
name. In whatever letter case the tag is spelled, and whatever is said behind the delimiter, the line
is the speaker's, as long as the delimiter does not start inside the spelling. -/
theorem dialogue_of_spelling (o : Options) {tag speaker id text : Text}
    (htag : (tag, speaker) ∈ o.cast.entries) (htrim : Text.trim tag = tag)
    (hcase : Text.lower tag = tag ∨ (Text.lower tag, speaker) ∈ o.cast.entries ∨
      Text.lower tag ∉ o.cast.tags ∧ Text.lower tag = speaker)
    (hid : Text.lower id = Text.lower tag)
    (hfirst : ∀ i < id.length, ¬ o.delimiter <+: (id ++ o.delimiter).drop i)
    (htext : Text.trim text ≠ []) :
    (ofCast o.cast).dialogue (id ++ o.delimiter ++ text) o.delimiter =
      speaker ++ Text.lit " " ++ literal (Text.trim text) := by
  apply dialogue_of_first hfirst _ htext
  have hvoice : o.cast.voice? (Text.lower tag) = some speaker := by
    rw [voice?_eq_some_iff]
    rcases hcase with hlower | hsame | ⟨hnone, hname⟩
    · rw [hlower]
      exact .inl htag
    · exact .inl hsame
    · refine .inr ⟨?_, hname, tag, hname ▸ htag⟩
      intro x hx
      exact hnone (List.mem_map_of_mem hx)
  rw [resolve_of_lower_eq _ hid, ofCast, resolve_ofOrders (.refl _) (.refl _), htrim, hvoice]

end Script.Speakers

/-- The default options with another cast. -/
def Options.withCast (es : List (Text × Text)) : Options :=
  { default with characters := some (Cast.ofList es) }

/-- With the default marks, any cast without a blank side is accepted. -/
theorem Options.validate_withCast {es : List (Text × Text)}
    (h : ∀ e ∈ (withCast es).cast.entries, Text.isBlank e.1 = false ∧ Text.isBlank e.2 = false) :
    (withCast es).validate = .ok () := by
  obtain ⟨hempty, hoverlap, -⟩ := validate_eq_ok_iff.mp validate_default
  exact validate_eq_ok_iff.mpr ⟨hempty, hoverlap, blankSide?_eq_none_iff.mpr h⟩

namespace Script.Speakers

/-- A tag that is not in ASCII, spelled with capitals. -/
theorem dialogue_of_spelling_of_capitals :
    (ofCast (Options.withCast [(Text.lit "маша", Text.lit "m")]).cast).dialogue
        (Text.lit "МаША" ++ Text.lit " - " ++ Text.lit " привет - \"я\" ") (Text.lit " - ") =
      Text.lit "m" ++ Text.lit " " ++ literal (Text.lit "привет - \"я\"") := by
  have htag : (Text.lit "маша", Text.lit "m") ∈
      (Options.withCast [(Text.lit "маша", Text.lit "m")]).cast.entries := by decide
  have hid : Text.lower (Text.lit "МаША") = Text.lower (Text.lit "маша") := by decide
  have htext : Text.trim (Text.lit " привет - \"я\" ") ≠ [] := by decide
  have hsaid := dialogue_of_spelling _ htag (by decide) (.inl (by decide)) hid (by decide) htext
  have htrim : Text.trim (Text.lit " привет - \"я\" ") = Text.lit "привет - \"я\"" := by decide
  rwa [htrim] at hsaid

/-- A spelling of an accepted tag in which the tag's speaker is not heard, although nothing in the
tag or around it is in the way. -/
structure Unheard (o : Options) (tag speaker id text : Text) : Prop where
  accepted : o.validate = .ok ()
  entry : (tag, speaker) ∈ o.cast.entries
  trimmed : Text.trim tag = tag
  plain : Text.hash ∉ tag ∧ Text.newline ∉ tag
  apart : Text.includes o.delimiter tag = false
  spelled : Text.lower id = Text.lower tag
  said : Text.trim text ≠ []
  unheard : (ofCast o.cast).dialogue (id ++ o.delimiter ++ text) o.delimiter ≠
    speaker ++ Text.lit " " ++ literal (Text.trim text)

/-- **Tags that are not heard**: one in capitals, which is found in no spelling; one that ends like
the delimiter starts, so that the line is cut inside it; and one with a spelling that has the
delimiter in it. -/
theorem dialogue_of_unheard_tags :
    Unheard (.withCast [(Text.lit "MT", Text.lit "od")]) (Text.lit "MT") (Text.lit "od")
        (Text.lit "MT") (Text.lit "Hello") ∧
      Unheard (.withCast [(Text.lit "mt -", Text.lit "od")]) (Text.lit "mt -") (Text.lit "od")
        (Text.lit "mt -") (Text.lit "Hello") ∧
      Unheard { Options.withCast [(Text.lit "max", Text.lit "m")] with delimiter := Text.lit "X" }
        (Text.lit "max") (Text.lit "m") (Text.lit "MAX") (Text.lit "Hello") := by
  have hx : Options.validate
      { Options.withCast [(Text.lit "max", Text.lit "m")] with delimiter := Text.lit "X" } = .ok () :=
    Options.validate_eq_ok_iff.mpr
      ⟨by decide, by decide, Options.blankSide?_eq_none_iff.mpr (by decide)⟩
  refine ⟨⟨Options.validate_withCast ?_, ?_, ?_, ?_, ?_, ?_, ?_, ?_⟩,
    ⟨Options.validate_withCast ?_, ?_, ?_, ?_, ?_, ?_, ?_, ?_⟩, ⟨hx, ?_, ?_, ?_, ?_, ?_, ?_, ?_⟩⟩ <;>
    decide

end Script.Speakers

end NovelScript
