import Mathlib.Data.List.Pairwise
import NovelScript.Proofs.Script.Options
import NovelScript.Proofs.Text.Split
import NovelScript.Script.Statement

/-!
# Marks that cannot be confused

What kind of line it is shows in how the line starts, so no line may start like two kinds at once.
Options are checked for this by comparing the settings with each other, which says the same: two
texts start a common text exactly when one of them starts the other (`exists_common_iff`).

* `Options.overlap?_leads_eq_none_iff`: the comparison finds nothing exactly when no text at all
  starts with two of the four settings.
* **`Options.validate_iff_unambiguous`**: options are accepted exactly when the four settings are
  there, no text starts with two of them, and no entry of the cast has a blank side. In accepted
  options the order in which calls and jumps are looked for has no meaning.
-/

namespace NovelScript

namespace Text

/-- Two texts start a common text exactly when one starts the other. -/
theorem exists_common_iff {a b : Text} : (∃ s, a <+: s ∧ b <+: s) ↔ a <+: b ∨ b <+: a := by
  constructor
  · rintro ⟨s, ha, hb⟩
    exact List.prefix_or_prefix_of_prefix ha hb
  · rintro (h | h)
    · exact ⟨b, h, List.prefix_refl b⟩
    · exact ⟨a, List.prefix_refl a, h⟩

end Text

namespace Options

/-- No overlap is found exactly when none of the named texts starts with another one. -/
theorem overlap?_eq_none_iff {named : List (String × Text)} :
    overlap? named = none ↔ ∀ n ∈ named, ∀ m ∈ named, m.1 ≠ n.1 → ¬ n.2 <+: m.2 := by
  simp [overlap?, Text.startsWith]

/-- Settings of different names of which none starts another one are settings of which no two start
a common text. -/
theorem pairwise_iff_of_nodup {named : List (String × Text)} (hnames : (named.map Prod.fst).Nodup) :
    (∀ n ∈ named, ∀ m ∈ named, m.1 ≠ n.1 → ¬ n.2 <+: m.2) ↔
      (named.map Prod.snd).Pairwise fun a b => ¬ ∃ s, a <+: s ∧ b <+: s := by
  rw [List.pairwise_map]
  constructor
  · intro h
    have hdistinct : named.Pairwise fun n m => n.1 ≠ m.1 := List.pairwise_map.mp hnames
    apply hdistinct.imp_of_mem
    intro n m hn hm hne hcommon
    rcases Text.exists_common_iff.mp hcommon with hpre | hpre
    · exact h n hn m hm hne.symm hpre
    · exact h m hm n hn hne hpre
  · intro h n hn m hm hne hpre
    have : Std.Symm fun n m : String × Text => ¬ ∃ s, n.2 <+: s ∧ m.2 <+: s :=
      ⟨fun n m hnm ⟨s, hm, hn⟩ => hnm ⟨s, hn, hm⟩⟩
    have hdiffer : n ≠ m := fun heq => hne (heq ▸ rfl)
    exact h.forall hn hm hdiffer (Text.exists_common_iff.mpr (.inl hpre))

/-- **No overlap is found among the marks exactly when no text starts with two of them.** One of two
marks in front of one text is in front of the other one, which is what the check looks for. -/
theorem overlap?_leads_eq_none_iff {o : Options} :
    overlap? o.leads = none ↔
      [o.marks.ignore, o.marks.call, o.marks.jump, o.delimiter].Pairwise
        fun a b => ¬ ∃ s, a <+: s ∧ b <+: s := by
  rw [overlap?_eq_none_iff]
  have hnames : (o.leads.map Prod.fst).Nodup := by
    change ["syntax.ignore", "syntax.call", "syntax.jump", "character_delim"].Nodup
    decide
  exact pairwise_iff_of_nodup hnames

/-- A text is not blank when something is left of it after trimming. -/
theorem isBlank_eq_false_iff {s : Text} : Text.isBlank s = false ↔ Text.trim s ≠ [] := by
  simp [Text.isBlank]

end Options

/-! ## The order of the marks -/

namespace Script

/-- A line without its comment when the mark of a jump is looked for before that of a call. -/
def statementJumpFirst (o : Options) (speakers : Speakers) (content : Text) : Text :=
  if Text.startsWith o.marks.jump content then
    Text.lit "jump " ++ Text.trim (content.drop o.marks.jump.length)
  else if Text.startsWith o.marks.call content then
    Text.lit "call " ++ Text.trim (content.drop o.marks.call.length)
  else speakers.dialogue content o.delimiter

/-- When no line can be both a call and a jump, it does not matter what is looked for first. -/
theorem statement_eq_jumpFirst {o : Options}
    (h : ¬ ∃ s, o.marks.call <+: s ∧ o.marks.jump <+: s) (speakers : Speakers) (content : Text) :
    statement o speakers content = statementJumpFirst o speakers content := by
  unfold statement statementJumpFirst
  split
  · rename_i hcall
    rw [if_neg]
    intro hjump
    exact h ⟨content, Text.startsWith_iff.mp hcall, Text.startsWith_iff.mp hjump⟩
  · rfl

end Script

namespace Options

/-- **Accepted options are the unambiguous ones.** Options are accepted exactly when the three marks
and the delimiter are not empty, no text at all starts with two of these four, and neither side of an
entry of the cast is blank. So with accepted options a line reads the same in the script whether
calls or jumps are looked for first. -/
theorem validate_iff_unambiguous (o : Options) :
    (o.validate = .ok () ↔
      (o.marks.ignore ≠ [] ∧ o.marks.call ≠ [] ∧ o.marks.jump ≠ [] ∧ o.delimiter ≠ []) ∧
        [o.marks.ignore, o.marks.call, o.marks.jump, o.delimiter].Pairwise
          (fun a b => ¬ ∃ s, a <+: s ∧ b <+: s) ∧
        ∀ e ∈ o.cast.entries, Text.trim e.1 ≠ [] ∧ Text.trim e.2 ≠ []) ∧
      (o.validate = .ok () → ∀ (speakers : Script.Speakers) (content : Text),
        Script.statement o speakers content = Script.statementJumpFirst o speakers content) := by
  have hiff : o.validate = .ok () ↔ _ := validate_eq_ok_iff
  rw [overlap?_leads_eq_none_iff] at hiff
  constructor
  · rw [hiff, emptyLead?_eq_none_iff, blankSide?_eq_none_iff]
    simp only [isBlank_eq_false_iff]
    simp [leads]
  · intro hvalid speakers content
    obtain ⟨-, hmarks, -⟩ := hiff.mp hvalid
    have hcall := (List.pairwise_cons.mp (List.pairwise_cons.mp hmarks).2).1
    exact Script.statement_eq_jumpFirst (hcall o.marks.jump (by simp)) speakers content

/-- Options with marks of a call and a jump that start alike and then differ. -/
def arrows : Options :=
  { default with marks := ⟨Text.lit "\\", Text.lit "=>", Text.lit "=|"⟩ }

/-- Marks made of arrows that are accepted: with them, a statement is read alike whether jumps or
calls are looked for first. -/
theorem validate_iff_unambiguous_of_arrows :
    arrows.validate = .ok () ∧
      Script.statement arrows (.ofCast arrows.cast) (Text.lit "=| end") =
        Script.statementJumpFirst arrows (.ofCast arrows.cast) (Text.lit "=| end") ∧
      Script.statementJumpFirst arrows (.ofCast arrows.cast) (Text.lit "=| end") =
        Text.lit "jump end" := by
  have hvalid : arrows.validate = .ok () :=
    validate_eq_ok_iff.mpr ⟨by decide, by decide, blankSide?_eq_none_iff.mpr (by decide)⟩
  refine ⟨hvalid, (validate_iff_unambiguous arrows).2 hvalid _ _, ?_⟩
  decide

end Options

end NovelScript
