import NovelScript.Config.Schema
import NovelScript.Proofs.Script.Options

/-!
# Accepted settings

All broken rules are reported together, so settings are accepted exactly when they keep every single
rule, and the options of scripts the rules of their own: **`validate_eq_ok_iff`**. The rules look at
the members of the cast and not at their order, which is why settings with the same cast in another
order are accepted, too.
-/

namespace NovelScript.Config

/-- Settings that keep every rule. -/
structure KeepsRules (c : Config) : Prop where
  /-- The version is a number from one on. -/
  version : 1 ≤ c.version
  /-- The delimiter of speakers is something. -/
  delimiter : c.script.delimiter ≠ []
  /-- The mark of escaped lines is something. -/
  ignore : c.script.marks.ignore ≠ []
  /-- The mark of calls is something. -/
  call : c.script.marks.call ≠ []
  /-- The mark of jumps is something. -/
  jump : c.script.marks.jump ≠ []
  /-- Speakers are words. -/
  speakers : ∀ e ∈ c.script.cast.entries, isWord e.2 = true
  /-- Scripts have an ending. -/
  ext : isEnding c.build.ext = true
  /-- There are not too many workers. -/
  workers : 0 ≤ c.build.workers ∧ c.build.workers ≤ 256
  /-- The level of the log is one of its words. -/
  level : ∃ word ∈ levels, c.log.level = Text.lit word
  /-- The form of the log is one of its words. -/
  format : ∃ word ∈ formats, c.log.format = Text.lit word

/-- A requirement is no violation exactly when its condition holds. -/
theorem require_eq_nil_iff {condition : Bool} {field : Text} {rule : Rule} :
    require condition field rule = [] ↔ condition = true := by
  unfold require
  split <;> simp_all

/-- A character violates nothing when the name behind its tag is a word. -/
theorem characterViolations_eq_nil_iff {e : Text × Text} :
    characterViolations e = [] ↔ isWord e.2 = true := by
  unfold characterViolations
  simp only [List.append_eq_nil_iff, require_eq_nil_iff]
  constructor
  · intro h
    exact h.2
  · intro h
    refine ⟨?_, h⟩
    unfold isWord at h
    simp_all

/-- A text is one of some words exactly when it is the bytes of one of them. -/
theorem any_lit_iff {words : List String} {s : Text} :
    words.any (Text.lit · == s) = true ↔ ∃ word ∈ words, s = Text.lit word := by
  rw [List.any_eq_true]
  exact exists_congr fun word => and_congr_right fun _ => beq_iff_eq.trans eq_comm

/-- There are no violations exactly where all rules are kept. It turns the list that is reported
into the conditions that the other theorems ask for. -/
theorem violations_eq_nil_iff {c : Config} : c.violations = [] ↔ KeepsRules c := by
  unfold violations
  simp only [List.append_eq_nil_iff, require_eq_nil_iff, List.flatMap_eq_nil_iff, Cast.sorted,
    List.mem_mergeSort, characterViolations_eq_nil_iff, any_lit_iff, decide_eq_true_eq,
    Bool.not_eq_true', List.isEmpty_eq_false_iff]
  constructor
  · rintro ⟨⟨⟨⟨⟨⟨⟨⟨⟨⟨hversion, hdelimiter⟩, hignore⟩, hcall⟩, hjump⟩, hcast⟩, hext⟩, hleast⟩, hmost⟩,
      hlevel⟩, hformat⟩
    exact ⟨hversion, hdelimiter, hignore, hcall, hjump, hcast, hext, ⟨hleast, hmost⟩, hlevel, hformat⟩
  · intro h
    exact ⟨⟨⟨⟨⟨⟨⟨⟨⟨⟨h.version, h.delimiter⟩, h.ignore⟩, h.call⟩, h.jump⟩, h.speakers⟩, h.ext⟩,
      h.workers.1⟩, h.workers.2⟩, h.level⟩, h.format⟩

/-- Settings are accepted exactly when they keep every rule and the options of scripts are accepted. -/
theorem validate_eq_ok_iff {c : Config} :
    c.validate = .ok () ↔ KeepsRules c ∧ c.script.validate = .ok () := by
  unfold validate Options.validate
  rw [← violations_eq_nil_iff]
  cases c.violations with
  | nil => cases c.script.problem? <;> simp
  | cons v vs => simp

/-- The usual settings are accepted, with whatever ending of scripts. -/
theorem validate_of_ext {ext : Text} (h : isEnding ext = true) :
    ({ build := { ext } } : Config).validate = .ok () := by
  refine validate_eq_ok_iff.2 ⟨?_, Options.validate_default⟩
  constructor
  case ext => exact h
  case level => exact ⟨"info", by decide, rfl⟩
  case format => exact ⟨"console", by decide, rfl⟩
  all_goals
    dsimp only
    decide

end NovelScript.Config
