import NovelScript.Script.Options

/-!
# Accepted options

Options are accepted when none of the three checks finds anything, and each check is about all the
settings or all the entries it looks at, in whatever order it takes them.

* `Options.validate_eq_ok_iff`: the checks one by one.
* **`Options.validate_default`**: the options that are used when nothing else is said are accepted.
-/

namespace NovelScript.Options

/-- No empty mark is found exactly when none is empty. -/
theorem emptyLead?_eq_none_iff {named : List (String × Text)} :
    emptyLead? named = none ↔ ∀ n ∈ named, n.2 ≠ [] := by
  simp [emptyLead?]

/-- The order in which entries are looked at does not matter. -/
theorem blankSide?_eq_none_iff {c : Cast} :
    blankSide? c = none ↔
      ∀ e ∈ c.entries, Text.isBlank e.1 = false ∧ Text.isBlank e.2 = false := by
  simp [blankSide?, Cast.sorted]

/-- Options are accepted when each of the three checks finds nothing. They are made one after the
other, and the first finding is the one reported. -/
theorem validate_eq_ok_iff {o : Options} :
    o.validate = .ok () ↔
      emptyLead? o.leads = none ∧ overlap? o.leads = none ∧ blankSide? o.cast = none := by
  unfold validate
  cases h : o.problem? with
  | none =>
    simp only [problem?, Option.or_eq_none_iff] at h
    exact ⟨fun _ => h, fun _ => rfl⟩
  | some p =>
    refine ⟨fun hv => (by cases hv), fun hv => ?_⟩
    have hnone : o.problem? = none := by
      simpa only [problem?, Option.or_eq_none_iff] using hv
    rw [h] at hnone
    cases hnone

/-- Accepted options have a mark for escaped lines. -/
theorem ignore_ne_nil {o : Options} (h : o.validate = .ok ()) : o.marks.ignore ≠ [] := by
  obtain ⟨hempty, -, -⟩ := validate_eq_ok_iff.mp h
  exact emptyLead?_eq_none_iff.mp hempty ("syntax.ignore", o.marks.ignore) List.mem_cons_self

/-- The default options are accepted. -/
theorem validate_default : Options.default.validate = .ok () :=
  validate_eq_ok_iff.mpr ⟨by decide, by decide, blankSide?_eq_none_iff.mpr (by decide)⟩

end NovelScript.Options
