import NovelScript.Cache.Database

/-!
# Steps to a newer form

A step to a newer form of the tables is a transaction, and what may go wrong in it is a parameter:
`Trouble` refuses any parts of any steps.

* `Database.transact_eq_ok_iff`: a step that succeeds met no trouble, and did all its statements and
  the record of its number.
* `Database.Stands d v` says that the tables have the form `v` and the record says so.
  **`Database.stands_transact`** is the step lemma: a step leads from each form to the next one.
* **`Database.exists_stands_upgrade`** is the run: from every form, whatever is refused, the tables
  and their number end at one and the same form, not before the one they started from, and the run
  stops before the last form only where something was refused.
-/

namespace NovelScript.Cache

/-- What comes to a value came to one in each of its parts. -/
theorem except_bind_eq_ok {ε α β : Type} {x : Except ε α} {f : α → Except ε β} {b : β} :
    (x >>= f) = .ok b ↔ ∃ a, x = .ok a ∧ f a = .ok b := by
  cases x with
  | error e => simp [bind, Except.bind]
  | ok a => simp [bind, Except.bind]

/-- A failure of two parts is one of the first, or of the second behind a success of the first. -/
theorem except_bind_eq_error {ε α β : Type} {x : Except ε α} {f : α → Except ε β} {e : ε} :
    (x >>= f) = .error e ↔ x = .error e ∨ ∃ a, x = .ok a ∧ f a = .error e := by
  cases x with
  | error e' => simp [bind, Except.bind]
  | ok a => simp [bind, Except.bind]

/-- Whatever is made of a failure, it is none that comes to a value. -/
theorem except_mapError_eq_ok {ε ε' α : Type} {x : Except ε α} {f : ε → ε'} {a : α} :
    x.mapError f = .ok a ↔ x = .ok a := by
  delta Except.mapError
  cases x <;> simp

/-- The failure is that of a part of the step that was refused. -/
def Trouble.Refused (trouble : Trouble) (number : Int) (e : OpenFailure) : Prop :=
  ∃ part f, trouble number part = some f ∧ e = .step number part f

namespace Database

/-! ## Transactions -/

variable {trouble : Trouble} {number : Int} {d d' : Database}

/-- A part of a step succeeds when there is no trouble with it and its statement succeeds. -/
theorem attempt_eq_ok_iff {part : Part} {q : Statement} :
    attempt trouble number part q d = .ok d' ↔ trouble number part = none ∧ q d = .ok d' := by
  unfold attempt
  cases trouble number part with
  | some f => simp
  | none => simp [except_mapError_eq_ok]

/-- A part that would succeed by itself fails only when it is refused. -/
theorem refused_of_attempt {part : Part} {q : Statement} (hq : q d = .ok d') {e : OpenFailure}
    (h : attempt trouble number part q d = .error e) : trouble.Refused number e := by
  unfold attempt at h
  split at h
  · rename_i f hf
    cases h
    exact ⟨part, f, hf, rfl⟩
  · rw [hq] at h
    cases h

/-- The statements of a step succeed when none is refused and they succeed one after the other.
Refusals are given by number, so the induction moves the number on with the statements. -/
theorem attemptAll_eq_ok_iff {i : Nat} {step : List Statement} :
    attemptAll trouble number i step d = .ok d' ↔
      (∀ j, j < step.length → trouble number (.statement (i + j)) = none) ∧
        step.foldlM (fun d q => q d) d = .ok d' := by
  induction step generalizing i d with
  | nil => simp [attemptAll, pure, Except.pure]
  | cons q more ih =>
    have hparts : (∀ j, j < (q :: more).length → trouble number (.statement (i + j)) = none) ↔
        trouble number (.statement i) = none ∧
          ∀ j, j < more.length → trouble number (.statement (i + 1 + j)) = none := by
      constructor
      · intro h
        refine ⟨h 0 (by simp), fun j hj => ?_⟩
        have hj := h (j + 1) (by simpa using hj)
        rwa [show i + 1 + j = i + (j + 1) by omega]
      · rintro ⟨hfirst, hmore⟩ j hj
        cases j with
        | zero => exact hfirst
        | succ j =>
          rw [show i + (j + 1) = i + 1 + j by omega]
          exact hmore j (by simpa using hj)
    rw [hparts, attemptAll, List.foldlM_cons, except_bind_eq_ok, except_bind_eq_ok]
    constructor
    · rintro ⟨mid, hq, hmore⟩
      obtain ⟨hnone, hmid⟩ := attempt_eq_ok_iff.mp hq
      obtain ⟨hrest, hlast⟩ := ih.mp hmore
      exact ⟨⟨hnone, hrest⟩, mid, hmid, hlast⟩
    · rintro ⟨⟨hnone, hrest⟩, mid, hmid, hlast⟩
      exact ⟨mid, attempt_eq_ok_iff.mpr ⟨hnone, hmid⟩, ih.mpr ⟨hrest, hlast⟩⟩

/-- Statements that would succeed by themselves fail only when one of them is refused. So a step
that fails is one that met trouble. -/
theorem refused_of_attemptAll {i : Nat} {step : List Statement}
    (hstep : step.foldlM (fun d q => q d) d = .ok d') {e : OpenFailure}
    (h : attemptAll trouble number i step d = .error e) : trouble.Refused number e := by
  induction step generalizing i d with
  | nil => cases h
  | cons q more ih =>
    rw [List.foldlM_cons, except_bind_eq_ok] at hstep
    obtain ⟨mid, hq, hmore⟩ := hstep
    rw [attemptAll, except_bind_eq_error] at h
    rcases h with h | ⟨mid', hq', h⟩
    · exact refused_of_attempt hq h
    · have hsame := (attempt_eq_ok_iff.mp hq').2
      rw [hq] at hsame
      cases hsame
      exact ih hmore h

/-- **A step that succeeds** met no trouble and did everything; its number is recorded. Anything
else leaves the tables as they were, since the step is one transaction. -/
theorem transact_eq_ok_iff {step : List Statement} :
    transact trouble number step d = .ok d' ↔
      (trouble number .begin = none ∧
        (∀ j, j < step.length → trouble number (.statement j) = none) ∧
        trouble number .record = none ∧ trouble number .commit = none) ∧
        ∃ mid, step.foldlM (fun d q => q d) d = .ok mid ∧
          d' = { mid with schema := some (.number number) } := by
  unfold transact
  simp only [except_bind_eq_ok, attempt_eq_ok_iff, attemptAll_eq_ok_iff, Except.ok.injEq,
    Nat.zero_add]
  constructor
  · rintro ⟨_, ⟨hbegin, rfl⟩, mid, ⟨hparts, hmid⟩, _, ⟨hrecord, rfl⟩, hcommit, rfl⟩
    exact ⟨⟨hbegin, hparts, hrecord, hcommit⟩, mid, hmid, rfl⟩
  · rintro ⟨⟨hbegin, hparts, hrecord, hcommit⟩, mid, hmid, rfl⟩
    exact ⟨_, ⟨hbegin, rfl⟩, mid, ⟨hparts, hmid⟩, _, ⟨hrecord, rfl⟩, hcommit, rfl⟩

/-- A step whose statements would succeed by themselves fails only when a part of it is refused. -/
theorem refused_of_transact {step : List Statement}
    (hstep : step.foldlM (fun d q => q d) d = .ok d') {e : OpenFailure}
    (h : transact trouble number step d = .error e) : trouble.Refused number e := by
  unfold transact at h
  simp only [except_bind_eq_error, attempt_eq_ok_iff, Except.ok.injEq] at h
  rcases h with h | ⟨_, ⟨-, rfl⟩, h | ⟨mid, -, h | ⟨_, -, h⟩⟩⟩
  · exact refused_of_attempt rfl h
  · exact refused_of_attemptAll hstep h
  · exact refused_of_attempt rfl h
  · exact refused_of_attempt rfl h

/-! ## Forms -/

/-- The table of builds has the form of this number. Newer forms than the last one are not known
here. -/
def HasForm (d : Database) : Nat → Prop
  | 0 => d.builds = none
  | 1 => ∃ table, d.builds = some { table, hasRuns := false }
  | 2 => ∃ table, d.builds = some { table, hasRuns := true }
  | _ => True

/-- The tables have the form `v`, and the number that is kept with them says so. -/
structure Stands (d : Database) (v : Nat) : Prop where
  schema : d.schema = some (.number v)
  form : d.HasForm v

/-- The steps end at the form that the program works with. -/
theorem length_steps : (steps.length : Int) = currentSchema := rfl

/-- From a form, the statements of its step lead to the tables of the next one: each statement finds
what it needs in what the last one has left. -/
theorem exists_foldlM_of_form {v : Nat} (h : d.HasForm v) {step : List Statement}
    (hstep : steps[v]? = some step) :
    ∃ mid, step.foldlM (fun d q => q d) d = .ok mid ∧ mid.HasForm (v + 1) := by
  match v with
  | 0 =>
    cases hstep
    refine ⟨_, rfl, [], ?_⟩
    simp only [HasForm] at h
    simp [h]
  | 1 =>
    cases hstep
    obtain ⟨table, hb⟩ := h
    refine ⟨{ d with builds := some { table, hasRuns := true } }, ?_, table, rfl⟩
    simp [addRuns, makeIndex, hb, bind, Except.bind, pure, Except.pure]
  | _ + 2 => simp [steps] at hstep

/-- **What a step does to a form**: it leads to the next one when it succeeds, and it succeeds unless
it is refused. -/
theorem stands_transact {v : Nat} (h : d.Stands v) {step : List Statement}
    (hstep : steps[v]? = some step) :
    (∀ d', transact trouble (v + 1 : Nat) step d = .ok d' → d'.Stands (v + 1)) ∧
      ∀ e, transact trouble (v + 1 : Nat) step d = .error e → trouble.Refused (v + 1 : Nat) e := by
  obtain ⟨mid, hmid, hform⟩ := exists_foldlM_of_form h.form hstep
  constructor
  · intro d' hd'
    obtain ⟨-, mid', hmid', rfl⟩ := transact_eq_ok_iff.mp hd'
    rw [hmid] at hmid'
    cases hmid'
    refine ⟨rfl, ?_⟩
    match v, hform with
    | 0, hform => exact hform
    | 1, hform => exact hform
    | _ + 2, _ => trivial
  · intro e he
    exact refused_of_transact hmid he

/-- **Bringing the tables up to date from any form.** Whatever is refused, the tables and their number
end at one form `w`, which is not before the form they had and, unless they were newer, not behind
the last one. The run succeeds exactly when `w` is the last form, or the form they had if that was
newer, and when it does not, a part of the step to the form behind `w` was refused. -/
theorem exists_stands_upgrade {v : Nat} (h : d.Stands v) (trouble : Trouble) :
    ∃ w : Nat, v ≤ w ∧ (w : Int) ≤ max (v : Int) currentSchema ∧ (upgrade trouble v d).1.Stands w ∧
      ((upgrade trouble v d).2 = .ok () ↔ (w : Int) = max (v : Int) currentSchema) ∧
      ∀ e, (upgrade trouble v d).2 = .error e → trouble.Refused (w + 1 : Nat) e := by
  unfold upgrade
  rw [Int.toNat_natCast]
  -- the steps that are left are those from the form on
  generalize hrest : steps.drop v = rest
  induction rest generalizing v d with
  | nil =>
    have hlast : steps.length ≤ v := List.drop_eq_nil_iff.mp hrest
    rw [← length_steps]
    refine ⟨v, Nat.le_refl v, by omega, h, ?_, ?_⟩
    · simp only [climb, true_iff]
      omega
    · intro e he
      cases he
  | cons step more ih =>
    have hlt : v < steps.length := by
      have hlength := congrArg List.length hrest
      rw [List.length_drop, List.length_cons] at hlength
      omega
    have hstep : steps[v]? = some step := by
      rw [← List.head?_drop, hrest]
      rfl
    have hmore : steps.drop (v + 1) = more := by
      rw [← List.tail_drop, hrest]
      rfl
    obtain ⟨hgoes, hstops⟩ := @stands_transact trouble d v h step hstep
    rw [← length_steps] at ih ⊢
    rw [climb, show ((v : Int) + 1) = ((v + 1 : Nat) : Int) by omega]
    cases hd' : transact trouble (v + 1 : Nat) step d with
    | error e =>
      refine ⟨v, Nat.le_refl v, by omega, h, ?_, ?_⟩
      · simp only [reduceCtorEq, false_iff]
        omega
      · intro e' he'
        cases he'
        exact hstops e hd'
    | ok d' =>
      obtain ⟨w, hle, hw, hstands, hok, herror⟩ := ih (hgoes d' hd') hmore
      have hmax : max ((v + 1 : Nat) : Int) steps.length = max (v : Int) steps.length := by omega
      rw [hmax] at hw hok
      exact ⟨w, by omega, hw, hstands, hok, herror⟩

/-- A form that is not older than the last one stays as it is. -/
theorem upgrade_of_le {v : Nat} (h : currentSchema ≤ v) (trouble : Trouble) (d : Database) :
    upgrade trouble v d = (d, .ok ()) := by
  rw [← length_steps] at h
  unfold upgrade
  rw [Int.toNat_natCast, List.drop_eq_nil_of_le (by omega)]
  rfl

end Database

end NovelScript.Cache
