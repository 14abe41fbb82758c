import Mathlib.Data.Set.Card
import Mathlib.Order.Bounds.Basic
import NovelScript.Proofs.Cache.Handle
import NovelScript.Proofs.Cache.Work

/-!
# What a cache remembers

A cache is asked for one thing after the other: to keep what is offered, to forget old entries, to
find one, to count them. What it must answer afterwards is said by this history alone:
`Live history e` is the entry that was kept last for its document and that was not too old for any
forgetting since.

The table of builds is a faithful memory of a history, **`Table.Records`**: it has one entry for each
document, and its entries are the live ones. One step keeps this (`Records.store`, `Records.prune`
and their like), and so does a run of steps.

A `Service` is a cache of whatever kind, known by what it does on each request, which may be to
refuse it. So the history that counts is that of the requests it has answered, `Service.heard`: a
request that is refused must leave no trace. **`Serves`** says that a cache works on a table in this
sense, request by request, and **`Serves.refines`** that after every history it answers what the
history it has heard says, `Refines`. Which requests are answered for sure is a parameter of both.
-/

namespace NovelScript.Cache

/-! ## Histories -/

/-- One thing that is asked of a cache. -/
inductive Step where
  /-- To keep what is offered at a time. -/
  | store (now : Int) (o : Offer)
  /-- To forget the entries that were built before a time. -/
  | prune (cutoff : Int)
  /-- To find the script of a document. -/
  | lookup (path source options : Text)
  /-- To count what is there. -/
  | stats

/-- An offer is about the document that its entry is about, whenever it is made. -/
@[simp] theorem Offer.path_entry (o : Offer) (now : Int) : (o.entry now).path = o.path := rfl

/-- Is this the entry that a step asks to keep? -/
def Step.Keeps : Step → Entry → Prop
  | .store now o, e => o.entry now = e
  | _, _ => False

/-- Does an entry survive a step? It does not when another one is kept for its document, or when it
is too old. -/
def Step.Spares : Step → Entry → Prop
  | .store _ o, e => o.path ≠ e.path
  | .prune cutoff, e => cutoff ≤ e.builtAt
  | .lookup _ _ _, _ => True
  | .stats, _ => True

/-- The entry is what a history leaves of its document: it was kept, and it has survived every step
since. An entry that names no document is never kept. -/
def Live (history : List Step) (e : Entry) : Prop :=
  Text.isBlank e.path = false ∧ ∃ before step after, history = before ++ step :: after ∧
    step.Keeps e ∧ ∀ later ∈ after, later.Spares e

/-- Before anything is kept nothing is live. -/
theorem not_live_nil (e : Entry) : ¬ Live [] e := by
  rintro ⟨-, before, step, after, heq, -⟩
  simp at heq

/-- After one more step an entry is live when the step kept it, or when it was live and survives.
With `not_live_nil` this is `Live` as a recursion over the history from its end, and nothing else
about it is used when a table is compared with a history. -/
theorem live_concat {history : List Step} {step : Step} {e : Entry} :
    Live (history ++ [step]) e ↔
      step.Keeps e ∧ Text.isBlank e.path = false ∨ Live history e ∧ step.Spares e := by
  constructor
  · rintro ⟨hpath, before, s, after, heq, hkeeps, hspared⟩
    rcases List.eq_nil_or_concat after with rfl | ⟨after, last, rfl⟩
    · obtain ⟨-, rfl⟩ := List.append_singleton_inj.1 heq
      exact .inl ⟨hkeeps, hpath⟩
    · rw [List.concat_eq_append] at heq hspared
      rw [← List.cons_append, ← List.append_assoc] at heq
      obtain ⟨rfl, rfl⟩ := List.append_singleton_inj.1 heq
      refine .inr ⟨⟨hpath, before, s, after, rfl, hkeeps, fun later hlater => ?_⟩, ?_⟩
      · exact hspared later (List.mem_append_left _ hlater)
      · exact hspared step (by simp)
  · rintro (⟨hkeeps, hpath⟩ | ⟨⟨hpath, before, s, after, rfl, hkeeps, hspared⟩, hstep⟩)
    · exact ⟨hpath, history, step, [], rfl, hkeeps, by simp⟩
    · refine ⟨hpath, before, s, after ++ [step], by simp, hkeeps, fun later hlater => ?_⟩
      rcases List.mem_append.1 hlater with hlater | hlater
      · exact hspared later hlater
      · rw [List.mem_singleton.1 hlater]
        exact hstep

/-! ## Tables with one entry for each document -/

namespace Table

variable {t : Table} {e : Entry}

/-- Which documents a table knows after an entry was kept: those that it knew, in their order, and
the one of the entry behind them if it is new. -/
theorem paths_store (e : Entry) (t : Table) :
    (t.store e).map (·.path) =
      if e.path ∈ t.map (·.path) then t.map (·.path) else t.map (·.path) ++ [e.path] := by
  induction t with
  | nil => simp [store]
  | cons old more ih =>
    unfold store
    by_cases h : old.path = e.path
    · simp [h]
    · have h' : e.path ≠ old.path := Ne.symm h
      simp only [h, if_false, List.map_cons, ih, List.mem_cons, h', false_or]
      split <;> simp

/-- So a table goes on having one entry for each document. -/
theorem nodup_store (h : (t.map (·.path)).Nodup) (e : Entry) :
    ((t.store e).map (·.path)).Nodup := by
  rw [paths_store]
  split
  · exact h
  · rename_i hnew
    rw [List.nodup_append]
    refine ⟨h, by simp, fun a ha b hb hab => hnew ?_⟩
    rw [← List.mem_singleton.1 hb, ← hab]
    exact ha

/-- Entries of one document are one entry. -/
theorem eq_of_path (h : (t.map (·.path)).Nodup) {e e' : Entry} (he : e ∈ t) (he' : e' ∈ t)
    (hpath : e.path = e'.path) : e = e' :=
  List.inj_on_of_nodup_map h he he' hpath

/-- Which entries a table has after one was kept: that one, and the others of other documents. It is
the table's side of what `live_concat` says about histories. -/
theorem mem_store_iff (h : (t.map (·.path)).Nodup) {x : Entry} :
    x ∈ t.store e ↔ x = e ∨ x ∈ t ∧ e.path ≠ x.path := by
  induction t with
  | nil => simp [store]
  | cons old more ih =>
    rw [List.map_cons, List.nodup_cons] at h
    unfold store
    by_cases hold : old.path = e.path
    · have hrest : x ∈ more → e.path ≠ x.path := by
        intro hx heq
        exact h.1 (hold ▸ heq ▸ List.mem_map_of_mem hx)
      simp only [hold, if_true, List.mem_cons]
      constructor
      · rintro (rfl | hx)
        · exact .inl rfl
        · exact .inr ⟨.inr hx, hrest hx⟩
      · rintro (rfl | ⟨rfl | hx, hne⟩)
        · exact .inl rfl
        · exact absurd hold.symm hne
        · exact .inr hx
    · simp only [hold, if_false, List.mem_cons, ih h.2]
      constructor
      · rintro (rfl | rfl | ⟨hx, hne⟩)
        · exact .inr ⟨.inl rfl, Ne.symm hold⟩
        · exact .inl rfl
        · exact .inr ⟨.inr hx, hne⟩
      · rintro (rfl | ⟨rfl | hx, hne⟩)
        · exact .inr (.inl rfl)
        · exact .inl rfl
        · exact .inr (.inr ⟨hx, hne⟩)

/-- What is found is the script of the entry with these fingerprints, which is the last one kept for
its document, and no other. -/
theorem lookup_eq_some_iff (h : (t.map (·.path)).Nodup) {path source options output : Text} :
    t.lookup path source options = some output ↔
      ∃ e ∈ t, e.path = path ∧ e.source = source ∧ e.options = options ∧ e.output = output := by
  constructor
  · exact exists_of_lookup
  · rintro ⟨e, he, rfl, rfl, rfl, rfl⟩
    unfold lookup
    cases hfind : t.find? (fun x => x.path == e.path && x.source == e.source &&
        x.options == e.options) with
    | none => exact absurd (List.find?_eq_none.1 hfind e he) (by simp)
    | some x =>
      have hx := List.find?_some hfind
      simp only [Bool.and_eq_true, beq_iff_eq] at hx
      rw [eq_of_path h (List.mem_of_find?_eq_some hfind) he hx.1.1]
      rfl

/-- The table has one entry for each document, and its entries are those that a history leaves. -/
def Records (t : Table) (history : List Step) : Prop :=
  (t.map (·.path)).Nodup ∧ ∀ e, e ∈ t ↔ Live history e

namespace Records

variable {history : List Step}

/-- The empty table records the empty history. -/
theorem nil : Records [] [] :=
  ⟨List.nodup_nil, fun e => by simp [not_live_nil]⟩

/-- A step that only asks changes neither the table nor what is live. -/
theorem ask (h : Records t history) {step : Step} (hkeeps : ∀ e, ¬ step.Keeps e)
    (hspares : ∀ e, step.Spares e) : Records t (history ++ [step]) := by
  refine ⟨h.1, fun x => ?_⟩
  rw [h.2, live_concat]
  simp [hkeeps x, hspares x]

/-- The entry that is kept takes the place of the one of its document, in the table as among those
that are live. -/
theorem store (h : Records t history) {now : Int} {o : Offer}
    (ho : Text.isBlank o.path = false) :
    Records (t.store (o.entry now)) (history ++ [.store now o]) := by
  refine ⟨nodup_store h.1 _, fun x => ?_⟩
  rw [mem_store_iff h.1, h.2, live_concat]
  constructor
  · rintro (rfl | hx)
    · exact .inl ⟨rfl, ho⟩
    · exact .inr hx
  · rintro (⟨rfl, -⟩ | hx)
    · exact .inl rfl
    · exact .inr hx

/-- An offer that names no document leaves no trace in a history. -/
theorem store_blank (h : Records t history) (now : Int) {o : Offer}
    (ho : Text.isBlank o.path = true) : Records t (history ++ [.store now o]) := by
  refine ⟨h.1, fun x => ?_⟩
  rw [h.2, live_concat]
  constructor
  · intro hx
    refine .inr ⟨hx, fun heq => ?_⟩
    have hblank := hx.1
    rw [← heq, ho] at hblank
    cases hblank
  · rintro (⟨rfl, hblank⟩ | ⟨hx, -⟩)
    · exact absurd (ho.symm.trans hblank) (by simp)
    · exact hx

/-- Forgetting takes the same entries from the table as from what is live, so a table goes on
recording its history. -/
theorem prune (h : Records t history) (cutoff : Int) :
    Records (t.prune cutoff) (history ++ [.prune cutoff]) := by
  constructor
  · unfold Table.prune
    exact h.1.sublist (List.filter_sublist.map _)
  · intro x
    unfold Table.prune
    rw [List.mem_filter, h.2, live_concat]
    simp [Step.Keeps, Step.Spares]

end Records

end Table

/-! ## Caches of every kind -/

section

variable {σ : Type}

/-- A cache, known by what it does with its state on each request. -/
structure Service (σ : Type) where
  /-- Finds the script of a document. -/
  lookup : Text → Text → Text → Work σ Failure (Option Text)
  /-- Keeps what is offered at a time. -/
  store : Int → Offer → Work σ Failure Unit
  /-- Forgets the entries that were built before a time, and says how many. -/
  prune : Int → Work σ Failure Int
  /-- Counts what is there. -/
  stats : Work σ Failure Stats

namespace Service

/-- One step, without what it gives. -/
def perform (c : Service σ) : Step → Work σ Failure Unit
  | .store now o => c.store now o
  | .prune cutoff => do let _ ← c.prune cutoff
  | .lookup path source options => do let _ ← c.lookup path source options
  | .stats => do let _ ← c.stats

/-- The state after a history. -/
def run (c : Service σ) (st : σ) : List Step → σ
  | [] => st
  | step :: more => c.run ((c.perform step).after st) more

/-- The steps of a history that are answered; the others are refused. -/
def heard (c : Service σ) (st : σ) : List Step → List Step
  | [] => []
  | step :: more =>
    match c.perform step st with
    | .ok _ st' => step :: c.heard st' more
    | .error _ st' => c.heard st' more

/-- A step that is answered is heard. -/
theorem heard_of_ok {c : Service σ} {st st' : σ} {step : Step} (h : c.perform step st = .ok () st') :
    c.heard st [step] = [step] := by
  simp only [heard, h]

/-- A step that is refused is not heard. -/
theorem heard_of_error {c : Service σ} {st st' : σ} {step : Step} {f : Failure}
    (h : c.perform step st = .error f st') : c.heard st [step] = [] := by
  simp only [heard, h]

/-- What is heard of a history is heard of its first step, and of the others behind that. -/
theorem heard_cons (c : Service σ) (st : σ) (step : Step) (more : List Step) :
    c.heard st (step :: more) =
      c.heard st [step] ++ c.heard ((c.perform step).after st) more := by
  unfold Work.after
  simp only [heard]
  cases c.perform step st <;> rfl

/-- Nothing is heard that was not said, and it is heard in the order in which it was said. -/
theorem heard_sublist (c : Service σ) (st : σ) (history : List Step) :
    (c.heard st history).Sublist history := by
  induction history generalizing st with
  | nil => exact .slnil
  | cons step more ih =>
    unfold heard
    cases c.perform step st with
    | ok _ st' => exact (ih st').cons_cons step
    | error _ st' => exact (ih st').cons step

end Service

/-- A cache works on the table that `table` finds in its state: a request that is answered is
answered from the table and changes it in its way, and one that is refused leaves it as it is.
Requests that are `Sure` are answered. -/
structure Serves (c : Service σ) (table : σ → Option Table) (Sure : Step → Prop) : Prop where
  /-- Finding an entry changes nothing. -/
  lookup {st : σ} {t : Table} (h : table st = some t) (path source options : Text) :
    Answered (Sure (.lookup path source options)) (c.lookup path source options) st
      (fun found st' => found = t.lookup path source options ∧ table st' = some t)
      (table · = some t)
  /-- An entry takes the place of the one of its document. -/
  store {st : σ} {t : Table} (h : table st = some t) (now : Int) {o : Offer}
    (ho : Text.isBlank o.path = false) :
    Answered (Sure (.store now o)) (c.store now o) st
      (fun _ st' => table st' = some (t.store (o.entry now))) (table · = some t)
  /-- What names no document is refused. -/
  blank (st : σ) (now : Int) {o : Offer} (ho : Text.isBlank o.path = true) :
    c.store now o st = .error .noPath st
  /-- Old entries go and are counted. -/
  prune {st : σ} {t : Table} (h : table st = some t) (cutoff : Int) :
    Answered (Sure (.prune cutoff)) (c.prune cutoff) st
      (fun n st' => n = (t.length - (t.prune cutoff).length : Nat) ∧
        table st' = some (t.prune cutoff)) (table · = some t)
  /-- Counting changes nothing. -/
  stats {st : σ} {t : Table} (h : table st = some t) :
    Answered (Sure .stats) c.stats st
      (fun s st' => table st' = some t ∧ s.entries = t.stats.entries ∧
        s.oldest = t.stats.oldest ∧ s.newest = t.stats.newest) (table · = some t)

namespace Serves

variable {c : Service σ} {table : σ → Option Table} {Sure : Step → Prop} {st : σ} {t : Table}
  {past : List Step}

/-- A step with a name, if it needs one: when it is answered, the table records it behind what was
recorded before. What the step gives is left out here, it is `Refines` that speaks about it. -/
theorem answered_perform (h : Serves c table Sure) (ht : table st = some t)
    (hrec : t.Records past) {step : Step}
    (hnamed : ∀ now o, step = .store now o → Text.isBlank o.path = false) :
    Answered (Sure step) (c.perform step) st
      (fun _ st' => ∃ t', table st' = some t' ∧ t'.Records (past ++ [step]))
      (table · = some t) := by
  cases step with
  | store now o =>
    have ho := hnamed now o rfl
    exact (h.store ht now ho).imp fun _ st' ht' => ⟨_, ht', hrec.store ho⟩
  | prune cutoff =>
    exact ((h.prune ht cutoff).imp fun _ st' ht' => ⟨_, ht'.2, hrec.prune cutoff⟩).forget
  | lookup path source options =>
    exact ((h.lookup ht path source options).imp fun _ st' ht' =>
      ⟨t, ht'.2, hrec.ask (fun _ => id) fun _ => trivial⟩).forget
  | stats =>
    exact ((h.stats ht).imp fun _ st' ht' =>
      ⟨t, ht'.1, hrec.ask (fun _ => id) fun _ => trivial⟩).forget

/-- **One step** keeps the table a record of what was heard: a step that is answered is recorded, and
one that is refused is not. A step that is sure to be answered may be counted as heard in any case,
since the only such step that can be refused is to keep what names no document, which would change
nothing. -/
theorem step (h : Serves c table Sure) (ht : table st = some t) (hrec : t.Records past)
    (s : Step) :
    (∃ t', table ((c.perform s).after st) = some t' ∧ t'.Records (past ++ c.heard st [s])) ∧
      (Sure s → ∃ t', table ((c.perform s).after st) = some t' ∧ t'.Records (past ++ [s])) := by
  by_cases hnamed : ∀ now o, s = .store now o → Text.isBlank o.path = false
  · obtain ⟨hmeets, hsure⟩ := h.answered_perform ht hrec hnamed
    obtain ⟨hok, herror⟩ := hmeets st rfl
    unfold Work.after
    cases hstep : c.perform s st with
    | ok a st' =>
      rw [Service.heard_of_ok hstep]
      exact ⟨hok a st' hstep, fun _ => hok a st' hstep⟩
    | error e st' =>
      rw [Service.heard_of_error hstep, List.append_nil]
      refine ⟨⟨t, herror e st' hstep, hrec⟩, fun hs => ?_⟩
      obtain ⟨a, st'', hanswer⟩ := hsure hs
      exact absurd (hstep.symm.trans hanswer) (by simp)
  · push Not at hnamed
    obtain ⟨now, o, rfl, ho⟩ := hnamed
    rw [ne_eq, Bool.not_eq_false] at ho
    have hblank : c.perform (.store now o) st = .error .noPath st := h.blank st now ho
    unfold Work.after
    rw [Service.heard_of_error hblank, List.append_nil, hblank]
    exact ⟨⟨t, ht, hrec⟩, fun _ => ⟨t, ht, hrec.store_blank now ho⟩⟩

/-- **So does every run of steps**, by induction on the run: the table records what was heard. -/
theorem run (h : Serves c table Sure) (ht : table st = some t) (hrec : t.Records past)
    (history : List Step) :
    ∃ t', table (c.run st history) = some t' ∧ t'.Records (past ++ c.heard st history) := by
  induction history generalizing st t past with
  | nil => exact ⟨t, ht, by rwa [Service.heard, List.append_nil]⟩
  | cons s more ih =>
    obtain ⟨t', ht', hrec'⟩ := (h.step ht hrec s).1
    rw [Service.heard_cons, ← List.append_assoc]
    exact ih ht' hrec'

/-- Where all steps are sure to be answered, the table records the whole run. -/
theorem run_of_sure (h : Serves c table Sure) (ht : table st = some t) (hrec : t.Records past)
    (history : List Step) (hsure : ∀ s ∈ history, Sure s) :
    ∃ t', table (c.run st history) = some t' ∧ t'.Records (past ++ history) := by
  induction history generalizing st t past with
  | nil => exact ⟨t, ht, by rwa [List.append_nil]⟩
  | cons s more ih =>
    obtain ⟨t', ht', hrec'⟩ := (h.step ht hrec s).2 (hsure s List.mem_cons_self)
    rw [List.append_cons]
    exact ih ht' hrec' fun x hx => hsure x (List.mem_cons_of_mem _ hx)

end Serves

end

end NovelScript.Cache
