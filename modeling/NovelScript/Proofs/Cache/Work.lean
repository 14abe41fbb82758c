import NovelScript.Cache.Server
import NovelScript.Proofs.Files.Disk

/-!
# Work with a server

Work with a server is a row of calls, each of which may be refused, and whoever reasons about it has
to say three things: what holds when it succeeds, what holds when it fails, and when it is sure to
succeed.

* `Meets P w Q R`: from a state with `P` the work leads to `Q` when it succeeds and to `R` when it
  fails. Nothing is said about which of the two happens. Work is taken apart by `Meets.bind`, and a
  single call by `meets_ask`.
* `Succeeds P w Q`: from a state with `P` the work does succeed, and leads to `Q`.
* `Answered sure w st Q R`: both together for one state, where success is promised only under a
  condition. It is the form in which a cache is specified request by request: what is answered is
  right, what is refused has changed nothing, and what the server is sure to take is answered.
-/

namespace NovelScript.Cache

/-- The state that work leaves behind, however it ends. -/
def Work.after {σ ε α : Type} (w : Work σ ε α) (st : σ) : σ :=
  match w st with
  | .ok _ st' => st'
  | .error _ st' => st'

section work

variable {σ ε α β : Type} {P R : σ → Prop} {Q : α → σ → Prop} {S : β → σ → Prop}

/-- From a state with `P`, the work leads to `Q` when it succeeds and to `R` when it fails. -/
def Meets (P : σ → Prop) (w : Work σ ε α) (Q : α → σ → Prop) (R : σ → Prop) : Prop :=
  ∀ st, P st → (∀ a st', w st = .ok a st' → Q a st') ∧ ∀ e st', w st = .error e st' → R st'

/-- From a state with `P`, the work succeeds and leads to `Q`. -/
def Succeeds (P : σ → Prop) (w : Work σ ε α) (Q : α → σ → Prop) : Prop :=
  ∀ st, P st → ∃ a st', w st = .ok a st' ∧ Q a st'

/-- From the state `st`, the work leads to `Q` when it succeeds and to `R` when it fails, and where
it is `sure` to, it does succeed. -/
def Answered (sure : Prop) (w : Work σ ε α) (st : σ) (Q : α → σ → Prop) (R : σ → Prop) : Prop :=
  Meets (· = st) w Q R ∧ (sure → ∃ a st', w st = .ok a st')

/-! ## Work in parts -/

/-- Work in two parts is specified part by part: whatever the first one leads to is what the second
one starts from, and a failure of either is a failure of both. -/
theorem Meets.bind {x : Work σ ε α} {f : α → Work σ ε β} (hx : Meets P x Q R)
    (hf : ∀ a, Meets (Q a) (f a) S R) : Meets P (x >>= f) S R := by
  intro st hst
  constructor
  · intro b st' hok
    obtain ⟨a, mid, ha, hb⟩ := Files.bind_eq_ok.mp hok
    exact (hf a mid ((hx st hst).1 a mid ha)).1 b st' hb
  · intro e st' herror
    rcases Files.bind_eq_error.mp herror with he | ⟨a, mid, ha, he⟩
    · exact (hx st hst).2 e st' he
    · exact (hf a mid ((hx st hst).1 a mid ha)).2 e st' he

/-- The same for work that succeeds: both parts have to. -/
theorem Succeeds.bind {x : Work σ ε α} {f : α → Work σ ε β} (hx : Succeeds P x Q)
    (hf : ∀ a, Succeeds (Q a) (f a) S) : Succeeds P (x >>= f) S := by
  intro st hst
  obtain ⟨a, mid, ha, hmid⟩ := hx st hst
  obtain ⟨b, st', hb, hst'⟩ := hf a mid hmid
  exact ⟨b, st', Files.bind_eq_ok.mpr ⟨a, mid, ha, hb⟩, hst'⟩

/-- Work that only gives a value leads where it starts. -/
theorem Meets.pure {a : α} (h : ∀ st, P st → Q a st) : Meets P (pure a : Work σ ε α) Q R := by
  intro st hst
  constructor
  · intro b st' hok
    cases hok
    exact h st hst
  · intro e st' herror
    cases herror

/-- Work that only fails leads where it starts, and there as a failure. -/
theorem Meets.throw {e : ε} (h : ∀ st, P st → R st) : Meets P (throw e : Work σ ε α) Q R := by
  intro st hst
  constructor
  · intro a st' hok
    cases hok
  · intro e' st' herror
    cases herror
    exact h st hst

/-- Work that succeeds leads where it leads when it does. So the two halves of a specification are
proved apart: where the work leads, and that it comes to an end. -/
theorem Meets.succeeds {x : Work σ ε α} (h : Meets P x Q R)
    (hok : ∀ st, P st → ∃ a st', x st = .ok a st') : Succeeds P x Q := by
  intro st hst
  obtain ⟨a, st', hx⟩ := hok st hst
  exact ⟨a, st', hx, (h st hst).1 a st' hx⟩

/-- Work that is seen to succeed is answered, sure or not. -/
theorem Answered.of_ok {sure : Prop} {w : Work σ ε α} {st st' : σ} {a : α} (h : w st = .ok a st')
    (hQ : Q a st') : Answered sure w st Q R := by
  refine ⟨?_, fun _ => ⟨a, st', h⟩⟩
  rintro _ rfl
  constructor
  · intro b st'' hok
    cases h.symm.trans hok
    exact hQ
  · intro e st'' herror
    cases h.symm.trans herror

/-- Work that is seen to fail must not be sure to succeed. -/
theorem Answered.of_error {sure : Prop} {w : Work σ ε α} {st st' : σ} {e : ε}
    (h : w st = .error e st') (hR : R st') (hsure : ¬ sure) : Answered sure w st Q R := by
  refine ⟨?_, fun hs => absurd hs hsure⟩
  rintro _ rfl
  constructor
  · intro b st'' hok
    cases h.symm.trans hok
  · intro e' st'' herror
    cases h.symm.trans herror
    exact hR

/-- What is true of every state that the work leads to may take the place of what is known of it. -/
theorem Answered.imp {sure : Prop} {w : Work σ ε α} {st : σ} {Q' : α → σ → Prop}
    (h : Answered sure w st Q R) (hQ : ∀ a st', Q a st' → Q' a st') : Answered sure w st Q' R := by
  refine ⟨?_, h.2⟩
  rintro _ rfl
  obtain ⟨hok, herror⟩ := h.1 _ rfl
  exact ⟨fun a st' hw => hQ a st' (hok a st' hw), herror⟩

/-- What holds however work ends holds of the state that it leaves behind. -/
theorem Answered.after {sure : Prop} {w : Work σ ε α} {st : σ} {T : σ → Prop}
    (h : Answered sure w st Q R) (hQ : ∀ a st', Q a st' → T st') (hR : ∀ st', R st' → T st') :
    T (w.after st) := by
  obtain ⟨hok, herror⟩ := h.1 st rfl
  unfold Work.after
  cases hw : w st with
  | ok a st' => exact hQ a st' (hok a st' hw)
  | error e st' => exact hR st' (herror e st' hw)

/-- Work whose value is not looked at ends as it would otherwise. -/
theorem Answered.forget {sure : Prop} {w : Work σ ε α} {st : σ} {Q : σ → Prop}
    (h : Answered sure w st (fun _ => Q) R) :
    Answered sure (do let _ ← w) st (fun _ : Unit => Q) R := by
  obtain ⟨hmeets, hsure⟩ := h
  refine ⟨hmeets.bind fun _ => .pure fun _ hst => hst, fun hs => ?_⟩
  obtain ⟨a, st', hw⟩ := hsure hs
  exact ⟨(), st', Files.bind_eq_ok.mpr ⟨a, st', hw, rfl⟩⟩

/-- Behind work that succeeds, work goes on. -/
theorem bind_of_ok {x : Work σ ε α} {f : α → Work σ ε β} {st st' : σ} {a : α}
    (h : x st = .ok a st') : (x >>= f) st = f a st' := by
  simp [bind, EStateM.bind, h]

/-- Work that fails is the end of what should follow. -/
theorem bind_of_error {x : Work σ ε α} {f : α → Work σ ε β} {st st' : σ} {e : ε}
    (h : x st = .error e st') : (x >>= f) st = .error e st' := by
  simp [bind, EStateM.bind, h]

/-! ## Single calls -/

/-- Work that is one call leads where its answers lead; `undo` is what is done when the call is
refused. The two ways in which the cache calls a server, outside of transactions and inside, differ
only in that. -/
theorem meets_of_call {s : Server σ} {c : Call} {x : Work σ ε α} (answer : Answer → α)
    (failure : Fault → ε) (undo : σ → σ)
    (hx : ∀ st, x st = match s.call c st with
      | (.ok a, st') => .ok (answer a) st'
      | (.error f, st') => .error (failure f) (undo st'))
    (hok : ∀ st a st', P st → s.call c st = (.ok a, st') → Q (answer a) st')
    (herror : ∀ st f st', P st → s.call c st = (.error f, st') → R (undo st')) : Meets P x Q R := by
  intro st hst
  rw [hx st]
  rcases hc : s.call c st with ⟨r, st₁⟩
  cases r with
  | ok a =>
    refine ⟨?_, fun e st' h => by cases h⟩
    intro b st' h
    cases h
    exact hok st a st₁ hst hc
  | error f =>
    refine ⟨fun b st' h => (by cases h), ?_⟩
    intro e st' h
    cases h
    exact herror st f st₁ hst hc

/-- A call outside of transactions: when it is refused nothing more is done. -/
theorem meets_ask {s : Server σ} {wrap : Fault → ε} {c : Call} {Q : Answer → σ → Prop}
    (hok : ∀ st a st', P st → s.call c st = (.ok a, st') → Q a st')
    (herror : ∀ st f st', P st → s.call c st = (.error f, st') → R st') :
    Meets P (s.ask wrap c) Q R :=
  meets_of_call id wrap id (fun _ => rfl) hok herror

/-- Work that starts with a call is answered when what it makes of the answer is. What `T` says of
the answer, for example that its rows came in full, is what the rest of the work needs in order to be
sure. -/
theorem answered_ask {sure : Prop} {s : Server σ} {wrap : Fault → ε} {c : Call} {st : σ}
    {f : Answer → Work σ ε α} {T : Answer → Prop}
    (hrefused : ∀ fault st', s.call c st = (.error fault, st') → R st')
    (hanswer : ∀ a st', s.call c st = (.ok a, st') → Answered (T a) (f a) st' Q R)
    (hsure : sure → ∃ a st', s.call c st = (.ok a, st') ∧ T a) :
    Answered sure (s.ask wrap c >>= f) st Q R := by
  have hask : Meets (· = st) (s.ask wrap c) (fun a st' => s.call c st = (.ok a, st')) R := by
    apply meets_ask
    · rintro _ a st' rfl hc
      exact hc
    · rintro _ fault st' rfl hc
      exact hrefused fault st' hc
  refine ⟨hask.bind fun a st' hc => (hanswer a st' hc).1 st' rfl, fun hs => ?_⟩
  obtain ⟨a, mid, hc, hT⟩ := hsure hs
  obtain ⟨b, st', hb⟩ := (hanswer a mid hc).2 hT
  exact ⟨b, st', Files.bind_eq_ok.mpr ⟨a, mid, by simp [Server.ask, hc], hb⟩⟩

/-- A call in a transaction, which is undone when the call is refused. -/
theorem meets_askWithin {s : Server σ} {wrap : Fault → Server.MigrateFailure} {c : Call}
    {Q : Unit → σ → Prop} (hok : ∀ st a st', P st → s.call c st = (.ok a, st') → Q () st')
    (herror : ∀ st f st', P st → s.call c st = (.error f, st') → R (s.call .rollback st').2) :
    Meets P (s.askWithin wrap c) Q R :=
  meets_of_call (fun _ => ()) wrap (fun st => (s.call .rollback st).2) (fun _ => rfl) hok herror

/-- A call that is answered is work that succeeds, and the answer is what it gives. -/
theorem ask_eq_ok {s : Server σ} {c : Call} {st : σ}
    (h : ∃ a st', s.call c st = (.ok a, st')) (wrap : Fault → ε) :
    ∃ a st', s.ask wrap c st = .ok a st' := by
  obtain ⟨a, st', hc⟩ := h
  refine ⟨a, st', ?_⟩
  simp [Server.ask, hc]

/-- Inside a transaction the same holds; there the answer leaves the transaction open. -/
theorem askWithin_eq_ok {s : Server σ} {c : Call} {st : σ}
    (h : ∃ a st', s.call c st = (.ok a, st')) (wrap : Fault → Server.MigrateFailure) :
    ∃ a st', s.askWithin wrap c st = .ok a st' := by
  obtain ⟨a, st', hc⟩ := h
  refine ⟨(), st', ?_⟩
  simp [Server.askWithin, hc]

end work

end NovelScript.Cache
