import NovelScript.Yaml.Decode

/-!
# What decoding takes from a document

First, what a document gives when nobody decodes it: the node that a reference leads to, the value of
a scalar, the entries of a mapping with those of the mappings merged into it, and the value at the end
of a path of keys (`valueAt?`). These are functions of the tree alone, without a state.

Decoding goes on after a value of the wrong type and notes it. A document is decoded when nothing is
noted in the end, and that is the only case that anybody sees, so that decodings are described under
that condition: `Meets` says that a decoding that ends with no notes started with none, and how it
changed what is built. Steps are put together by `Meets.bind`. For a reference, a scalar and a
mapping's keys the steps agree with the tree (`meets_follow`, `meets_scalar`); `of_run` is for the end.
-/

namespace NovelScript.Yaml

/-! ## What a document gives -/

section

variable (named : List (Nat × Node))

/-- The node that a node leads to: the one it refers to, or itself. -/
def reached? (n : Node) (through : List Nat) : Option Reached :=
  match n with
  | .reference _ place _ target =>
    if through.contains place then none
    else (named.lookup target).map fun m => ⟨m, place :: through⟩
  | _ => some ⟨n, through⟩

/-- The value at a node by `f`: there must be a scalar that means something. -/
def value? {α : Type} (f : Scalar → Text → Option α) (n : Node) (through : List Nat) : Option α :=
  match reached? named n through with
  | some ⟨.scalar _ tag value, _⟩ =>
    match Scalar.tagged tag value with
    | .ok (_, meaning) => if meaning = .null then none else f meaning value
    | .error _ => none
  | _ => none

/-- An entry of a mapping, with the references that were followed to the mapping. -/
structure Entry where
  /-- The key. -/
  key : Text
  /-- What stands at the key. -/
  value : Node
  /-- The references that lead to the mapping. -/
  through : List Nat

/-- The entries that stand in a mapping itself. -/
def ownEntries (through : List Nat) : List (Node × Node) → List Entry
  | [] => []
  | (k, v) :: more =>
    if Decoding.isMerge k then ownEntries through more
    else
      match value? named Decoding.textOf? k through with
      | some key => ⟨key, v, through⟩ :: ownEntries through more
      | none => ownEntries through more

/-- What is to be merged into a mapping: the value of its last merge key, or `merge`. -/
def lastMerge (merge : Option Node) : List (Node × Node) → Option Node
  | [] => merge
  | (k, v) :: more => lastMerge (if Decoding.isMerge k then some v else merge) more

/-- The mappings that a value names for merging. -/
def mergeItems : Node → List Node
  | .sequence _ _ items => items
  | m => [m]

/-- The mappings to be merged into a mapping. -/
def toMerge (es : List (Node × Node)) : List Node :=
  match lastMerge none es with
  | some m => mergeItems m
  | none => []

mutual

/-- All entries of a mapping: its own, then those of the mappings merged into it. -/
def given : (fuel : Nat) → (through : List Nat) → List (Node × Node) → List Entry
  | 0, _, _ => []
  | fuel + 1, through, es =>
    ownEntries named through es ++ merged fuel through (toMerge es)

/-- All entries of mappings one after the other. -/
def merged : (fuel : Nat) → (through : List Nat) → List Node → List Entry
  | 0, _, _ => []
  | _ + 1, _, [] => []
  | fuel + 1, through, m :: more =>
    (match reached? named m through with
      | some ⟨.mapping _ _ es, through'⟩ => given fuel through' es
      | _ => []) ++ merged fuel through more

end

/-- Nothing is merged from no mappings. -/
theorem merged_nil (fuel : Nat) (through : List Nat) : merged named fuel through [] = [] := by
  cases fuel <;> rfl

/-- All entries of the mapping at a node. -/
def entriesAt (fuel : Nat) (n : Node) (through : List Nat) : List Entry :=
  match reached? named n through with
  | some ⟨.mapping _ _ es, through'⟩ => given named fuel through' es
  | _ => []

/-- The entry that counts for a key in the mapping at a node: the first one. -/
def lookup? (fuel : Nat) (key : Text) (n : Node) (through : List Nat) : Option Entry :=
  (entriesAt named fuel n through).find? (·.key == key)

/-- The value by `f` at the end of a path of keys. -/
def valueAt? {α : Type} (fuel : Nat) (f : Scalar → Text → Option α) :
    (path : List Text) → Node → List Nat → Option α
  | [], n, through => value? named f n through
  | key :: path, n, through =>
    (lookup? named fuel key n through).bind fun e => valueAt? fuel f path e.value e.through

end

/-! ## Decodings that note nothing -/

namespace Decoding

variable {σ α β : Type} {named : List (Nat × Node)}

/-- Whenever the decoding ends without a value of the wrong type, there was none before it, and it
takes what is built to what is built as `P` says. -/
def Meets (named : List (Nat × Node)) (m : Decoding σ α) (P : σ → α → σ → Prop) : Prop :=
  ∀ d a d', m named d = .ok (a, d') → d'.mismatches = [] →
    d.mismatches = [] ∧ P d.value a d'.value

/-- What a decoding meets may be stated more loosely. -/
theorem Meets.mono {m : Decoding σ α} {P Q : σ → α → σ → Prop} (h : Meets named m P)
    (himp : ∀ s a s', P s a s' → Q s a s') : Meets named m Q := by
  intro d a d' hrun hclean
  obtain ⟨hbefore, hP⟩ := h d a d' hrun hclean
  exact ⟨hbefore, himp _ _ _ hP⟩

/-- Decodings one after the other meet what both meet, put together. All statements about decodings
go through this lemma. -/
theorem Meets.bind {m : Decoding σ α} {f : α → Decoding σ β} {P : σ → α → σ → Prop}
    {Q : α → σ → β → σ → Prop} {R : σ → β → σ → Prop} (hm : Meets named m P)
    (hf : ∀ a, Meets named (f a) (Q a))
    (hR : ∀ s a s' b s'', P s a s' → Q a s' b s'' → R s b s'') : Meets named (m >>= f) R := by
  intro d b d'' hrun hclean
  change (m named d).bind (fun r => f r.1 named r.2) = .ok (b, d'') at hrun
  cases hfirst : m named d with
  | error e =>
    rw [hfirst] at hrun
    cases hrun
  | ok r =>
    rw [hfirst] at hrun
    obtain ⟨hmiddle, hQ⟩ := hf r.1 r.2 b d'' hrun hclean
    obtain ⟨hbefore, hP⟩ := hm d r.1 r.2 hfirst hmiddle
    exact ⟨hbefore, hR _ _ _ _ _ hP hQ⟩

/-- A first step that changes nothing. -/
theorem Meets.bind_same {m : Decoding σ α} {f : α → Decoding σ β} {R : σ → β → σ → Prop}
    (hm : Meets named m fun s _ s' => s' = s) (hf : ∀ a, Meets named (f a) R) :
    Meets named (m >>= f) R := by
  apply hm.bind hf
  rintro s a s' b s'' rfl h
  exact h

/-- A first step that changes nothing and tells something about its result. -/
theorem Meets.bind_fact {m : Decoding σ α} {f : α → Decoding σ β} {fact : α → Prop}
    {R : σ → β → σ → Prop} (hm : Meets named m fun s a s' => fact a ∧ s' = s)
    (hf : ∀ a, Meets named (f a) fun s b s' => fact a → R s b s') : Meets named (m >>= f) R := by
  apply hm.bind hf
  rintro s a s' b s'' ⟨ha, rfl⟩ h
  exact h ha

/-- A value that needs no decoding changes nothing. -/
theorem meets_pure (a : α) : Meets named (pure a : Decoding σ α) fun s b s' => b = a ∧ s' = s := by
  intro d b d' hrun hclean
  cases hrun
  exact ⟨hclean, rfl, rfl⟩

/-- Nothing is claimed about a decoding that fails. -/
theorem meets_throw (e : Error) (P : σ → α → σ → Prop) :
    Meets named (throw e : Decoding σ α) P := by
  intro d a d' hrun
  cases hrun

/-- Nothing is claimed about a decoding that notes a value of the wrong type, since it does not end
without one. -/
theorem meets_mismatch (line : Nat) (x : Mismatch) (P : σ → Unit → σ → Prop) :
    Meets named (mismatch line x) P := by
  intro d a d' hrun hclean
  cases hrun
  simp at hclean

/-- An update does what it does to the value. -/
theorem meets_update (f : σ → σ) : Meets named (update f) fun s _ s' => s' = f s := by
  intro d a d' hrun hclean
  cases hrun
  exact ⟨hclean, rfl⟩

/-- Looking at the value changes nothing. -/
theorem meets_get : Meets named (get : Decoding σ (Draft σ)) fun s d s' => d.value = s ∧ s' = s := by
  intro d a d' hrun hclean
  cases hrun
  exact ⟨hclean, rfl, rfl⟩

/-- The anchors are those of the document. -/
theorem meets_read :
    Meets named (read : Decoding σ (List (Nat × Node))) fun s a s' => a = named ∧ s' = s := by
  intro d a d' hrun hclean
  cases hrun
  exact ⟨hclean, rfl, rfl⟩

/-- A result from elsewhere is taken as it is. -/
theorem meets_except (x : Except Error α) :
    Meets named (liftM x : Decoding σ α) fun s a s' => x = .ok a ∧ s' = s := by
  intro d a d' hrun hclean
  cases x with
  | error e => cases hrun
  | ok b =>
    cases hrun
    exact ⟨hclean, rfl, rfl⟩

/-- Nothing is claimed about what comes behind a failure. -/
theorem meets_throw_bind (e : Error) (f : α → Decoding σ β) (P : σ → β → σ → Prop) :
    Meets named ((throw e : Decoding σ α) >>= f) P := by
  intro d b d' hrun
  cases hrun

/-- Nothing is claimed about a decoding that refuses a node, for the same reason. -/
theorem meets_refuse (n : Node) (wanted : String) (P : σ → Unit → σ → Prop) :
    Meets named (refuse n wanted) P := by
  unfold refuse
  exact meets_mismatch _ _ P

/-- What is refused is noted, whatever comes after it. -/
theorem meets_refuse_bind (n : Node) (wanted : String) (b : β) (P : σ → β → σ → Prop) :
    Meets named (refuse n wanted >>= fun _ => (pure b : Decoding σ β)) P :=
  (meets_refuse n wanted fun _ _ _ => False).bind (fun _ => meets_pure b) fun _ _ _ _ _ h _ => h.elim

/-- To follow an alias leads where its anchor is. One that leads through itself is refused, so that
what is reached is always a node of the document. -/
theorem meets_follow (n : Node) (through : List Nat) :
    Meets named (follow n through : Decoding σ Reached) fun s r s' =>
      reached? named n through = some r ∧ s' = s := by
  cases n with
  | reference line place name target =>
    unfold follow reached?
    dsimp only
    by_cases hself : through.contains place = true
    · rw [if_pos hself]
      exact meets_throw_bind _ _ _
    · rw [if_neg hself, if_neg hself]
      apply meets_read.bind_fact
      intro names
      cases hlookup : names.lookup target with
      | none => exact meets_throw _ _
      | some m =>
        apply (meets_pure _).mono
        rintro s r s' ⟨rfl, rfl⟩ rfl
        rw [hlookup]
        exact ⟨rfl, rfl⟩
  | scalar line tag value => exact (meets_pure _).mono fun s r s' h => ⟨by rw [h.1]; rfl, h.2⟩
  | sequence line tag items => exact (meets_pure _).mono fun s r s' h => ⟨by rw [h.1]; rfl, h.2⟩
  | mapping line tag entries => exact (meets_pure _).mono fun s r s' h => ⟨by rw [h.1]; rfl, h.2⟩

/-- Where nothing is noted, there was nothing to note. -/
theorem meets_forM_mismatch (es : List (Node × Node)) (line : Node × Node → Nat)
    (x : Node × Node → Mismatch) :
    Meets named (es.forM fun e => mismatch (σ := σ) (line e) (x e)) fun s _ s' =>
      es.isEmpty = true ∧ s' = s := by
  induction es with
  | nil => exact (meets_pure ()).mono fun s _ s' h => ⟨rfl, h.2⟩
  | cons e es ih =>
    exact (meets_mismatch _ _ fun _ _ _ => False).bind (fun _ => ih) fun _ _ _ _ _ h _ => h.elim

/-- When the look for keys that stand twice succeeds there are none, and nothing has changed. Keys
that stand twice are noted like values of the wrong type. -/
theorem meets_uniqueKeys (es : List (Node × Node)) :
    Meets named (uniqueKeys es : Decoding σ Bool) fun s b s' => b = true ∧ s' = s := by
  induction es with
  | nil => exact meets_pure true
  | cons e es ih =>
    unfold uniqueKeys
    dsimp only
    generalize es.filter (fun e' => keyOf e'.1 == keyOf e.1) = again
    have hrest : Meets named (uniqueKeys es >>= fun b => pure (b && again.isEmpty) : Decoding σ Bool)
        fun s b s' => b = again.isEmpty ∧ s' = s := by
      apply ih.bind fun b => meets_pure (b && again.isEmpty)
      rintro s b s' b' s'' ⟨rfl, rfl⟩ ⟨rfl, rfl⟩
      exact ⟨rfl, rfl⟩
    apply (meets_forM_mismatch again _ _).bind fun _ => hrest
    rintro s _ s' b s'' ⟨hnone, rfl⟩ ⟨rfl, rfl⟩
    exact ⟨hnone, rfl⟩

/-- A scalar is read as its value, through any alias, and nothing is set yet. What is null counts as
no value, and a scalar of another kind as a mismatch. -/
theorem meets_scalar (wanted : String) (f : Scalar → Text → Option α) (n : Node)
    (through : List Nat) :
    Meets named (scalar wanted f n through : Decoding σ (Option α)) fun s a s' =>
      a = value? named f n through ∧ s' = s := by
  unfold scalar
  apply (meets_follow n through).bind_fact
  rintro ⟨m, through'⟩
  unfold value?
  cases m with
  | scalar line tag value =>
    dsimp only
    apply (meets_except (Scalar.tagged tag value)).bind_fact
    rintro ⟨tag', meaning⟩
    apply Meets.mono
      (P := fun s a s' => (a = if meaning = .null then none else f meaning value) ∧ s' = s)
    · by_cases hnull : meaning = .null
      · rw [if_pos hnull, if_pos hnull]
        exact meets_pure none
      · rw [if_neg hnull, if_neg hnull]
        cases f meaning value with
        | some a => exact meets_pure (some a)
        | none => exact meets_refuse_bind _ _ _ _
    · intro s a s' h htagged hreached
      rw [hreached]
      dsimp only
      rw [htagged]
      exact h
  | mapping line tag entries =>
    dsimp only
    apply (meets_uniqueKeys entries).bind_fact
    intro b
    cases b with
    | true => exact meets_refuse_bind _ _ _ _
    | false => exact (meets_pure none).mono fun s a s' _ h => by cases h
  | sequence line tag items => exact meets_refuse_bind _ _ _ _
  | reference line place name target => exact meets_refuse_bind _ _ _ _

/-- A text is read as itself. -/
theorem meets_text (n : Node) (through : List Nat) :
    Meets named (text n through : Decoding σ (Option Text)) fun s a s' =>
      a = value? named textOf? n through ∧ s' = s :=
  meets_scalar "string" textOf? n through

/-- To look whether a node is a mapping changes nothing. -/
theorem meets_isMapping (n : Node) :
    Meets named (isMapping n : Decoding σ Bool) fun s _ s' => s' = s := by
  have hpure (b : Bool) : Meets named (pure b : Decoding σ Bool) fun s _ s' => s' = s :=
    (meets_pure b).mono fun _ _ _ h => h.2
  unfold isMapping
  cases n with
  | mapping line tag entries => exact hpure true
  | reference line place name target =>
    apply (meets_read.mono fun _ _ _ h => h.2).bind_same
    intro names
    split <;> exact hpure _
  | scalar line tag value => exact hpure false
  | sequence line tag items => exact hpure false

/-- A document that is decoded has no value of the wrong type. So all that was noted on the way can
be left out of the claims. -/
theorem of_run {d : Document} {start s : σ} {f : Node → Decoding σ Unit} {P : σ → Unit → σ → Prop}
    (hrun : run d start f = .ok s) (hf : Meets d.named (f d.root) P) : P start () s := by
  change (f d.root d.named ⟨start, []⟩).bind (fun r =>
    if r.2.mismatches.isEmpty then .ok r.2.value else .error (.mismatches r.2.mismatches)) =
      .ok s at hrun
  cases hfirst : f d.root d.named ⟨start, []⟩ with
  | error e =>
    rw [hfirst] at hrun
    cases hrun
  | ok r =>
    rw [hfirst] at hrun
    dsimp only [Except.bind] at hrun
    by_cases hclean : r.2.mismatches.isEmpty = true
    · rw [if_pos hclean] at hrun
      cases hrun
      exact (hf _ r.1 r.2 hfirst (List.isEmpty_iff.mp hclean)).2
    · rw [if_neg hclean] at hrun
      cases hrun

end Decoding

end NovelScript.Yaml
