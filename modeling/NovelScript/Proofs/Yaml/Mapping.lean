import NovelScript.Proofs.Yaml.Decode

/-!
# What decoding a mapping takes

A mapping has its own entries and those of the mappings merged into it, which may be merged from
others again, and a visitor sees each key once at most. Here one key is watched while all that
happens: what the visitor makes of the key is what it makes of the first entry in the list of all
entries, `entriesAt`, and at other keys nothing changes (`meets_mappingOf`). The invariant is `Takes`:
so far, the first entry of the key among the entries so far is taken. Lists of entries are put
together by `Takes.append`, where what is taken already stands in the way of what comes later.

That merged mappings do not see the keys of the mapping itself hangs on which of its keys are text.
A `Word` is text however it is written, so that nothing is lost.

* **`sets_record`**: a record sets by a field what is read from the entry that counts for the field,
  if there is one, and leaves the rest.
-/

namespace NovelScript.Yaml.Decoding

variable {σ α β : Type} {named : List (Nat × Node)}

/-! ## One key, whatever is merged -/

/-- Something that decoding changes at one key only. -/
structure Watch (σ β : Type) where
  /-- The key; none is watched to see that nothing changes. -/
  key : Option Text
  /-- What is watched. -/
  observe : σ → β
  /-- Was the key met in the mapping at hand? -/
  met : σ → Bool
  /-- What is taken from the value at the key. -/
  taken : Node → List Nat → Option β

namespace Watch

variable (w : Watch σ β)

/-- Is this the entry of the key? -/
def isAt (e : Entry) : Bool :=
  w.key.any (e.key == ·)

/-- Is the key among these? -/
def isIn (keys : List Text) : Bool :=
  keys.any fun name => w.key.any (name == ·)

/-- The first entry of the key is taken from `es`, unless it was taken `before`. -/
def Takes (before : Bool) (es : List Entry) (s s' : σ) : Prop :=
  w.observe s' =
    ((if before then none else es.find? w.isAt).bind fun e => w.taken e.value e.through).getD
      (w.observe s)

variable {w}

/-- What was met before is not taken again. -/
theorem takes_true (es : List Entry) {s s' : σ} (h : w.observe s' = w.observe s) :
    w.Takes true es s s' := h

/-- From no entries nothing is taken. -/
theorem takes_nil (before : Bool) {s s' : σ} (h : w.observe s' = w.observe s) :
    w.Takes before [] s s' := by
  cases before <;> exact h

/-- From an entry under another key nothing is taken. -/
theorem takes_other {before : Bool} {e : Entry} (he : w.isAt e = false) {s s' : σ}
    (h : w.observe s' = w.observe s) : w.Takes before [e] s s' := by
  unfold Takes
  rw [List.find?_cons_of_neg (by simp [he])]
  exact takes_nil before h

/-- From an entry under the key its value is taken, if it has one. -/
theorem takes_of_isAt {e : Entry} (he : w.isAt e = true) {s s' : σ}
    (h : w.observe s' = (w.taken e.value e.through).getD (w.observe s)) :
    w.Takes false [e] s s' := by
  unfold Takes
  rw [List.find?_cons_of_pos he]
  exact h

/-- When no key is watched nothing is taken. -/
theorem Takes.observe_eq {before : Bool} {es : List Entry} {s s' : σ} (h : w.Takes before es s s')
    (hkey : w.key = none) : w.observe s' = w.observe s := by
  have hfind : es.find? w.isAt = none := by
    apply List.find?_eq_none.mpr
    intro e _
    rw [isAt, hkey]
    exact Bool.false_ne_true
  unfold Takes at h
  rw [hfind, ite_self] at h
  exact h

/-- What is taken first stands in the way of what comes later. Of two groups of entries the second
one counts only when the key is not in the first. -/
theorem Takes.append {before : Bool} {es es' : List Entry} {s s' s'' : σ}
    (h : w.Takes before es s s') (h' : w.Takes (before || es.any w.isAt) es' s' s'') :
    w.Takes before (es ++ es') s s'' := by
  cases before with
  | true => exact takes_true _ (Eq.trans h' h)
  | false =>
    unfold Takes at h h' ⊢
    rw [if_neg Bool.false_ne_true] at h ⊢
    rw [List.find?_append]
    cases hfind : es.find? w.isAt with
    | none =>
      have hany : es.any w.isAt = false := by
        rw [List.any_eq_false]
        exact List.find?_eq_none.mp hfind
      rw [hfind] at h
      rw [hany] at h'
      rw [h', h]
      rfl
    | some e =>
      have hany : es.any w.isAt = true :=
        List.any_eq_true.mpr ⟨e, List.mem_of_find?_eq_some hfind, List.find?_some hfind⟩
      rw [hfind] at h
      rw [hany] at h'
      exact Eq.trans h' h

end Watch

open Watch

variable {w : Watch σ β}

/-! ## The entries of one mapping -/

/-- An entry was visited: the value at the key is taken, once in a mapping, and at other keys nothing
changes. -/
def Watch.Visited (w : Watch σ β) (e : Entry) (s s' : σ) : Prop :=
  if w.isAt e then
    w.met s = false ∧ w.met s' = true ∧
      w.observe s' = (w.taken e.value e.through).getD (w.observe s)
  else w.met s' = w.met s ∧ w.observe s' = w.observe s

/-- After a visit the key was met when it was met before or by this visit. -/
theorem Watch.Visited.met_eq {e : Entry} {s s' : σ} (h : w.Visited e s s') :
    w.met s' = (w.met s || w.isAt e) := by
  unfold Watch.Visited at h
  split at h
  · rename_i he
    rw [h.2.1, he, Bool.or_true]
  · rename_i he
    rw [h.1, Bool.eq_false_iff.mpr he, Bool.or_false]

/-- A visit takes what is there to be taken, when the key is not met twice. -/
theorem Watch.Visited.takes {e : Entry} {s s' : σ} (h : w.Visited e s s') {before : Bool}
    (hbefore : w.isAt e = true → before = false) : w.Takes before [e] s s' := by
  unfold Watch.Visited at h
  split at h
  · rename_i he
    rw [hbefore he]
    exact takes_of_isAt he h.2.2
  · rename_i he
    exact takes_other (Bool.eq_false_iff.mpr he) h.2

/-- A visitor that keeps to the key. -/
def Watch.Visits (w : Watch σ β) (named : List (Nat × Node))
    (visit : Node → Text → Node → List Nat → Decoding σ Unit) : Prop :=
  ∀ k key v through,
    Meets named (visit k key v through) fun s _ s' => w.Visited ⟨key, v, through⟩ s s'

/-- Is the key given already, by the keys of a merge or by the mapping at hand? -/
def Watch.isGiven (w : Watch σ β) (seen : Option (List Text)) (s : σ) : Bool :=
  match seen with
  | some keys => w.isIn keys
  | none => w.met s

/-- An entry under the key is one of those that bear its name, so the key can be looked for among
the names that are given. -/
theorem Watch.isIn_of_isAt {e : Entry} (he : w.isAt e = true) (keys : List Text) :
    w.isIn keys = keys.contains e.key := by
  unfold Watch.isAt at he
  unfold Watch.isIn
  cases hkey : w.key with
  | none =>
    rw [hkey] at he
    cases he
  | some name =>
    rw [hkey] at he
    have hname : e.key = name := eq_of_beq he
    rw [List.contains_eq_any_beq, hname]
    congr 1
    funext x
    exact Bool.beq_comm

/-- What going through entries comes to, from the entries that stand in the mapping. -/
structure Watch.Passes (w : Watch σ β) (seen : Option (List Text)) (merge : Option Node)
    (own : List Entry) (s : σ) (r : Option (List Text) × Option Node) (s' : σ) : Prop where
  merge_eq : r.2 = merge
  seen_eq : r.1.map w.isIn = seen.map fun keys => w.isIn keys || own.any w.isAt
  takes : w.Takes (w.isGiven seen s) own s s'

/-- One entry more in front, which makes `seen'` out of `seen`. It is the step of the induction over
the entries of a mapping. -/
theorem Watch.Passes.cons {seen seen' : Option (List Text)} {merge : Option Node} {e : Entry}
    {own : List Entry} {s s' s'' : σ} {r : Option (List Text) × Option Node}
    (hrest : w.Passes seen' merge own s' r s'')
    (hseen : seen'.map w.isIn = seen.map fun keys => w.isIn keys || w.isAt e)
    (hgiven : w.isGiven seen' s' = (w.isGiven seen s || w.isAt e))
    (hfirst : w.Takes (w.isGiven seen s) [e] s s') :
    w.Passes seen merge (e :: own) s r s'' := by
  have hstep : w.isGiven seen' s' = (w.isGiven seen s || [e].any w.isAt) := by
    rw [hgiven, List.any_cons, List.any_nil, Bool.or_false]
  refine ⟨hrest.merge_eq, ?_, hfirst.append (hstep ▸ hrest.takes)⟩
  calc r.1.map w.isIn
    _ = (seen'.map w.isIn).map (· || own.any w.isAt) := by
      rw [hrest.seen_eq, Option.map_map]
      rfl
    _ = seen.map fun keys => w.isIn keys || (e :: own).any w.isAt := by
      rw [hseen, Option.map_map]
      simp only [Function.comp_def, List.any_cons, Bool.or_assoc]

/-- A visitor that met the key in the mapping at hand refuses to meet it again. -/
theorem Watch.Visited.passes_none {merge : Option Node} {e : Entry} {own : List Entry}
    {s s' s'' : σ} {r : Option (List Text) × Option Node} (hvisited : w.Visited e s s')
    (hrest : w.Passes none merge own s' r s'') : w.Passes none merge (e :: own) s r s'' := by
  refine hrest.cons rfl hvisited.met_eq (hvisited.takes fun he => ?_)
  unfold Watch.Visited at hvisited
  rw [if_pos he] at hvisited
  exact hvisited.1

/-- In a merge an entry is visited when its key is not given already, and the key is given then. -/
theorem Watch.Visited.passes_some {merge : Option Node} {keys : List Text} {e : Entry}
    {own : List Entry} {s s' s'' : σ} {r : Option (List Text) × Option Node}
    (hvisited : w.Visited e s s') (hnew : ¬ keys.contains e.key = true)
    (hrest : w.Passes (some (e.key :: keys)) merge own s' r s'') :
    w.Passes (some keys) merge (e :: own) s r s'' := by
  have hgiven : w.isIn (e.key :: keys) = (w.isIn keys || w.isAt e) := Bool.or_comm _ _
  refine hrest.cons (congrArg some hgiven) hgiven (hvisited.takes fun he => ?_)
  rw [Watch.isGiven, isIn_of_isAt he keys]
  exact Bool.eq_false_iff.mpr hnew

/-- An entry is passed over when its key is given already. -/
theorem Watch.Passes.skip {merge : Option Node} {keys : List Text} {e : Entry} {own : List Entry}
    {s s' : σ} {r : Option (List Text) × Option Node}
    (hrest : w.Passes (some keys) merge own s r s') (hin : keys.contains e.key = true) :
    w.Passes (some keys) merge (e :: own) s r s' := by
  cases he : w.isAt e with
  | true =>
    have hgiven : w.isIn keys = true := by rw [isIn_of_isAt he keys, hin]
    refine hrest.cons (by simp [hgiven]) (by simp [Watch.isGiven, hgiven]) ?_
    rw [Watch.isGiven, hgiven]
    exact takes_true _ rfl
  | false => exact hrest.cons (by simp [he]) (by simp [he]) (takes_other he rfl)

/-- **The entries of a mapping are visited one after the other**, by induction on them: of those
that are its own, the first one under the key is taken, and what is to be merged is remembered. -/
theorem meets_entries {visit : Node → Text → Node → List Nat → Decoding σ Unit}
    (hvisit : w.Visits named visit) (through : List Nat) (es : List (Node × Node)) :
    ∀ (seen : Option (List Text)) (merge : Option Node),
      Meets named (entries visit through seen merge es) fun s r s' =>
        w.Passes seen (lastMerge merge es) (ownEntries named through es) s r s' := by
  induction es with
  | nil =>
    intro seen merge
    apply (meets_pure (seen, merge)).mono
    rintro s r s' ⟨rfl, rfl⟩
    exact ⟨rfl, by simp [ownEntries], takes_nil _ rfl⟩
  | cons e es ih =>
    obtain ⟨k, v⟩ := e
    intro seen merge
    unfold entries ownEntries lastMerge
    -- a merge is remembered and no entry
    by_cases hmerge : isMerge k = true
    · rw [if_pos hmerge, if_pos hmerge, if_pos hmerge]
      exact ih seen (some v)
    · rw [if_neg hmerge, if_neg hmerge, if_neg hmerge]
      apply (meets_text k through).bind (Q := fun a s r s' => w.Passes seen (lastMerge merge es)
        (a.elim (ownEntries named through es)
          fun key => ⟨key, v, through⟩ :: ownEntries named through es) s r s')
      · intro a
        cases a with
        | none => exact ih seen merge
        | some key =>
          -- outside of a merge every entry is visited; in one, only those not yet given
          cases seen with
          | none =>
            apply (hvisit k key v through).bind fun _ => ih none merge
            intro s _ s' r s'' hvisited hrest
            exact hvisited.passes_none hrest
          | some keys =>
            dsimp only
            by_cases hin : keys.contains key = true
            · rw [if_pos hin]
              exact (ih (some keys) merge).mono fun s r s' hrest => hrest.skip hin
            · rw [if_neg hin]
              apply (hvisit k key v through).bind fun _ => ih (some (key :: keys)) merge
              intro s _ s' r s'' hvisited hrest
              exact hvisited.passes_some hin hrest
      · rintro s a s' r s'' ⟨rfl, rfl⟩ hr
        cases hkey : value? named textOf? k through with
        | none =>
          rw [hkey] at hr
          exact hr
        | some key =>
          rw [hkey] at hr
          exact hr

/-! ## Keys that are text -/

/-- A key that means itself however it is tagged, and does not merge. -/
structure Word (name : Text) : Prop where
  written_eq : ∀ dates, Scalar.written dates name = .text name
  ne_merge : name ≠ Text.lit "<<"

instance (name : Text) : Decidable (Word name) :=
  decidable_of_iff
    ((∀ dates, Scalar.written dates name = .text name) ∧ name ≠ Text.lit "<<")
    ⟨fun h => ⟨h.1, h.2⟩, fun h => ⟨h.written_eq, h.ne_merge⟩⟩

/-- A word under any tag is a text, or it is refused. None of the keys that are watched reads as a
number, a switch or nothing. -/
theorem Word.tagged_eq {name : Text} (h : Word name) {tag tag' : Text} {meaning : Scalar}
    (htagged : Scalar.tagged tag name = .ok (tag', meaning)) : ∃ t, meaning = .text t := by
  unfold Scalar.tagged at htagged
  split at htagged
  · cases htagged
    exact ⟨_, rfl⟩
  · split at htagged
    · split at htagged
      · cases htagged
        exact ⟨_, rfl⟩
      · cases htagged
    · split at htagged
      · cases htagged
        exact ⟨_, rfl⟩
      · rw [h.written_eq] at htagged
        dsimp only at htagged
        split at htagged
        · cases htagged
          exact ⟨_, rfl⟩
        · cases htagged

/-- The key for merging is no word, and so not one that is watched. -/
theorem isIn_merge (hword : ∀ name, w.key = some name → Word name) :
    w.isIn [Text.lit "<<"] = false := by
  unfold Watch.isIn
  cases hkey : w.key with
  | none => rfl
  | some name =>
    have hne : (Text.lit "<<" == name) = false := beq_false_of_ne (hword name hkey).ne_merge.symm
    simp [hne]

/-- The texts among what a key means. -/
def textsOf : Scalar → List Text
  | .text t => [t]
  | _ => []

/-- A watched key that is not text is none. -/
theorem isAt_of_tagged (hword : ∀ name, w.key = some name → Word name) {tag value tag' : Text}
    {meaning : Scalar} (htagged : Scalar.tagged tag value = .ok (tag', meaning))
    (htext : ∀ t, meaning ≠ .text t) (v : Node) (through : List Nat) :
    w.isAt ⟨value, v, through⟩ = false := by
  unfold Watch.isAt
  cases hkey : w.key with
  | none => rfl
  | some name =>
    apply beq_false_of_ne
    rintro rfl
    obtain ⟨t, ht⟩ := (hword value hkey).tagged_eq htagged
    exact htext t ht

/-- Whether a key is given by an entry can be told from the keys that are text, since a watched key
is a word and no other kind of key reads as a word. -/
theorem any_ownEntries_cons (hword : ∀ name, w.key = some name → Word name) {k v : Node}
    {through through' : List Nat} {line : Nat} {tag value tag' : Text} {meaning : Scalar}
    (hreached : reached? named k through = some ⟨.scalar line tag value, through'⟩)
    (htagged : Scalar.tagged tag value = .ok (tag', meaning)) (es : List (Node × Node)) :
    (ownEntries named through ((k, v) :: es)).any w.isAt =
      (w.isIn (textsOf meaning) || (ownEntries named through es).any w.isAt) := by
  rw [ownEntries]
  by_cases hmerge : isMerge k = true
  · rw [if_pos hmerge]
    cases k with
    | scalar line' tag'' value' =>
      cases hreached
      obtain ⟨hvalue, htag⟩ : value = Text.lit "<<" ∧ tag = Scalar.mergeTag := by
        simpa [isMerge] using hmerge
      rw [hvalue, htag] at htagged
      cases htagged
      rw [textsOf, isIn_merge hword, Bool.false_or]
    | _ => cases hmerge
  · have hvalue : value? named textOf? k through =
        if meaning = .null then none else textOf? meaning value := by
      unfold value?
      rw [hreached]
      dsimp only
      rw [htagged]
    rw [if_neg hmerge, hvalue]
    cases meaning with
    | text t =>
      dsimp only [textOf?, textsOf]
      rw [if_neg nofun, List.any_cons]
      simp [Watch.isAt, Watch.isIn]
    | null => rfl
    | _ =>
      rw [if_neg nofun]
      dsimp only [textOf?]
      rw [List.any_cons, isAt_of_tagged hword htagged nofun]
      rfl

/-- The keys of a mapping are looked at without anything being taken. The induction is on its
entries. -/
theorem meets_textKeys (hword : ∀ name, w.key = some name → Word name) (through : List Nat)
    (es : List (Node × Node)) :
    Meets named (textKeys through es : Decoding σ (List Text)) fun s keys s' =>
      w.isIn keys = (ownEntries named through es).any w.isAt ∧ s' = s := by
  induction es with
  | nil =>
    apply (meets_pure []).mono
    rintro s keys s' ⟨rfl, rfl⟩
    exact ⟨rfl, rfl⟩
  | cons e es ih =>
    obtain ⟨k, v⟩ := e
    -- what an entry adds in front, and the keys of those behind it
    have hrest (here : List Text) : Meets named
        (do
          let here ← pure here
          let more ← textKeys through es
          pure (here ++ more) : Decoding σ (List Text)) fun s keys s' =>
        w.isIn keys = (w.isIn here || (ownEntries named through es).any w.isAt) ∧ s' = s := by
      apply (meets_pure here).bind_fact
      intro here
      apply ih.bind fun more => meets_pure (here ++ more)
      rintro s more s' keys s'' ⟨hmore, rfl⟩ ⟨rfl, rfl⟩ rfl
      refine ⟨?_, rfl⟩
      rw [← hmore]
      exact List.any_append
    unfold textKeys
    apply (meets_follow k through).bind_fact
    rintro ⟨n, through'⟩
    cases n with
    | scalar line tag value =>
      apply (meets_except (Scalar.tagged tag value)).bind_fact
      rintro ⟨tag', meaning⟩
      have hhere (s : σ) (keys : List Text) (s' : σ)
          (h : w.isIn keys =
            (w.isIn (textsOf meaning) || (ownEntries named through es).any w.isAt) ∧ s' = s)
          (htagged : Scalar.tagged tag value = .ok (tag', meaning))
          (hreached : reached? named k through = some ⟨.scalar line tag value, through'⟩) :
          w.isIn keys = (ownEntries named through ((k, v) :: es)).any w.isAt ∧ s' = s := by
        rw [any_ownEntries_cons hword hreached htagged]
        exact h
      cases meaning with
      | text t => exact (hrest [t]).mono hhere
      | _ => exact (hrest []).mono hhere
    | _ =>
      apply (hrest []).mono
      intro s keys s' h hreached
      have hvalue : value? named textOf? k through = none := by
        unfold value?
        rw [hreached]
      rw [ownEntries, hvalue, ite_self]
      exact h

/-! ## Merged mappings -/

/-- Entries were decoded: `seen` are the keys given before and `seen'` those given after, both only in
a merge. -/
structure Watch.Merges (w : Watch σ β) (seen : Option (List Text)) (es : List Entry) (s : σ)
    (seen' : Option (List Text)) (s' : σ) : Prop where
  seen_eq : seen'.map w.isIn = seen.map fun keys => w.isIn keys || es.any w.isAt
  takes : w.Takes (seen.any w.isIn) es s s'

/-- To merge nothing takes nothing. -/
theorem Watch.merges_nil (seen : Option (List Text)) {s s' : σ} (h : w.observe s' = w.observe s) :
    w.Merges seen [] s seen s' :=
  ⟨by simp, takes_nil _ h⟩

/-- Entries are decoded, and then others with the keys of the first ones given. What the first ones
give is not taken again from the others. -/
theorem Watch.Merges.append {seen seen' : Option (List Text)} {es es' : List Entry} {s s' s'' : σ}
    {keys keys' : List Text} (h : w.Merges seen es s seen' s')
    (hkeys : w.isIn keys = (seen.any w.isIn || es.any w.isAt))
    (h' : w.Merges (some keys) es' s' (some keys') s'') :
    w.Merges seen (es ++ es') s (seen'.map fun _ => keys') s'' := by
  have hkeys' : w.isIn keys' = (w.isIn keys || es'.any w.isAt) := Option.some.inj h'.seen_eq
  refine ⟨?_, h.takes.append (hkeys ▸ h'.takes)⟩
  calc (seen'.map fun _ => keys').map w.isIn
    _ = (seen'.map w.isIn).map fun _ => w.isIn keys' := by
      rw [Option.map_map, Option.map_map]
      rfl
    _ = seen.map fun _ => w.isIn keys' := by
      rw [h.seen_eq, Option.map_map]
      rfl
    _ = seen.map fun given => w.isIn given || (es ++ es').any w.isAt := by
      cases seen with
      | none => rfl
      | some given =>
        rw [hkeys', hkeys, List.any_append, Option.any_some, Bool.or_assoc]
        rfl

/-- The keys that are given after entries: those that were given before, and those of the entries. -/
theorem Watch.Merges.keys_eq {seen seen' : Option (List Text)} {es : List Entry} {s s' : σ}
    (h : w.Merges seen es s seen' s') :
    (seen'.map w.isIn).getD (es.any w.isAt) = (seen.any w.isIn || es.any w.isAt) := by
  rw [h.seen_eq]
  cases seen <;> rfl

/-- What is the mapping's own may be seen as merged, so that both are treated alike. -/
theorem Watch.Passes.merges {seen : Option (List Text)} {merge : Option Node} {own : List Entry}
    {s s' : σ} {r : Option (List Text) × Option Node} (h : w.Passes seen merge own s r s')
    (hmet : w.met s = false) : w.Merges seen own s r.1 s' := by
  refine ⟨h.seen_eq, ?_⟩
  have htakes := h.takes
  cases seen with
  | none =>
    rw [Watch.isGiven, hmet] at htakes
    exact htakes
  | some keys => exact htakes

/-- Entering a mapping notes nothing, changes nothing that is watched, and gives a visitor that has
not met the key yet. -/
def Watch.Enters (w : Watch σ β) (named : List (Nat × Node))
    (enter : Decoding σ (Node → Text → Node → List Nat → Decoding σ Unit)) : Prop :=
  ∀ d visit d', enter named d = .ok (visit, d') →
    (d'.mismatches = d.mismatches ∧ w.observe d'.value = w.observe d.value ∧
      w.met d'.value = false) ∧
    w.Visits named visit

section

variable {enter : Decoding σ (Node → Text → Node → List Nat → Decoding σ Unit)}

/-- Entering a mapping to merge it, and then going on, merges what is in it. Entering is left open
here, so that the lemma serves records and casts alike. -/
theorem Watch.Enters.bind (henter : w.Enters named enter)
    {f : (Node → Text → Node → List Nat → Decoding σ Unit) → Decoding σ (Option (List Text))}
    {seen : Option (List Text)} {es : List Entry}
    (hf : ∀ visit, w.Visits named visit →
      Meets named (f visit) fun s seen' s' => w.met s = false → w.Merges seen es s seen' s') :
    Meets named (enter >>= f) fun s seen' s' => w.Merges seen es s seen' s' := by
  intro d seen' d'' hrun hclean
  change (enter named d).bind (fun r => f r.1 named r.2) = .ok (seen', d'') at hrun
  cases hfirst : enter named d with
  | error e =>
    rw [hfirst] at hrun
    cases hrun
  | ok r =>
    rw [hfirst] at hrun
    obtain ⟨⟨hnotes, hobserve, hmet⟩, hvisit⟩ := henter d r.1 r.2 hfirst
    obtain ⟨hmiddle, hmerges⟩ := hf r.1 hvisit r.2 seen' d'' hrun hclean
    refine ⟨hnotes ▸ hmiddle, (hmerges hmet).seen_eq, ?_⟩
    have htakes := (hmerges hmet).takes
    unfold Watch.Takes at htakes ⊢
    rw [← hobserve]
    exact htakes

/-- The mappings that a value names are merged, whether it is a list of them or one alone. The keys of
the mapping itself stand in the way of theirs. -/
theorem meets_mergeValue {fuel : Nat} {through : List Nat}
    (hmergeAll : ∀ keys items, Meets named (mergeAll enter fuel through keys items)
      fun s keys' s' => w.Merges (some keys) (merged named fuel through items) s (some keys') s')
    (es : List (Node × Node)) (m : Node) (seen seen' : Option (List Text)) (keys : List Text) :
    Meets named
      (match m with
        | .sequence _ _ items => do
          let merged ← mergeAll enter fuel through keys items
          pure (seen'.map fun _ => merged)
        | _ => do
          let merged ← mergeAll enter fuel through keys [m]
          pure (seen'.map fun _ => merged)) fun s r s' =>
      w.isIn keys = (seen'.map w.isIn).getD ((ownEntries named through es).any w.isAt) →
      ∀ start,
        w.Passes seen (lastMerge none es) (ownEntries named through es) start (seen', some m) s →
        w.met start = false →
        w.Merges seen (ownEntries named through es ++ merged named fuel through (toMerge es)) start r
          s' := by
  -- a list of mappings and a single one are merged the same way
  have hitems (items : List Node) : Meets named
      (do
        let merged ← mergeAll enter fuel through keys items
        pure (seen'.map fun _ => merged)) fun s r s' =>
      ∃ keys', w.Merges (some keys) (merged named fuel through items) s (some keys') s' ∧
        r = seen'.map fun _ => keys' := by
    apply (hmergeAll keys items).bind fun keys' => meets_pure (seen'.map fun _ => keys')
    rintro s keys' s' r s'' h ⟨rfl, rfl⟩
    exact ⟨keys', h, rfl⟩
  have hmerges (s : σ) (r : Option (List Text)) (s' : σ)
      (h : ∃ keys', w.Merges (some keys) (merged named fuel through (mergeItems m)) s (some keys')
        s' ∧ r = seen'.map fun _ => keys')
      (hkeys : w.isIn keys = (seen'.map w.isIn).getD ((ownEntries named through es).any w.isAt))
      (start : σ)
      (hpasses : w.Passes seen (lastMerge none es) (ownEntries named through es) start
        (seen', some m) s)
      (hmet : w.met start = false) :
      w.Merges seen (ownEntries named through es ++ merged named fuel through (toMerge es)) start r
        s' := by
    obtain ⟨keys', hrest, rfl⟩ := h
    have hown := hpasses.merges hmet
    rw [toMerge, ← hpasses.merge_eq]
    exact hown.append (hkeys.trans hown.keys_eq) hrest
  cases m with
  | sequence line tag items => exact (hitems items).mono hmerges
  | scalar line tag value => exact (hitems [_]).mono hmerges
  | mapping line tag entries => exact (hitems [_]).mono hmerges
  | reference line place name target => exact (hitems [_]).mono hmerges

/-- A mapping, when merging is known with less fuel: its own entries first, and then what it merges,
as far as its own keys leave room for it. -/
theorem meets_mapping_succ (henter : w.Enters named enter)
    (hword : ∀ name, w.key = some name → Word name) {fuel : Nat}
    (hmergeAll : ∀ through keys items, Meets named (mergeAll enter fuel through keys items)
      fun s keys' s' => w.Merges (some keys) (merged named fuel through items) s (some keys') s')
    (through : List Nat) (seen : Option (List Text)) (es : List (Node × Node)) :
    Meets named (mapping enter (fuel + 1) through seen es) fun s seen' s' =>
      w.Merges seen (given named (fuel + 1) through es) s seen' s' := by
  unfold mapping given
  dsimp only
  apply (meets_uniqueKeys es).bind_fact
  intro b
  cases b with
  | false => exact (meets_pure seen).mono fun s a s' _ h => nomatch h
  | true =>
    refine Meets.mono (henter.bind fun visit hvisit => ?_) fun s a s' h _ => h
    apply (meets_entries hvisit through es seen none).bind (Q := fun x s seen' s' =>
      ∀ start, w.Passes seen (lastMerge none es) (ownEntries named through es) start x s →
        w.met start = false →
        w.Merges seen (ownEntries named through es ++ merged named fuel through (toMerge es))
          start seen' s')
    · rintro ⟨seen', merge⟩
      cases merge with
      | none =>
        apply (meets_pure seen').mono
        rintro s r s' ⟨rfl, rfl⟩ start hpasses hmet
        rw [toMerge, ← hpasses.merge_eq, merged_nil, List.append_nil]
        exact hpasses.merges hmet
      | some m =>
        have hmerge := meets_mergeValue (hmergeAll through) es m seen seen'
        cases seen' with
        | some keys =>
          apply (meets_pure keys).bind_fact
          intro keys₁
          apply (hmerge keys₁).mono
          rintro s r s' h rfl
          exact h rfl
        | none => exact (meets_textKeys hword through es).bind_fact hmerge
    · intro s x s' seen' s'' hpasses h hmet
      exact h s hpasses hmet

/-- Mappings that are merged one after the other, when both are known with less fuel. The first one
wins, so the keys that are given grow from one to the next. -/
theorem meets_mergeAll_succ {fuel : Nat}
    (hmapping : ∀ through seen es, Meets named (mapping enter fuel through seen es)
      fun s seen' s' => w.Merges seen (given named fuel through es) s seen' s')
    (hmergeAll : ∀ through keys items, Meets named (mergeAll enter fuel through keys items)
      fun s keys' s' => w.Merges (some keys) (merged named fuel through items) s (some keys') s')
    (through : List Nat) (keys : List Text) (items : List Node) :
    Meets named (mergeAll enter (fuel + 1) through keys items) fun s keys' s' =>
      w.Merges (some keys) (merged named (fuel + 1) through items) s (some keys') s' := by
  cases items with
  | nil =>
    apply (meets_pure keys).mono
    rintro s keys' s' ⟨rfl, rfl⟩
    exact merges_nil _ rfl
  | cons m more =>
    unfold mergeAll merged
    dsimp only
    apply (meets_isMapping m).bind_same
    intro b
    cases b with
    | false => exact meets_throw_bind _ _ _
    | true =>
      apply (meets_follow m through).bind_fact
      rintro ⟨n, through'⟩
      cases n with
      | mapping line tag es =>
        apply (hmapping through' (some keys) es).bind fun seen =>
          hmergeAll through (seen.getD keys) more
        intro s seen s' keys' s'' h h' hreached
        rw [hreached]
        cases seen with
        | none => cases h.seen_eq
        | some keys₁ => exact h.append (Option.some.inj h.seen_eq) h'
      | _ => exact meets_throw _ _

/-- A mapping with all that is merged into it, and mappings that are merged one after the other. Each
uses up the fuel of the other, so that both are shown by one induction. -/
theorem meets_mapping (henter : w.Enters named enter)
    (hword : ∀ name, w.key = some name → Word name) (fuel : Nat) :
    (∀ through seen es, Meets named (mapping enter fuel through seen es) fun s seen' s' =>
      w.Merges seen (given named fuel through es) s seen' s') ∧
    ∀ through keys items, Meets named (mergeAll enter fuel through keys items) fun s keys' s' =>
      w.Merges (some keys) (merged named fuel through items) s (some keys') s' := by
  induction fuel with
  | zero =>
    constructor
    · intro through seen es
      apply (meets_pure seen).mono
      rintro s seen' s' ⟨rfl, rfl⟩
      exact merges_nil _ rfl
    · intro through keys items
      apply (meets_pure keys).mono
      rintro s keys' s' ⟨rfl, rfl⟩
      exact merges_nil _ rfl
  | succ fuel ih =>
    obtain ⟨hmapping, hmergeAll⟩ := ih
    exact ⟨meets_mapping_succ henter hword hmergeAll, meets_mergeAll_succ hmapping hmergeAll⟩

/-- A mapping takes the value at the key from the entry that counts for it, and other nodes change
nothing. -/
theorem meets_mappingOf (henter : w.Enters named enter)
    (hword : ∀ name, w.key = some name → Word name) (wanted : String) (fuel : Nat) (n : Node)
    (through : List Nat) :
    Meets named (mappingOf wanted fuel enter n through) fun s _ s' =>
      w.Takes false (entriesAt named fuel n through) s s' := by
  unfold mappingOf entriesAt
  apply (meets_follow n through).bind_fact
  rintro ⟨m, through'⟩
  cases m with
  | mapping line tag es =>
    apply ((meets_mapping henter hword fuel).1 through' none es).bind fun _ => meets_pure ()
    rintro s seen s' _ s'' h ⟨-, rfl⟩ hreached
    rw [hreached]
    exact h.takes
  | _ =>
    apply (meets_scalar wanted (fun _ _ => none) n through).bind fun _ => meets_pure ()
    rintro s _ s' _ s'' ⟨-, rfl⟩ ⟨-, rfl⟩ hreached
    rw [hreached]
    exact takes_nil _ rfl

end

/-! ## Records -/

/-- The decoding sets what `g` shows to what `o` has, and leaves it when that is nothing. -/
def Sets (named : List (Nat × Node)) (m : Decoding σ Unit) (g : σ → β) (o : Option β) : Prop :=
  Meets named m fun s _ s' => g s' = o.getD (g s)

/-- The watch on what a record shows by one of its fields. -/
def fieldWatch (key : Option Text) (g : σ → β) (taken : Node → List Nat → Option β) :
    Watch (σ × List Text) β where
  key
  observe d := g d.1
  met d := key.any d.2.contains
  taken

/-- A field is read once: it joins the fields that are read, whatever is read inside of it. A second
entry of the same name is refused by then. -/
theorem meets_field {m : Decoding (σ × List Text) Unit} {g : σ → β} {o : Option β} (key : Text)
    (hm : Sets named m (fun d => g d.1) o) :
    Meets named
      (do
        update fun d => (d.1, key :: d.2)
        let outer := (← get).value.2
        m
        update fun d => (d.1, outer)) fun s _ s' =>
      s'.2 = key :: s.2 ∧ g s'.1 = o.getD (g s.1) := by
  apply (meets_update _).bind (Q := fun _ s _ s' => s'.2 = s.2 ∧ g s'.1 = o.getD (g s.1))
  · intro _
    apply meets_get.bind (Q := fun d s _ s' => s'.2 = d.value.2 ∧ g s'.1 = o.getD (g s.1))
    · intro d
      apply hm.bind fun _ => meets_update _
      rintro s _ s' _ s'' h rfl
      exact ⟨rfl, h⟩
    · rintro s d s' _ s'' ⟨rfl, rfl⟩ h
      exact h
  · rintro s _ s' _ s'' rfl h
    exact h

/-- A field that is known is set from its first entry, and that it was seen is noted, so that a
second one is refused. -/
theorem visited_of_known {key : Option Text} {g : σ → β} {taken : Node → List Nat → Option β}
    {name : Text} {v : Node} {through : List Nat} {s s' : σ × List Text}
    (hnew : s.2.contains name = false) (hread : s'.2 = name :: s.2)
    (hset : g s'.1 = (if key = some name then taken v through else none).getD (g s.1)) :
    (fieldWatch key g taken).Visited ⟨name, v, through⟩ s s' := by
  unfold Watch.Visited Watch.isAt fieldWatch
  dsimp only
  rw [hset, hread]
  cases key with
  | none => exact ⟨rfl, rfl⟩
  | some other =>
    by_cases hname : name = other
    · rw [← hname]
      simpa using hnew
    · have hother : ¬ some other = some name := fun h => hname (Option.some.inj h).symm
      simp [hname, hother, Ne.symm hname]

/-- The visitor of a record: unknown fields are skipped, and known ones are read once. The watch is
on one field, so the cases are this field, another known one and an unknown one. -/
theorem meets_visitor {wanted : String} {known : List String} {m : Decoding (σ × List Text) Unit}
    {key : Option Text} {g : σ → β} {taken : Node → List Nat → Option β} {name : Text}
    (hkey : key = some name → name ∈ known.map Text.lit) {v : Node} {through : List Nat}
    (hm : name ∈ known.map Text.lit →
      Sets named m (fun d => g d.1) (if key = some name then taken v through else none)) (line : Nat) :
    Meets named
      (do
        if known.any (Text.lit · == name) then
          if (← get).value.2.contains name then mismatch line (.field name wanted)
          else
            update fun d => (d.1, name :: d.2)
            let outer := (← get).value.2
            m
            update fun d => (d.1, outer)) fun s _ s' =>
      (fieldWatch key g taken).Visited ⟨name, v, through⟩ s s' := by
  have hany : known.any (Text.lit · == name) = true ↔ name ∈ known.map Text.lit := by simp
  by_cases hknown : name ∈ known.map Text.lit
  · rw [if_pos (hany.mpr hknown)]
    apply meets_get.bind (Q := fun d s _ s' =>
      d.value = s → (fieldWatch key g taken).Visited ⟨name, v, through⟩ s s')
    · intro d
      by_cases hread : d.value.2.contains name = true
      · rw [if_pos hread]
        exact meets_mismatch _ _ _
      · rw [if_neg hread]
        apply (meets_field name (hm hknown)).mono
        rintro s _ s' ⟨hfields, hset⟩ rfl
        exact visited_of_known (Bool.eq_false_iff.mpr hread) hfields hset
    · rintro s d s' _ s'' ⟨hd, rfl⟩ h
      exact h hd
  · rw [if_neg (mt hany.mp hknown)]
    apply (meets_pure ()).mono
    rintro s _ s' ⟨-, rfl⟩
    unfold Watch.Visited
    -- an unknown field is not the one that is watched
    have hother : (fieldWatch key g taken).isAt ⟨name, v, through⟩ = false := by
      unfold Watch.isAt fieldWatch
      cases key with
      | none => rfl
      | some other =>
        apply beq_false_of_ne
        rintro rfl
        exact hknown (hkey rfl)
    rw [hother]
    exact ⟨rfl, rfl⟩

/-- **A record sets by a known field what the visitor sets there**, from the entry that counts: its
own one if there is one, and otherwise that of the first mapping merged into it. -/
theorem sets_record {wanted : String} {fuel : Nat} {known : List String}
    {visit : Text → Node → List Nat → Decoding (σ × List Text) Unit} {g : σ → β}
    (key : Option Text) (taken : Node → List Nat → Option β)
    (hkey : ∀ name, key = some name → name ∈ known.map Text.lit ∧ Word name)
    (hvisit : ∀ name v through, name ∈ known.map Text.lit →
      Sets named (visit name v through) (fun d => g d.1)
        (if key = some name then taken v through else none))
    (n : Node) (through : List Nat) :
    Sets named (record wanted fuel known visit n through) (fun d => g d.1)
      ((key.bind fun name => lookup? named fuel name n through).bind fun e =>
        taken e.value e.through) := by
  have henter : (fieldWatch key g taken).Enters named (do
      update fun d => (d.1, [])
      return fun k key v through => do
        if known.any (Text.lit · == key) then
          if (← get).value.2.contains key then mismatch k.line (.field key wanted)
          else
            update fun d => (d.1, key :: d.2)
            let outer := (← get).value.2
            visit key v through
            update fun d => (d.1, outer)) := by
    intro d visitor d' hrun
    cases hrun
    refine ⟨⟨rfl, rfl, ?_⟩, ?_⟩
    · cases key <;> rfl
    · intro k name v through
      exact meets_visitor (fun h => (hkey name h).1) (hvisit name v through) k.line
  apply (meets_mappingOf henter (fun name h => (hkey name h).2) wanted fuel n through).mono
  intro s _ s' h
  have hfind : (entriesAt named fuel n through).find? (fieldWatch key g taken).isAt =
      key.bind fun name => lookup? named fuel name n through := by
    cases key with
    | none => exact List.find?_eq_none.mpr fun e _ => Bool.false_ne_true
    | some name => rfl
  rw [← hfind]
  exact h

end NovelScript.Yaml.Decoding
