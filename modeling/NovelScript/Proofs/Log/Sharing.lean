import Mathlib.Data.List.Forall2
import NovelScript.Proofs.Log.Arrays
import NovelScript.Proofs.Log.Line

/-!
# Loggers that share arrays

Loggers and contexts are made from one another, and their lists are parts of arrays. They do not get
into each other's way there: each new logger or context starts with a copy of the lists it is made
from and appends to the copy alone. So a step leaves all arrays that were there as they are, and every
logger and every context made before still has its own list (**`Family.Holds.step`**).

* **`Family.holds_run`**: after any steps, each logger keeps what its own chain of steps carries,
  under full names that were made when the attributes were added.
* **`attributes_keep_groups`** puts this together with the line of a record.
-/

namespace NovelScript.Log

open Text (blank newline)

/-! ## Loggers and contexts -/

/-- The arrays of attributes and those of names. -/
structure Memory where
  /-- The arrays of attributes. -/
  attributes : Rows Attribute := []
  /-- The arrays of names. -/
  names : Rows Text := []

/-- A logger of the console by where its lists are: its attributes, which have their full names
already, and the names of its open groups. -/
structure Holder where
  /-- The attributes. -/
  attributes : Option Part := none
  /-- The groups. -/
  groups : Option Part := none

namespace Memory

variable (grow : Nat → Nat → Nat)

/-- A logger with the same lists in arrays of its own. -/
def copy (m : Memory) (h : Holder) : Memory × Holder :=
  let (attributes, part) := m.attributes.append grow none (m.attributes.read h.attributes)
  let (names, groups) := m.names.append grow none (m.names.read h.groups)
  (⟨attributes, names⟩, ⟨part, groups⟩)

/-- A logger of some attributes more, which get their full names now. -/
def withAttributes (m : Memory) (h : Holder) (as : List Attribute) : Memory × Holder :=
  let (m, c) := m.copy grow h
  let front := groupText (m.names.read c.groups)
  let (attributes, part) := (as.map fun a => (front ++ a.1, a.2)).foldl
    (fun (s : Rows Attribute × Option Part) a => s.1.append grow s.2 [a]) (m.attributes, c.attributes)
  ({ m with attributes }, { c with attributes := part })

/-- A logger with a group for what follows, if the group has a name. -/
def withGroup (m : Memory) (h : Holder) (name : Text) : Memory × Holder :=
  let (m, c) := m.copy grow h
  if name.isEmpty then (m, c)
  else
    let (names, groups) := m.names.append grow c.groups [name]
    ({ m with names }, { c with groups })

/-- A context of some attributes more, in an array that has room for just these. -/
def withContext (m : Memory) (context : Option Part) (as : List Attribute) : Memory × Option Part :=
  let before := m.attributes.read context
  let (attributes, part) := m.attributes.fresh [] (before.length + as.length)
  let (attributes, part) := attributes.append grow part before
  let (attributes, part) := attributes.append grow part as
  ({ m with attributes }, part)

end Memory

/-- What a logger keeps is what a chain carries, and the groups that the chain leaves open. -/
structure Holder.Carries (m : Memory) (h : Holder) (chain : Chain) : Prop where
  /-- The attributes. -/
  attributes : m.attributes.Keeps h.attributes (carried chain)
  /-- The groups. -/
  groups : m.names.Keeps h.groups (openGroups chain)

/-- All arrays of `m` are in `m'` as they are. -/
structure Memory.Before (m m' : Memory) : Prop where
  /-- The arrays of attributes. -/
  attributes : m.attributes <+: m'.attributes
  /-- The arrays of names. -/
  names : m.names <+: m'.names

/-- What a logger carries stays when only more is put into the memory that all loggers share. -/
theorem Holder.Carries.mono {m m' : Memory} {h : Holder} {chain : Chain} (hc : h.Carries m chain)
    (hm : m.Before m') : h.Carries m' chain :=
  ⟨hc.attributes.mono hm.attributes, hc.groups.mono hm.names⟩

section

variable {m : Memory} {h : Holder} {chain : Chain}

/-- A logger that is derived from another one starts with its own copy of what that one carries. -/
theorem owns_copy (grow : Nat → Nat → Nat) (hc : h.Carries m chain) :
    Rows.Owns m.attributes (m.copy grow h).1.attributes (m.copy grow h).2.attributes (carried chain) ∧
      Rows.Owns m.names (m.copy grow h).1.names (m.copy grow h).2.groups (openGroups chain) := by
  have hattributes := (Rows.owns_none m.attributes).append grow (m.attributes.read h.attributes)
  have hgroups := (Rows.owns_none m.names).append grow (m.names.read h.groups)
  rw [hc.attributes.read, List.nil_append] at hattributes
  rw [hc.groups.read, List.nil_append] at hgroups
  rw [Memory.copy, hc.attributes.read, hc.groups.read]
  exact ⟨hattributes, hgroups⟩

/-- **A logger of some attributes more** carries them in the groups that are open now. It starts
from its own copy of the arrays, so nothing that it adds is seen by the one it came from. -/
theorem carries_withAttributes (grow : Nat → Nat → Nat) (hc : h.Carries m chain)
    (as : List Attribute) :
    m.Before (m.withAttributes grow h as).1 ∧
      (m.withAttributes grow h as).2.Carries (m.withAttributes grow h as).1
        (chain ++ [.attributes as]) := by
  obtain ⟨hattributes, hgroups⟩ := owns_copy grow hc
  have hnamed : (as.map fun a => (groupText (openGroups chain) ++ a.1, a.2)) =
      as.map (inGroups (openGroups chain)) := by
    simp only [groupText_append]
    rfl
  have hadded := hattributes.foldl_append grow (as.map (inGroups (openGroups chain)))
  have hcarried : carried (chain ++ [.attributes as]) =
      carried chain ++ as.map (inGroups (openGroups chain)) := carried_concat chain _
  have hopen : openGroups (chain ++ [.attributes as]) = openGroups chain := by
    rw [openGroups_append]
    exact List.append_nil _
  unfold Memory.withAttributes
  dsimp only
  rw [hgroups.keeps.read, hnamed]
  refine ⟨⟨hadded.there, hgroups.there⟩, ?_, ?_⟩
  · rw [hcarried]
    exact hadded.keeps
  · rw [hopen]
    exact hgroups.keeps

/-- **A logger with a group more** carries the same attributes as before, and opens the group for
those to come. -/
theorem carries_withGroup (grow : Nat → Nat → Nat) (hc : h.Carries m chain) (name : Text) :
    m.Before (m.withGroup grow h name).1 ∧
      (m.withGroup grow h name).2.Carries (m.withGroup grow h name).1 (chain ++ [.group name]) := by
  obtain ⟨hattributes, hgroups⟩ := owns_copy grow hc
  have hcarried : carried (chain ++ [.group name]) = carried chain := by
    rw [carried_concat]
    exact List.append_nil _
  have hopen : openGroups (chain ++ [.group name]) =
      openGroups chain ++ if name.isEmpty then [] else [name] := by
    rw [openGroups_append, openGroups_group]
  unfold Memory.withGroup
  dsimp only
  split
  · rename_i hempty
    rw [if_pos hempty, List.append_nil] at hopen
    refine ⟨⟨hattributes.there, hgroups.there⟩, ?_, ?_⟩
    · rw [hcarried]
      exact hattributes.keeps
    · rw [hopen]
      exact hgroups.keeps
  · rename_i hempty
    rw [if_neg hempty] at hopen
    have hadded := hgroups.append grow [name]
    refine ⟨⟨hattributes.there, hadded.there⟩, ?_, ?_⟩
    · rw [hcarried]
      exact hattributes.keeps
    · rw [hopen]
      exact hadded.keeps

/-- **A context of some attributes more.** -/
theorem keeps_withContext (grow : Nat → Nat → Nat) {part : Option Part} {before : List Attribute}
    (hp : m.attributes.Keeps part before) (as : List Attribute) :
    m.Before (m.withContext grow part as).1 ∧
      (m.withContext grow part as).1.attributes.Keeps (m.withContext grow part as).2
        (before ++ as) := by
  have hroom := Rows.owns_fresh (List.prefix_refl m.attributes) [] (before.length + as.length)
  have hadded := (hroom.append grow before).append grow as
  rw [List.nil_append] at hadded
  unfold Memory.withContext
  dsimp only
  rw [hp.read]
  exact ⟨⟨hadded.there, List.prefix_refl m.names⟩, hadded.keeps⟩

end

/-! ## Making loggers and contexts from one another -/

/-- A logger or a context is made from one that is there, which has the number. -/
inductive Move where
  /-- A logger of some attributes more. -/
  | attributes (logger : Nat) (as : List Attribute)
  /-- A logger with a group for what follows. -/
  | group (logger : Nat) (name : Text)
  /-- A context of some attributes more. -/
  | context (context : Nat) (as : List Attribute)

/-- All loggers and contexts that were made, the first of each without anything. -/
structure Family where
  /-- The arrays. -/
  memory : Memory := {}
  /-- The loggers. -/
  loggers : List Holder := [{}]
  /-- The contexts. -/
  contexts : List (Option Part) := [none]

/-- The loggers and contexts by the steps they were made in. -/
structure Lineage where
  /-- The steps of each logger. -/
  loggers : List Chain := [[]]
  /-- The attributes of each context. -/
  contexts : List (List Attribute) := [[]]

/-- Makes a logger or a context, if the one it is made from is there. -/
def Family.step (grow : Nat → Nat → Nat) (f : Family) : Move → Family
  | .attributes i as =>
    f.loggers[i]?.elim f fun h =>
      let (memory, made) := f.memory.withAttributes grow h as
      { f with memory, loggers := f.loggers ++ [made] }
  | .group i name =>
    f.loggers[i]?.elim f fun h =>
      let (memory, made) := f.memory.withGroup grow h name
      { f with memory, loggers := f.loggers ++ [made] }
  | .context i as =>
    f.contexts[i]?.elim f fun c =>
      let (memory, made) := f.memory.withContext grow c as
      { f with memory, contexts := f.contexts ++ [made] }

/-- The same by its steps. -/
def Lineage.step (l : Lineage) : Move → Lineage
  | .attributes i as =>
    l.loggers[i]?.elim l fun chain => { l with loggers := l.loggers ++ [chain ++ [.attributes as]] }
  | .group i name =>
    l.loggers[i]?.elim l fun chain => { l with loggers := l.loggers ++ [chain ++ [.group name]] }
  | .context i as =>
    l.contexts[i]?.elim l fun before => { l with contexts := l.contexts ++ [before ++ as] }

/-- All that is made in some moves. -/
def Family.run (grow : Nat → Nat → Nat) (moves : List Move) : Family :=
  moves.foldl (Family.step grow) {}

/-- The same by its steps. -/
def Lineage.run (moves : List Move) : Lineage :=
  moves.foldl Lineage.step {}

/-- Every logger and every context keeps what its own steps gave it. -/
structure Family.Holds (f : Family) (l : Lineage) : Prop where
  /-- The loggers are as many as their chains, and each carries what its chain does. -/
  loggers : List.Forall₂ (fun h chain => h.Carries f.memory chain) f.loggers l.loggers
  /-- The contexts keep their attributes. -/
  contexts : List.Forall₂ (fun c as => f.memory.attributes.Keeps c as) f.contexts l.contexts

/-- What is at a place of two lists of the same shape. -/
theorem getElem?_of_forall₂ {α β : Type} {R : α → β → Prop} {l : List α} {l' : List β}
    (h : List.Forall₂ R l l') (i : Nat) :
    (l[i]? = none ∧ l'[i]? = none) ∨ ∃ a b, l[i]? = some a ∧ l'[i]? = some b ∧ R a b := by
  induction h generalizing i with
  | nil => exact .inl ⟨rfl, rfl⟩
  | cons hab _ ih =>
    cases i with
    | zero => exact .inr ⟨_, _, rfl, rfl, hab⟩
    | succ i => exact ih i

namespace Family.Holds

variable {f : Family} {l : Lineage} {m : Memory}

/-- A new logger takes nothing away from the others. -/
theorem addLogger (h : f.Holds l) (hm : f.memory.Before m) {made : Holder} {chain : Chain}
    (hmade : made.Carries m chain) :
    Family.Holds { f with memory := m, loggers := f.loggers ++ [made] }
      { l with loggers := l.loggers ++ [chain] } where
  loggers := List.rel_append (h.loggers.imp fun _ _ hc => hc.mono hm) (.cons hmade .nil)
  contexts := h.contexts.imp fun _ _ hc => hc.mono hm.attributes

/-- Nor does a new context. -/
theorem addContext (h : f.Holds l) (hm : f.memory.Before m) {made : Option Part}
    {as : List Attribute} (hmade : m.attributes.Keeps made as) :
    Family.Holds { f with memory := m, contexts := f.contexts ++ [made] }
      { l with contexts := l.contexts ++ [as] } where
  loggers := h.loggers.imp fun _ _ hc => hc.mono hm
  contexts := List.rel_append (h.contexts.imp fun _ _ hc => hc.mono hm.attributes) (.cons hmade .nil)

/-- **A move** leaves every logger and every context as it is, and what it makes has what it was made
from and what was added. -/
theorem step (grow : Nat → Nat → Nat) (h : f.Holds l) (move : Move) :
    (f.step grow move).Holds (l.step move) := by
  cases move with
  | attributes i as =>
    rw [Family.step, Lineage.step]
    rcases getElem?_of_forall₂ h.loggers i with ⟨hf, hl⟩ | ⟨holder, chain, hf, hl, hc⟩
    · rw [hf, hl]
      exact h
    · rw [hf, hl]
      obtain ⟨hm, hmade⟩ := carries_withAttributes grow hc as
      exact h.addLogger hm hmade
  | group i name =>
    rw [Family.step, Lineage.step]
    rcases getElem?_of_forall₂ h.loggers i with ⟨hf, hl⟩ | ⟨holder, chain, hf, hl, hc⟩
    · rw [hf, hl]
      exact h
    · rw [hf, hl]
      obtain ⟨hm, hmade⟩ := carries_withGroup grow hc name
      exact h.addLogger hm hmade
  | context i as =>
    rw [Family.step, Lineage.step]
    rcases getElem?_of_forall₂ h.contexts i with ⟨hf, hl⟩ | ⟨part, before, hf, hl, hc⟩
    · rw [hf, hl]
      exact h
    · rw [hf, hl]
      obtain ⟨hm, hmade⟩ := keeps_withContext grow hc as
      exact h.addContext hm hmade

end Family.Holds

/-- **After any moves** every logger and every context keeps what its own steps gave it. -/
theorem Family.holds_run (grow : Nat → Nat → Nat) (moves : List Move) :
    (Family.run grow moves).Holds (Lineage.run moves) := by
  have hfoldl (f : Family) (l : Lineage) (h : f.Holds l) :
      (moves.foldl (Family.step grow) f).Holds (moves.foldl Lineage.step l) := by
    induction moves generalizing f l with
    | nil => exact h
    | cons move moves ih => exact ih _ _ (h.step grow move)
  exact hfoldl {} {} ⟨.cons ⟨rfl, rfl⟩ .nil, .cons rfl .nil⟩

/-- A move changes nothing in the steps of what is there; it only adds a logger or a context
behind. -/
theorem Lineage.prefix_step (l : Lineage) (move : Move) :
    l.loggers <+: (l.step move).loggers ∧ l.contexts <+: (l.step move).contexts := by
  have hsame : l.loggers <+: l.loggers ∧ l.contexts <+: l.contexts :=
    ⟨List.prefix_refl _, List.prefix_refl _⟩
  cases move with
  | attributes i as =>
    rw [Lineage.step]
    cases l.loggers[i]? with
    | none => exact hsame
    | some chain => exact ⟨List.prefix_append _ _, hsame.2⟩
  | group i name =>
    rw [Lineage.step]
    cases l.loggers[i]? with
    | none => exact hsame
    | some chain => exact ⟨List.prefix_append _ _, hsame.2⟩
  | context i as =>
    rw [Lineage.step]
    cases l.contexts[i]? with
    | none => exact hsame
    | some before => exact ⟨hsame.1, List.prefix_append _ _⟩

/-- Nor do any number of moves. -/
theorem Lineage.prefix_run_append (moves more : List Move) :
    (Lineage.run moves).loggers <+: (Lineage.run (moves ++ more)).loggers ∧
      (Lineage.run moves).contexts <+: (Lineage.run (moves ++ more)).contexts := by
  induction more using List.reverseRecOn with
  | nil => simp
  | append_singleton more move ih =>
    have hstep : Lineage.run (moves ++ (more ++ [move])) =
        (Lineage.run (moves ++ more)).step move := by
      rw [← List.append_assoc, Lineage.run, List.foldl_append]
      rfl
    have hnext := (Lineage.run (moves ++ more)).prefix_step move
    rw [hstep]
    exact ⟨ih.1.trans hnext.1, ih.2.trans hnext.2⟩

/-! ## What is printed -/

/-- The line that a logger of the console writes for a record in a context, read from the arrays. -/
def Family.line? (f : Family) (sink : Sink) (time : Option Clock) (logger context : Nat)
    (r : Record) : Option Text := do
  let h ← f.loggers[logger]?
  let c ← f.contexts[context]?
  let r := r.within (f.memory.attributes.read c)
  let r := if sink.source then r else { r with place := none }
  return (time.elim [] fun t => t.second ++ [blank]) ++
    lineOf (f.memory.attributes.read h.attributes) (f.memory.names.read h.groups) r

/-- **The line of any logger of a family**, after any moves that derived loggers and contexts from
each other in any order: it is that of its own chain, and no sibling has written into it. -/
theorem Family.line?_run {sink : Sink} (hsink : sink.format = .console) (time : Option Clock)
    (grow : Nat → Nat → Nat) {moves : List Move} {i j : Nat} {chain : Chain}
    {context : List Attribute} (hlogger : (Lineage.run moves).loggers[i]? = some chain)
    (hcontext : (Lineage.run moves).contexts[j]? = some context) (r : Record) :
    (Family.run grow moves).line? sink time i j r =
      some (sink.line time chain (r.within context)) := by
  have h := Family.holds_run grow moves
  rcases getElem?_of_forall₂ h.loggers i with ⟨-, hl⟩ | ⟨holder, chain', hf, hl, hc⟩
  · rw [hl] at hlogger
    cases hlogger
  rcases getElem?_of_forall₂ h.contexts j with ⟨-, hk⟩ | ⟨part, context', hg, hk, hp⟩
  · rw [hk] at hcontext
    cases hcontext
  cases hl.symm.trans hlogger
  cases hk.symm.trans hcontext
  rw [Family.line?, hf, hg, Sink.line_console hsink]
  simp only [Option.bind_eq_bind, Option.bind_some, hc.attributes.read, hc.groups.read, hp.read]
  rfl

/-- **Attributes keep their groups.** On the console a line has the level, the message if there is
one, the attributes of the logger in the order in which they were added, each behind the groups that
were opened before it, and those of the record and of its context behind all groups that are open.
What loggers and contexts were made before or after from the same ones makes no difference to it. -/
theorem attributes_keep_groups (sink : Sink) (time : Option Clock) (chain : Chain) (r : Record)
    (context : List Attribute) (hsink : sink.format = .console)
    (hchain : ∀ step ∈ chain, ∀ a ∈ step.added, Says a) (hr : ∀ a ∈ r.attributes, Says a)
    (hcontext : ∀ a ∈ context, Says a) :
    sink.line time chain (r.within context) =
        (time.elim [] fun t => t.second ++ [blank]) ++ r.level.short ++
          (if r.message.isEmpty then [] else Text.lit " " ++ r.message) ++
          ((carried chain ++ (r.attributes ++ context).map (inGroups (openGroups chain))).flatMap
            fun a => attributeText a.1 a.2) ++
          (if sink.source then r.place.elim [] fun p => Text.lit " src=" ++ p else []) ++
          [newline] ∧
      ∀ (grow : Nat → Nat → Nat) (moves more : List Move) (i j : Nat),
        (Lineage.run moves).loggers[i]? = some chain →
        (Lineage.run moves).contexts[j]? = some context →
          (Family.run grow moves).line? sink time i j r =
              some (sink.line time chain (r.within context)) ∧
            (Family.run grow (moves ++ more)).line? sink time i j r =
              some (sink.line time chain (r.within context)) := by
  constructor
  · have hall : ∀ a ∈ r.attributes ++ context, Says a := by
      intro a ha
      rcases List.mem_append.mp ha with ha | ha
      · exact hr a ha
      · exact hcontext a ha
    have hline (place : Option Text) :=
      lineOf_of_says (openGroups chain) (r := ⟨r.level, r.message, r.attributes ++ context, place⟩)
        (fun a ha => isVoid_of_mem_carried hchain ha) hall
    rw [Sink.line_console hsink]
    cases sink.source
    · simp only [Record.within, hline none, List.append_assoc, Option.elim_none,
        Bool.false_eq_true, if_false]
    · simp only [Record.within, hline r.place, List.append_assoc, if_true]
  · intro grow moves more i j hlogger hcontext
    obtain ⟨hloggers, hcontexts⟩ := Lineage.prefix_run_append moves more
    refine ⟨Family.line?_run hsink time grow hlogger hcontext r, ?_⟩
    exact Family.line?_run hsink time grow (getElem?_mono hloggers hlogger)
      (getElem?_mono hcontexts hcontext) r

/-- A logger with an attribute in front of its groups and one between them, of which two others were
made as well: arrays that grow to twice what is needed have room for all of them. -/
theorem attributes_keep_groups_of_siblings :
    (Family.run (fun _ n => 2 * n)
        [.attributes 0 [(Text.lit "k", .text (Text.lit "v"))], .group 1 (Text.lit "g"), .group 2 [],
          .attributes 3 [(Text.lit "a", .int 1)], .group 4 (Text.lit "h"),
          .context 0 [(Text.lit "doc", .text (Text.lit "a.md"))], .group 4 (Text.lit "i"),
          .attributes 1 [(Text.lit "k", .text (Text.lit "w"))],
          .context 1 [(Text.lit "part", .int 2)]]).line? ⟨.console, Level.info, true⟩ none 5 1
        { level := Level.info, message := Text.lit "read", place := some (Text.lit "x:7"),
          attributes := [(Text.lit "ok", .bool true)] } =
      some (Text.lit "INF read k=v g.a=1 g.h.ok=true g.h.doc=a.md src=x:7\n") := by
  have h := attributes_keep_groups ⟨.console, Level.info, true⟩ none
    [.attributes [(Text.lit "k", .text (Text.lit "v"))], .group (Text.lit "g"), .group [],
      .attributes [(Text.lit "a", .int 1)], .group (Text.lit "h")]
    { level := Level.info, message := Text.lit "read", place := some (Text.lit "x:7"),
      attributes := [(Text.lit "ok", .bool true)] }
    [(Text.lit "doc", .text (Text.lit "a.md"))] rfl (by decide) (by decide) (by decide)
  have hrun := (h.2 (fun _ n => 2 * n)
    [.attributes 0 [(Text.lit "k", .text (Text.lit "v"))], .group 1 (Text.lit "g"), .group 2 [],
      .attributes 3 [(Text.lit "a", .int 1)], .group 4 (Text.lit "h"),
      .context 0 [(Text.lit "doc", .text (Text.lit "a.md"))]]
    [.group 4 (Text.lit "i"), .attributes 1 [(Text.lit "k", .text (Text.lit "w"))],
      .context 1 [(Text.lit "part", .int 2)]] 5 1 rfl rfl).2
  rw [h.1] at hrun
  exact hrun

end NovelScript.Log
