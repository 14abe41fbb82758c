import Mathlib.Data.List.Induction
import NovelScript.Log.Logger
import NovelScript.Proofs.Text.Words

/-!
# The line of a record

What a logger was given, attributes and groups in any order, is read from the first step on, and the
groups that are open are carried along. `carried` says without that what a logger carries: each of
its attributes under its full name, which has in front the groups that were opened before the
attribute was added, with points between them.

* **`chainText_eq`**: on the console a logger shows what it carries, in the order in which it was
  added.
* **`consoleLine_eq`**: so the line of a record depends on what the logger carries and on the groups
  that are open at its end, and on nothing else of the logger (`lineOf`).
* **`lineOf_of_says`**: when every attribute says something, none is left out of it.
-/

namespace NovelScript.Log

open Text (blank newline)

/-! ## Full names -/

/-- The full name of a key in groups, with points between them. -/
def fullName (groups : List Text) (key : Text) : Text :=
  Text.join (Text.lit ".") (groups ++ [key])

/-- The attribute under its full name. -/
def inGroups (groups : List Text) (a : Attribute) : Attribute :=
  (fullName groups a.1, a.2)

/-- The names of the groups, each with its point, stand in front of the key. -/
theorem groupText_append (groups : List Text) (key : Text) :
    groupText groups ++ key = fullName groups key := by
  induction groups with
  | nil => rw [fullName, List.nil_append, Text.join, List.intercalate_singleton]; rfl
  | cons name groups ih =>
    have hcons : fullName (name :: groups) key = name ++ Text.lit "." ++ fullName groups key := by
      have hne : groups ++ [key] ≠ [] := by simp
      obtain ⟨first, more, hmore⟩ := List.exists_cons_of_ne_nil hne
      rw [fullName, fullName, List.cons_append, hmore, Text.join_cons_cons]
    rw [hcons, ← ih, groupText, groupText, List.flatMap_cons, List.append_assoc]

/-- An attribute that says something says it in groups as well. -/
theorem isVoid_fullName {groups : List Text} {key : Text} {v : Value} (h : isVoid key v = false) :
    isVoid (fullName groups key) v = false := by
  rw [← groupText_append]
  unfold isVoid at h ⊢
  cases key <;> simp_all

/-! ## What a logger carries -/

/-- The attributes of a step. -/
def Step.added : Step → List Attribute
  | .attributes as => as
  | .group _ => []

/-- The attributes of a logger under their full names: each step adds its own in the groups that the
steps before it opened. -/
def carried (chain : Chain) : List Attribute :=
  chain.zipIdx.flatMap fun p => p.1.added.map (inGroups (openGroups (chain.take p.2)))

/-- The groups of a chain are opened step after step. -/
theorem openGroups_append (chain more : Chain) :
    openGroups (chain ++ more) = openGroups chain ++ openGroups more := by
  rw [openGroups, List.filterMap_append]
  rfl

/-- A step that opens a group opens that one, unless its name is empty. -/
theorem openGroups_group (name : Text) :
    openGroups [.group name] = if name.isEmpty then [] else [name] := by
  cases name <;> rfl

/-- One more step adds its attributes in the groups that are open by then. -/
theorem carried_concat (chain : Chain) (step : Step) :
    carried (chain ++ [step]) = carried chain ++ step.added.map (inGroups (openGroups chain)) := by
  have hbefore : ∀ p ∈ chain.zipIdx,
      p.1.added.map (inGroups (openGroups ((chain ++ [step]).take p.2))) =
        p.1.added.map (inGroups (openGroups (chain.take p.2))) := by
    intro p hp
    have hlt := (List.mem_zipIdx' hp).1
    rw [List.take_append_of_le_length (Nat.le_of_lt hlt)]
  rw [carried, List.zipIdx_append, List.flatMap_append, List.flatMap_def, List.map_congr_left hbefore,
    ← List.flatMap_def, carried, Nat.zero_add, List.zipIdx_singleton, List.flatMap_singleton,
    List.take_left]

/-- An attribute as it is shown, unless it says nothing. -/
def attributeShown (a : Attribute) : Text :=
  if isVoid a.1 a.2 then [] else attributeText a.1 a.2

/-- The text of a chain may be written in two parts, the second one within the groups of the
first. -/
theorem chainText_append (groups : List Text) (chain more : Chain) :
    chainText groups (chain ++ more) =
      chainText groups chain ++ chainText (groups ++ openGroups chain) more := by
  induction chain generalizing groups with
  | nil => simp [chainText, openGroups]
  | cons step chain ih =>
    cases step with
    | attributes as =>
      have hopen : openGroups (.attributes as :: chain) = openGroups chain := rfl
      rw [List.cons_append, chainText, chainText, ih, hopen, List.append_assoc]
    | group name =>
      have hopen : openGroups (.group name :: chain) =
          (if name.isEmpty then [] else [name]) ++ openGroups chain := by
        rw [← openGroups_group, ← openGroups_append]
        rfl
      have hgroups : groups ++ (if name.isEmpty then [] else [name]) =
          if name.isEmpty then groups else groups ++ [name] := by
        cases name.isEmpty <;> simp
      rw [List.cons_append, chainText, chainText, ih, hopen, ← List.append_assoc, hgroups]

/-- One step writes its attributes in the groups that are open. -/
theorem chainText_singleton (groups : List Text) (step : Step) :
    chainText groups [step] = (step.added.map (inGroups groups)).flatMap attributeShown := by
  cases step with
  | attributes as =>
    rw [chainText, chainText, List.append_nil, Step.added, List.flatMap_map]
    simp only [groupText_append]
    rfl
  | group name => rfl

/-- **On the console a logger shows what it carries.** -/
theorem chainText_eq (chain : Chain) :
    chainText [] chain = (carried chain).flatMap attributeShown := by
  induction chain using List.reverseRecOn with
  | nil => rfl
  | append_singleton chain step ih =>
    rw [chainText_append, ih, List.nil_append, chainText_singleton, carried_concat,
      List.flatMap_append]

/-! ## The line -/

/-- The line of a record for what a logger carries in some groups. An attribute of the record is
looked at without the groups when it is asked whether it says anything. -/
def lineOf (attributes : List Attribute) (groups : List Text) (r : Record) : Text :=
  r.level.short ++ (if r.message.isEmpty then [] else Text.lit " " ++ r.message) ++
    attributes.flatMap attributeShown ++
    ((kept r.attributes).flatMap fun a =>
      if isVoid a.1 a.2 then [] else attributeText (groupText groups ++ a.1) a.2) ++
    (r.place.elim [] fun p => Text.lit " src=" ++ p) ++ [newline]

/-- **The line of a record** depends on what the logger carries and on its open groups only. -/
theorem consoleLine_eq (chain : Chain) (r : Record) :
    consoleLine chain r = lineOf (carried chain) (openGroups chain) r := by
  rw [consoleLine, chainText_eq, lineOf]
  cases r.place <;> rfl

/-- The line of a record on the console: the time, if there is one, and then what the chain and the
record give. -/
theorem Sink.line_console {sink : Sink} (h : sink.format = .console) (time : Option Clock)
    (chain : Chain) (r : Record) :
    sink.line time chain r = (time.elim [] fun t => t.second ++ [blank]) ++
      lineOf (carried chain) (openGroups chain)
        (if sink.source then r else { r with place := none }) := by
  rw [Sink.line, h, ← consoleLine_eq]

/-! ## Attributes that say something -/

/-- An attribute that is neither void nor an empty group. -/
def Says (a : Attribute) : Prop :=
  isVoid a.1 a.2 = false ∧ a.2.isEmptyGroup = false

instance (a : Attribute) : Decidable (Says a) :=
  inferInstanceAs (Decidable (_ ∧ _))

/-- When no attribute is void, each of them is written. -/
theorem flatMap_attributeShown {as : List Attribute} (h : ∀ a ∈ as, isVoid a.1 a.2 = false) :
    as.flatMap attributeShown = as.flatMap fun a => attributeText a.1 a.2 := by
  rw [List.flatMap_def, List.flatMap_def]
  congr 1
  refine List.map_congr_left fun a ha => ?_
  rw [attributeShown, h a ha]
  rfl

/-- What a logger carries says something when all that it was given does. -/
theorem isVoid_of_mem_carried {chain : Chain} (h : ∀ step ∈ chain, ∀ a ∈ step.added, Says a)
    {a : Attribute} (ha : a ∈ carried chain) : isVoid a.1 a.2 = false := by
  obtain ⟨⟨step, i⟩, hstep, ha⟩ := List.mem_flatMap.mp ha
  obtain ⟨b, hb, rfl⟩ := List.mem_map.mp ha
  exact isVoid_fullName (h step (List.fst_mem_of_mem_zipIdx hstep) b hb).1

/-- The line when every attribute says something: message, attributes in their order and the place,
with nothing left out. -/
theorem lineOf_of_says {attributes : List Attribute} (groups : List Text) {r : Record}
    (hattributes : ∀ a ∈ attributes, isVoid a.1 a.2 = false) (hr : ∀ a ∈ r.attributes, Says a) :
    lineOf attributes groups r =
      r.level.short ++ (if r.message.isEmpty then [] else Text.lit " " ++ r.message) ++
        ((attributes ++ r.attributes.map (inGroups groups)).flatMap fun a =>
          attributeText a.1 a.2) ++
        (r.place.elim [] fun p => Text.lit " src=" ++ p) ++ [newline] := by
  have hkept : kept r.attributes = r.attributes := by
    rw [kept, List.filter_eq_self]
    intro a ha
    rw [(hr a ha).2]
    rfl
  have hrecord : (r.attributes.flatMap fun a =>
      if isVoid a.1 a.2 then [] else attributeText (groupText groups ++ a.1) a.2) =
        (r.attributes.map (inGroups groups)).flatMap fun a => attributeText a.1 a.2 := by
    rw [List.flatMap_map, List.flatMap_def, List.flatMap_def]
    congr 1
    refine List.map_congr_left fun a ha => ?_
    rw [(hr a ha).1, groupText_append]
    rfl
  rw [lineOf, hkept, flatMap_attributeShown hattributes, hrecord, List.flatMap_append]
  simp only [List.append_assoc]

end NovelScript.Log
