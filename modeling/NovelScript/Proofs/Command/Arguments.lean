import Mathlib.Data.List.Pairwise
import NovelScript.Command.Request
import NovelScript.Proofs.Loop
import NovelScript.Proofs.Text.Split

/-!
# Flags and words of a command line

A command line is made of parts (`Part`): a word, or a flag together with its value. A value may
look like a word or like a flag; as it belongs to its part, it is neither.

* `readArguments_lineOf`: from any line of parts the words come out in their order, and the flags
  act on the choices in theirs. Where words stand between flags makes no difference.
* `applyAll_lastGiven`: where each flag has a place of its own (`Registered`), only the last flag of
  each name counts.
* `exits_argumentsTurn`: reading is a loop over the flags in front of a word and the word behind
  them; it ends on every command line.

**`arguments_commute`** puts these together, and `registered_commands` says that the flags of every
command are `Registered`.
-/

namespace NovelScript.Command

variable {σ : Type} {flags : List (Flag σ)}

/-! ## What a flag does with a value -/

/-- The values that a setter takes. -/
def Setter.Value : Setter σ → Type
  | .text _ => Text
  | .int _ => Int
  | .switch _ => Bool

/-- What a setter does with a value. -/
def Setter.write : (p : Setter σ) → p.Value → σ → σ
  | .text set => set
  | .int set => set
  | .switch set => set

/-- The value that an argument stands for; a switch without one is on. -/
def Setter.read? : (p : Setter σ) → Option Text → Option p.Value
  | .text _, given => given
  | .int _, none => none
  | .int _, some v => (Text.literal64? v).toOption
  | .switch _, none => some true
  | .switch _, some v => truth? v

/-- A flag that can read what it is given writes the value into its own part of the settings.
Reading and writing are kept apart so that only the writing has to be compared when flags change
places. -/
theorem Flag.set_of_read? {f : Flag σ} {given : Option Text} {v : f.setter.Value}
    (h : f.setter.read? given = some v) (s : σ) : f.set given s = .ok (f.setter.write v s) := by
  obtain ⟨name, setter⟩ := f
  cases setter with
  | text put =>
    obtain rfl : given = some v := h
    rfl
  | int put =>
    cases given with
    | none => cases h
    | some t =>
      change (Text.literal64? t).toOption = some v at h
      unfold Flag.set
      dsimp only
      cases hread : Text.literal64? t with
      | error e => rw [hread] at h; cases h
      | ok n => rw [hread] at h; cases h; rfl
  | switch put =>
    cases given with
    | none => cases h; rfl
    | some t =>
      change truth? t = some v at h
      unfold Flag.set
      dsimp only
      rw [h]
      rfl

/-- Only a switch goes without a value. -/
theorem Flag.takesNext_of_read?_none {f : Flag σ} {v : f.setter.Value}
    (h : f.setter.read? none = some v) : f.takesNext = false := by
  obtain ⟨name, setter⟩ := f
  cases setter with
  | text put => cases h
  | int put => cases h
  | switch put => rfl

/-! ## Flags beside each other -/

/-- A name that can be read back from an argument. -/
def IsFlagName (name : Text) : Prop :=
  name ≠ [] ∧ name.head? ≠ some dash ∧ equals ∉ name

instance (name : Text) : Decidable (IsFlagName name) :=
  inferInstanceAs (Decidable (_ ∧ _ ∧ _))

/-- Two flags with names and places of their own. -/
def Flag.Apart (f g : Flag σ) : Prop :=
  f.name ≠ g.name ∧
    ∀ v w s, f.setter.write v (g.setter.write w s) = g.setter.write w (f.setter.write v s)

/-- Flags that a command can take together: each has a name and a place of its own, and what is
written to a place is all that stands there. -/
structure Registered (flags : List (Flag σ)) : Prop where
  /-- Every name can be read back. -/
  named : ∀ f ∈ flags, IsFlagName f.name
  /-- A flag overwrites what it wrote before. -/
  overwrites : ∀ f ∈ flags, ∀ v w s,
    f.setter.write v (f.setter.write w s) = f.setter.write v s
  /-- No two flags share a name or a place. -/
  apart : flags.Pairwise Flag.Apart

instance : Std.Symm (Flag.Apart (σ := σ)) where
  symm _ _ h := ⟨h.1.symm, fun v w s => (h.2 w v s).symm⟩

/-- Different flags write to different parts of the settings, so that neither hides what the other
one has written. -/
theorem Registered.apart_of_ne (h : Registered flags) {f g : Flag σ} (hf : f ∈ flags)
    (hg : g ∈ flags) (hne : f ≠ g) : f.Apart g :=
  h.apart.forall hf hg hne

/-- A flag is known by its name: the same name is not registered twice. -/
theorem Registered.eq_of_name (h : Registered flags) {f g : Flag σ} (hf : f ∈ flags)
    (hg : g ∈ flags) (hname : f.name = g.name) : f = g := by
  by_contra hne
  exact (h.apart_of_ne hf hg hne).1 hname

/-- A flag is found by its name. -/
theorem Registered.findFlag_eq (h : Registered flags) {f : Flag σ} (hf : f ∈ flags) :
    findFlag flags f.name = .ok f := by
  have hfind : flags.find? (·.name == f.name) = some f := by
    cases hfound : flags.find? (·.name == f.name) with
    | none => exact absurd (beq_self_eq_true f.name) (List.find?_eq_none.mp hfound f hf)
    | some g =>
      have hname := List.find?_some hfound
      rw [beq_iff_eq] at hname
      rw [h.eq_of_name (List.mem_of_find?_eq_some hfound) hf hname]
  rw [findFlag, hfind]

/-- The flags of every command can be taken together. -/
theorem registered_commands :
    Registered buildFlags ∧ Registered printFlags ∧ Registered sheetFlags ∧
      Registered settingsFlags ∧ Registered cacheFlags := by
  refine ⟨⟨by decide, ?_, ?_⟩, ⟨by decide, ?_, ?_⟩, ⟨by decide, ?_, ?_⟩, ⟨by decide, ?_, ?_⟩,
    ⟨by decide, ?_, ?_⟩⟩
  all_goals
    simp only [buildFlags, printFlags, sheetFlags, settingsFlags, cacheFlags, List.pairwise_cons,
      List.forall_mem_cons, Flag.Apart]
    and_intros
    -- names differ by evaluation, and fields of a record are places of their own
    all_goals first | decide | exact fun _ _ _ => rfl | simp

/-! ## Parts of a command line -/

/-- How the value of a flag is given. -/
inductive Spelling where
  /-- Not at all: a switch is on. -/
  | alone
  /-- Behind an equals sign. -/
  | joined (value : Text)
  /-- As the next argument. -/
  | apart (value : Text)

/-- The argument for the value. -/
def Spelling.given? : Spelling → Option Text
  | .alone => none
  | .joined v => some v
  | .apart v => some v

/-- A flag of a command with a value that it takes. -/
structure Given (flags : List (Flag σ)) where
  /-- The flag. -/
  flag : Flag σ
  /-- Are there two dashes in front of its name? -/
  doubled : Bool
  /-- How its value is given. -/
  spelling : Spelling
  /-- Its value. -/
  value : flag.setter.Value
  /-- The command has this flag. -/
  mem : flag ∈ flags
  /-- The value is what is given. -/
  value_eq : flag.setter.read? spelling.given? = some value
  /-- Only what takes the next argument gets it. -/
  takes : ∀ v, spelling = .apart v → flag.takesNext = true

/-- The dashes in front of a name. -/
def dashes (doubled : Bool) : Text :=
  if doubled then [dash, dash] else [dash]

/-- The arguments of a flag with its value. -/
def Given.texts (g : Given flags) : List Text :=
  match g.spelling with
  | .alone => [dashes g.doubled ++ g.flag.name]
  | .joined v => [dashes g.doubled ++ (g.flag.name ++ equals :: v)]
  | .apart v => [dashes g.doubled ++ g.flag.name, v]

/-- What a flag with its value does to the choices. -/
def Given.effect (g : Given flags) : σ → σ :=
  g.flag.setter.write g.value

/-- An argument that is a word: it does not start with a dash, or it is a dash. -/
def IsWord (w : Text) : Prop :=
  w.head? ≠ some dash ∨ w = [dash]

instance (w : Text) : Decidable (IsWord w) :=
  inferInstanceAs (Decidable (_ ∨ _))

/-- A part of a command line. -/
inductive Part (flags : List (Flag σ)) where
  /-- A word. -/
  | word (w : Text) (h : IsWord w)
  /-- A flag with its value. -/
  | flag (g : Given flags)

/-- The arguments of a part. -/
def Part.texts : Part flags → List Text
  | .word w _ => [w]
  | .flag g => g.texts

/-- The command line of parts. -/
def lineOf (ps : List (Part flags)) : List Text :=
  ps.flatMap Part.texts

/-- The words among parts. -/
def wordsOf (ps : List (Part flags)) : List Text :=
  ps.filterMap fun
    | .word w _ => some w
    | .flag _ => none

/-- The flags among parts. -/
def givensOf (ps : List (Part flags)) : List (Given flags) :=
  ps.filterMap fun
    | .word _ _ => none
    | .flag g => some g

/-- The choices after flags, one after the other. -/
def applyAll (gs : List (Given flags)) (s : σ) : σ :=
  gs.foldl (fun s g => g.effect s) s

/-! ## Reading a part -/

/-- A word is read as a word, whatever flags there are. -/
theorem ofText_of_isWord {w : Text} (h : IsWord w) : Argument.ofText w = .word := by
  match w, h with
  | [], _ => rfl
  | [b], _ =>
    unfold Argument.ofText
    split <;> simp_all
  | b :: c :: r, h =>
    have hb : b ≠ 0x2D := by
      rintro rfl
      simp [IsWord, dash] at h
    unfold Argument.ofText
    split <;> simp_all

/-- The name of a flag starts with something that is neither a dash nor an equals sign, and has no
equals sign later. So it can be told where the dashes end and where a value begins. -/
theorem IsFlagName.exists_cons {name : Text} (h : IsFlagName name) :
    ∃ b r, name = b :: r ∧ b ≠ dash ∧ b ≠ equals ∧ equals ∉ r := by
  obtain ⟨b, r, rfl⟩ := List.exists_cons_of_ne_nil h.1
  obtain ⟨-, hdash, hequals⟩ := h
  rw [List.mem_cons, not_or] at hequals
  exact ⟨b, r, rfl, fun hb => hdash (congrArg some hb), fun hb => hequals.1 hb.symm, hequals.2⟩

/-- One dash or two in front of the name of a flag make a flag of the argument; what stands behind
the name is left as it is. -/
theorem ofText_dashes {name : Text} (h : IsFlagName name) (doubled : Bool) (t : Text) :
    Argument.ofText (dashes doubled ++ (name ++ t)) = .flag (name ++ t) := by
  obtain ⟨b, r, rfl, hb, -⟩ := h.exists_cons
  cases doubled with
  | false =>
    have hb' : b ≠ 0x2D := hb
    show Argument.ofText (0x2D :: b :: (r ++ t)) = _
    unfold Argument.ofText
    split <;> simp_all
  | true => rfl

/-- The name alone behind its dashes is a flag as well. -/
theorem ofText_name {name : Text} (h : IsFlagName name) (doubled : Bool) :
    Argument.ofText (dashes doubled ++ name) = .flag name := by
  have hread := ofText_dashes h doubled []
  rwa [List.append_nil] at hread

/-- Without an equals sign there is a name and no value. -/
theorem nameAndValue?_name {name : Text} (h : IsFlagName name) :
    nameAndValue? name = some (name, none) := by
  obtain ⟨b, r, rfl, hb, hb', hr⟩ := h.exists_cons
  rw [nameAndValue?, if_neg (not_or.mpr ⟨hb, hb'⟩), Text.cut_of_not_mem hr]

/-- The name ends at the first equals sign, and everything behind it is the value, further equals
signs included. -/
theorem nameAndValue?_joined {name : Text} (h : IsFlagName name) (v : Text) :
    nameAndValue? (name ++ equals :: v) = some (name, some v) := by
  obtain ⟨b, r, rfl, hb, hb', hr⟩ := h.exists_cons
  rw [List.cons_append, nameAndValue?, if_neg (not_or.mpr ⟨hb, hb'⟩), Text.cut_append_cons hr]

/-- Reads the flag of an argument that is one: the choices after it, and the arguments behind it. -/
def readFlag (flags : List (Flag σ)) (s : σ) (a body : Text) (rest : List Text) :
    Except FlagError (σ × List Text) :=
  match nameAndValue? body with
  | none => .error (.malformed a)
  | some (name, value) =>
    match findFlag flags name with
    | .error e => .error e
    | .ok f =>
      if f.takesNext && value.isNone then
        match rest with
        | [] => .error (.noValue name)
        | v :: rest => (f.set (some v) s).map fun s => (s, rest)
      else (f.set value s).map fun s => (s, rest)

/-- Words in front of those that are read. -/
def prepend (before : List Text) (r : List Text × σ) : List Text × σ :=
  (before ++ r.1, r.2)

/-- What comes of arguments of which the first is a word, however it looks. -/
def readWord (flags : List (Flag σ)) : List Text × σ → Except FlagError (List Text × σ)
  | ([], s) => .ok ([], s)
  | (w :: rest, s) => (readArguments flags s rest).map (prepend [w])

/-- What an argument does to those behind it: a word stands by itself, two dashes make a word of the
next argument, and a flag goes on behind its value. -/
theorem readArguments_cons (s : σ) (a : Text) (rest : List Text) :
    readArguments flags s (a :: rest) =
      match Argument.ofText a with
      | .word => readWord flags (a :: rest, s)
      | .escape => readWord flags (rest, s)
      | .flag body =>
        (readFlag flags s a body rest).bind fun r => readArguments flags r.1 r.2 := by
  rw [readArguments.eq_def]
  dsimp only
  cases Argument.ofText a with
  | word =>
    dsimp only [readWord]
    cases readArguments flags s rest <;> rfl
  | escape =>
    cases rest with
    | nil => rfl
    | cons w rest =>
      dsimp only [readWord]
      cases readArguments flags s rest <;> rfl
  | flag body =>
    dsimp only [readFlag]
    cases nameAndValue? body with
    | none => rfl
    | some nv =>
      obtain ⟨name, value⟩ := nv
      dsimp only
      cases findFlag flags name with
      | error e => rfl
      | ok f =>
        dsimp only
        by_cases hnext : (f.takesNext && value.isNone) = true
        · rw [if_pos hnext, if_pos hnext]
          cases rest with
          | nil => rfl
          | cons v rest =>
            dsimp only
            cases f.set (some v) s <;> rfl
        · rw [if_neg hnext, if_neg hnext]
          cases f.set value s <;> rfl

/-- A word is put aside, and the reading goes on with what is behind it. -/
theorem readArguments_word {a : Text} (h : Argument.ofText a = .word) (s : σ) (rest : List Text) :
    readArguments flags s (a :: rest) = (readArguments flags s rest).map (prepend [a]) := by
  rw [readArguments_cons, h]
  rfl

/-- A flag changes the settings and takes what it needs from the arguments behind it; then the
reading goes on. -/
theorem readArguments_flag {a body : Text} (h : Argument.ofText a = .flag body) (s : σ)
    (rest : List Text) :
    readArguments flags s (a :: rest) =
      (readFlag flags s a body rest).bind fun r => readArguments flags r.1 r.2 := by
  rw [readArguments_cons, h]

/-- A flag that brings its value, or needs none. -/
theorem readFlag_own (h : Registered flags) {f : Flag σ} (hf : f ∈ flags) {a body : Text}
    {value : Option Text} (hbody : nameAndValue? body = some (f.name, value))
    (hown : (f.takesNext && value.isNone) = false) (s : σ) (rest : List Text) :
    readFlag flags s a body rest = (f.set value s).map fun s => (s, rest) := by
  simp [readFlag, hbody, h.findFlag_eq hf, hown]

/-- A flag that takes the next argument. -/
theorem readFlag_next (h : Registered flags) {f : Flag σ} (hf : f ∈ flags) {a body : Text}
    (hbody : nameAndValue? body = some (f.name, none)) (htakes : f.takesNext = true) (s : σ)
    (v : Text) (rest : List Text) :
    readFlag flags s a body (v :: rest) = (f.set (some v) s).map fun s => (s, rest) := by
  simp [readFlag, hbody, h.findFlag_eq hf, htakes]

/-- **A flag is read with its value**, however it is spelled and whatever stands behind it. The
cases are those of the spelling: a flag of its own, one with its value joined to it, and one that
takes the next argument. -/
theorem readArguments_texts (h : Registered flags) (g : Given flags) (s : σ) (rest : List Text) :
    readArguments flags s (g.texts ++ rest) = readArguments flags (g.effect s) rest := by
  have hname := h.named _ g.mem
  have hvalue := g.value_eq
  cases hspelling : g.spelling with
  | alone =>
    rw [hspelling, Spelling.given?] at hvalue
    rw [Given.texts, hspelling, List.singleton_append, readArguments_flag (ofText_name hname _),
      readFlag_own h g.mem (nameAndValue?_name hname)
        (by rw [Flag.takesNext_of_read?_none hvalue, Bool.false_and]),
      Flag.set_of_read? hvalue]
    rfl
  | joined v =>
    rw [hspelling, Spelling.given?] at hvalue
    rw [Given.texts, hspelling, List.singleton_append, readArguments_flag (ofText_dashes hname _ _),
      readFlag_own h g.mem (nameAndValue?_joined hname v) (Bool.and_false _),
      Flag.set_of_read? hvalue]
    rfl
  | apart v =>
    rw [hspelling, Spelling.given?] at hvalue
    rw [Given.texts, hspelling, List.cons_append, List.singleton_append,
      readArguments_flag (ofText_name hname _),
      readFlag_next h g.mem (nameAndValue?_name hname) (g.takes v hspelling),
      Flag.set_of_read? hvalue]
    rfl

/-! ## Reading a line of parts -/

/-- No words in front change nothing. -/
theorem map_prepend_nil (r : Except FlagError (List Text × σ)) : r.map (prepend []) = r := by
  cases r <;> rfl

/-- Words that are put in front one group after the other are put in front together. -/
theorem map_prepend_map_prepend (before behind : List Text)
    (r : Except FlagError (List Text × σ)) :
    (r.map (prepend behind)).map (prepend before) = r.map (prepend (before ++ behind)) := by
  cases r with
  | error e => rfl
  | ok r => simp [Except.map, prepend]

/-- **Parts in front of other arguments**: their words come first, and what is behind is read with
the choices that their flags make. -/
theorem readArguments_lineOf_append (h : Registered flags) (ps : List (Part flags)) (s : σ)
    (rest : List Text) :
    readArguments flags s (lineOf ps ++ rest) =
      (readArguments flags (applyAll (givensOf ps) s) rest).map (prepend (wordsOf ps)) := by
  induction ps generalizing s with
  | nil => exact (map_prepend_nil _).symm
  | cons p ps ih =>
    cases p with
    | word w hw =>
      have hline : lineOf (.word w hw :: ps) ++ rest = w :: (lineOf ps ++ rest) := rfl
      rw [hline, readArguments_word (ofText_of_isWord hw), ih, map_prepend_map_prepend]
      rfl
    | flag g =>
      have hline : lineOf (.flag g :: ps) ++ rest = g.texts ++ (lineOf ps ++ rest) :=
        List.append_assoc _ _ _
      rw [hline, readArguments_texts h, ih]
      rfl

/-- A command line that is spelled out of words and flags is read as these: the words in their
order, and all values set in theirs. The spellings, with one dash or two and joined or apart, do not
matter. -/
theorem readArguments_lineOf (h : Registered flags) (ps : List (Part flags)) (s : σ) :
    readArguments flags s (lineOf ps) = .ok (wordsOf ps, applyAll (givensOf ps) s) := by
  have hread := readArguments_lineOf_append h ps s []
  rw [List.append_nil] at hread
  rw [hread, readArguments, Except.map, prepend, List.append_nil]

/-! ## The last flag of each name -/

/-- The flags behind which no other has the same name. -/
def lastGiven : List (Given flags) → List (Given flags)
  | [] => []
  | g :: gs => if gs.any (·.flag.name == g.flag.name) then lastGiven gs else g :: lastGiven gs

/-- A flag undoes what it did before with another value. -/
theorem effect_effect_of_name (h : Registered flags) {g g' : Given flags}
    (hname : g'.flag.name = g.flag.name) (s : σ) : g'.effect (g.effect s) = g'.effect s := by
  obtain ⟨f, _, _, w, hf, _, _⟩ := g
  obtain ⟨f', _, _, v, hf', _, _⟩ := g'
  obtain rfl := h.eq_of_name hf' hf hname
  exact h.overwrites f' hf v w s

/-- Flags with different names act in either order. -/
theorem effect_comm (h : Registered flags) {g g' : Given flags}
    (hname : g'.flag.name ≠ g.flag.name) (s : σ) :
    g'.effect (g.effect s) = g.effect (g'.effect s) :=
  (h.apart_of_ne g'.mem g.mem fun heq => hname (congrArg Flag.name heq)).2 _ _ s

/-- A flag does nothing in front of one of the same name. So the last value of a flag is the one
that counts. -/
theorem applyAll_effect (h : Registered flags) {g : Given flags} {gs : List (Given flags)}
    (hlater : ∃ g' ∈ gs, g'.flag.name = g.flag.name) (s : σ) :
    applyAll gs (g.effect s) = applyAll gs s := by
  induction gs generalizing s with
  | nil =>
    obtain ⟨_, hmem, -⟩ := hlater
    cases hmem
  | cons first gs ih =>
    show applyAll gs (first.effect (g.effect s)) = applyAll gs (first.effect s)
    by_cases hname : first.flag.name = g.flag.name
    · rw [effect_effect_of_name h hname]
    · have hbehind : ∃ g' ∈ gs, g'.flag.name = g.flag.name := by
        obtain ⟨g', hmem, hg'⟩ := hlater
        rcases List.mem_cons.mp hmem with rfl | hmem
        · exact absurd hg' hname
        · exact ⟨g', hmem, hg'⟩
      rw [effect_comm h hname, ih hbehind]

/-- **Only the last flag of each name counts.** -/
theorem applyAll_lastGiven (h : Registered flags) (gs : List (Given flags)) (s : σ) :
    applyAll (lastGiven gs) s = applyAll gs s := by
  induction gs generalizing s with
  | nil => rfl
  | cons g gs ih =>
    rw [lastGiven]
    split
    · rename_i hlater
      have hlater' : ∃ g' ∈ gs, g'.flag.name = g.flag.name := by simpa using hlater
      rw [ih]
      exact (applyAll_effect h hlater' s).symm
    · exact ih (g.effect s)

/-! ## The loop over a command line -/

/-- What is left over of some arguments is the part that was set aside. -/
theorem eq_of_map_pair {r : Except FlagError σ} {s' : σ} {rest left : List Text}
    (h : (r.map fun s => (s, rest)) = .ok (s', left)) : left = rest := by
  cases r with
  | error e => cases h
  | ok s => cases h; rfl

/-- Reading a flag takes arguments away. -/
theorem length_of_readFlag {s s' : σ} {a body : Text} {rest left : List Text}
    (h : readFlag flags s a body rest = .ok (s', left)) : left.length ≤ rest.length := by
  unfold readFlag at h
  split at h
  · cases h
  · split at h
    · cases h
    · split at h
      · split at h
        · cases h
        · rw [eq_of_map_pair h, List.length_cons]
          omega
      · exact Nat.le_of_eq (congrArg List.length (eq_of_map_pair h))

/-- Reads the flags in front of the first word: what is left, and the choices. Two dashes alone
stand before a word. -/
def readLeading (flags : List (Flag σ)) (s : σ) (args : List Text) :
    Except FlagError (List Text × σ) :=
  match args with
  | [] => .ok ([], s)
  | a :: rest =>
    match Argument.ofText a with
    | .word => .ok (a :: rest, s)
    | .escape => .ok (rest, s)
    | .flag body =>
      match _hread : readFlag flags s a body rest with
      | .error e => .error e
      | .ok (s, left) => readLeading flags s left
termination_by args.length
decreasing_by
  have hlength := length_of_readFlag _hread
  rw [List.length_cons]
  omega

/-- Reading is reading the flags in front, and what is behind them. -/
theorem readArguments_eq (flags : List (Flag σ)) (s : σ) (args : List Text) :
    readArguments flags s args = (readLeading flags s args).bind (readWord flags) := by
  fun_induction readLeading flags s args with
  | case1 s => rfl
  | case2 s a rest hword => exact readArguments_word hword s rest
  | case3 s a rest hescape =>
    rw [readArguments_cons, hescape]
    rfl
  | case4 s a rest body hflag e hread =>
    rw [readArguments_flag hflag, hread]
    rfl
  | case5 s a rest body hflag s' left hread ih =>
    rw [readArguments_flag hflag, hread, ← ih]
    rfl

/-- Reading the flags in front takes arguments away and brings none. This bounds the loop that reads
them again behind every word. -/
theorem length_of_readLeading {s s' : σ} {args left : List Text}
    (h : readLeading flags s args = .ok (left, s')) : left.length ≤ args.length := by
  fun_induction readLeading flags s args with
  | case1 s => cases h; exact Nat.le_refl _
  | case2 s a rest hword => cases h; exact Nat.le_refl _
  | case3 s a rest hescape => cases h; exact Nat.le_succ _
  | case4 s a rest body hflag e hread => cases h
  | case5 s a rest body hflag s'' more hread ih =>
    have hlength := length_of_readFlag hread
    have hmore := ih h
    rw [List.length_cons]
    omega

/-- Where the loop over a command line stands. -/
structure Reading (σ : Type) where
  /-- The arguments that are left. -/
  left : List Text
  /-- The words so far. -/
  words : List Text
  /-- The choices so far. -/
  choices : σ

/-- One turn of the loop: the flags in front are read, and the word behind them is taken. -/
def argumentsTurn (flags : List (Flag σ)) (r : Reading σ) :
    Reading σ ⊕ Except FlagError (List Text × σ) :=
  match readLeading flags r.choices r.left with
  | .error e => .inr (.error e)
  | .ok ([], s) => .inr (.ok (r.words, s))
  | .ok (w :: rest, s) => .inl ⟨rest, r.words ++ [w], s⟩

/-- What the loop is to give. -/
def Reading.result (flags : List (Flag σ)) (r : Reading σ) : Except FlagError (List Text × σ) :=
  (readArguments flags r.choices r.left).map (prepend r.words)

/-- A turn that leaves, leaves with what the loop is to give. With the turns that go on it makes the
loop a recursion on the arguments. -/
theorem eq_result_of_argumentsTurn {r : Reading σ} {b : Except FlagError (List Text × σ)}
    (hturn : argumentsTurn flags r = .inr b) : b = r.result flags := by
  unfold argumentsTurn at hturn
  unfold Reading.result
  rw [readArguments_eq]
  split at hturn
  · rename_i e hread
    cases hturn
    rw [hread]
    rfl
  · rename_i s hread
    cases hturn
    rw [hread]
    simp [Except.bind, readWord, Except.map, prepend]
  · cases hturn

/-- A turn that goes on takes a word at least, and keeps what the loop is to give. -/
theorem result_of_argumentsTurn {r next : Reading σ} (hturn : argumentsTurn flags r = .inl next) :
    next.result flags = r.result flags ∧ next.left.length < r.left.length := by
  unfold argumentsTurn at hturn
  split at hturn
  · cases hturn
  · cases hturn
  · rename_i w rest s hread
    cases hturn
    have hlength := length_of_readLeading hread
    rw [List.length_cons] at hlength
    refine ⟨?_, hlength⟩
    unfold Reading.result
    rw [readArguments_eq flags r.choices r.left, hread, ← map_prepend_map_prepend]
    rfl

/-- **The loop over a command line ends**, whatever stands on it, and gives what is read from it. -/
theorem exits_argumentsTurn (flags : List (Flag σ)) (r : Reading σ) :
    ∃ n ≤ r.left.length + 1, Exits (argumentsTurn flags) n r (r.result flags) :=
  exists_exits (Reading.result flags) (fun r => r.left.length)
    (fun _ _ => eq_result_of_argumentsTurn) (fun _ _ => result_of_argumentsTurn) r

/-! ## The theorem -/

/-- **Flags and words commute.** On a line of parts, in whatever order they stand, reading gives the
words in their order and the choices that the flags make in theirs, so two lines with the same words
and the same flags give the same. Of flags of one name only the last one counts. Reading is a loop
that ends on every command line. -/
theorem arguments_commute (h : Registered flags) (s : σ) :
    (∀ ps : List (Part flags),
      readArguments flags s (lineOf ps) = .ok (wordsOf ps, applyAll (givensOf ps) s)) ∧
    (∀ ps qs : List (Part flags), wordsOf ps = wordsOf qs → givensOf ps = givensOf qs →
      readArguments flags s (lineOf ps) = readArguments flags s (lineOf qs)) ∧
    (∀ gs : List (Given flags), applyAll gs s = applyAll (lastGiven gs) s) ∧
    ∀ args, ∃ n ≤ args.length + 1,
      Exits (argumentsTurn flags) n ⟨args, [], s⟩ (readArguments flags s args) := by
  refine ⟨fun ps => readArguments_lineOf h ps s, ?_, fun gs => (applyAll_lastGiven h gs s).symm, ?_⟩
  · intro ps qs hwords hgivens
    rw [readArguments_lineOf h, readArguments_lineOf h, hwords, hgivens]
  · intro args
    obtain ⟨n, hn, hexits⟩ := exits_argumentsTurn flags ⟨args, [], s⟩
    rw [Reading.result, map_prepend_nil] at hexits
    exact ⟨n, hn, hexits⟩

/-- Flags before, between and behind words; one of them twice, with values that look like a word and
like a flag. -/
theorem arguments_commute_of_build :
    Registered buildFlags ∧
      readArguments buildFlags {}
        [Text.lit "-o", Text.lit "-", Text.lit "src", Text.lit "--workers=3", Text.lit "-no-cache",
          Text.lit "-", Text.lit "--o", Text.lit "-out"] =
        .ok ([Text.lit "src", Text.lit "-"],
          { outDir := Text.lit "-out", workers := 3, noCache := true }) :=
  ⟨registered_commands.1, (arguments_commute registered_commands.1 {}).1
    [.flag ⟨buildFlags[1], false, .apart (Text.lit "-"), Text.lit "-", List.getElem_mem _, rfl,
        fun _ _ => rfl⟩,
      .word (Text.lit "src") (by decide),
      .flag ⟨buildFlags[2], true, .joined (Text.lit "3"), (3 : Int), List.getElem_mem _, rfl,
        nofun⟩,
      .flag ⟨buildFlags[3], false, .alone, true, List.getElem_mem _, rfl, nofun⟩,
      .word (Text.lit "-") (by decide),
      .flag ⟨buildFlags[1], true, .apart (Text.lit "-out"), Text.lit "-out", List.getElem_mem _,
        rfl, fun _ _ => rfl⟩]⟩

end NovelScript.Command
