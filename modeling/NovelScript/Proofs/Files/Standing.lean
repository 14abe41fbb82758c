import NovelScript.Proofs.Files.Disk

/-!
# What stands at a place, and what is needed to put something there

`look` tells what stands at a place. For comparing disks that is not enough: when an entry is taken
away, one of the same name that was hidden behind it comes to light. `stack` tells all of them.

* **`Entry.stack_set_append`** and **`Entry.stack_set_of_apart`**: setting an entry changes the top of
  its own stack, and no stack that is neither above nor below it.
* **`Disk.locate_isOk`**: a plain spelling can be followed exactly when it is one that a system takes
  (`Spelled`) and the directory of its place is there. From that, when each operation succeeds.
* **`Disk.makeAll_spec`**: a directory can be made with all above it exactly when no file is in the
  way.
-/

namespace NovelScript.Files

variable {α : Type}

/-! ## Stacks -/

namespace Entry

/-- The entry at a list of names, and those of the same name that it hides. -/
def stack : Entry α → List Text → List (Entry α)
  | e, [] => [e]
  | file _, _ :: _ => []
  | directory es, [name] => (es.filter fun x => x.1 == name).map (·.2)
  | directory es, name :: next :: more =>
    match es.lookup name with
    | some e => e.stack (next :: more)
    | none => []

/-- What stands on the way down from a directory, one name after the other. -/
theorem stack_cons {name : Text} {more : List Text} (hmore : more ≠ []) (es : List (Text × Entry α)) :
    (directory es).stack (name :: more) =
      match es.lookup name with
      | some e => e.stack more
      | none => [] := by
  cases more with
  | nil => exact absurd rfl hmore
  | cons next more => rfl

/-- The first of the entries under a name is the one that is found there. -/
theorem head?_filter_map (name : Text) (es : List (Text × Entry α)) :
    ((es.filter fun x => x.1 == name).map (·.2)).head? = es.lookup name := by
  induction es with
  | nil => rfl
  | cons x more ih =>
    obtain ⟨k, e⟩ := x
    rw [List.filter_cons, List.lookup_cons]
    by_cases hk : k = name
    · simp [hk]
    · have hb : (name == k) = false := by simpa using Ne.symm hk
      rw [if_neg (by simpa using hk), ih, hb]

/-- What stands at a list of names is on top of its stack. The stack also has what is hidden below
it, which cannot be found but comes to light when the top is taken away. -/
theorem head?_stack (e : Entry α) (names : List Text) : (e.stack names).head? = e.get? names := by
  induction names generalizing e with
  | nil => simp [stack, get?]
  | cons name more ih =>
    cases e with
    | file c => rfl
    | directory es =>
      cases more with
      | nil =>
        rw [stack, head?_filter_map, get?_cons_directory]
        cases es.lookup name <;> simp [get?]
      | cons next more =>
        rw [stack_cons (List.cons_ne_nil next more), get?_cons_directory]
        cases es.lookup name with
        | none => rfl
        | some x => exact ih x

/-- The stack further down is that of the entry there. -/
theorem stack_append {e x : Entry α} {names more : List Text} (h : e.get? names = some x)
    (hmore : more ≠ []) : e.stack (names ++ more) = x.stack more := by
  induction names generalizing e with
  | nil =>
    cases h
    rfl
  | cons name names ih =>
    cases e with
    | file c => cases h
    | directory es =>
      rw [get?_cons_directory, Option.bind_eq_some_iff] at h
      obtain ⟨y, hy, hx⟩ := h
      rw [List.cons_append, stack_cons (by simp [hmore]), hy]
      exact ih hx

/-- Nothing stands at the end of a way that leads nowhere. -/
theorem stack_eq_nil {e : Entry α} {names : List Text} : e.stack names = [] ↔ e.get? names = none := by
  rw [← head?_stack, List.head?_eq_none_iff]

/-- To set an entry replaces the first one of its name, and leaves those hidden behind it. -/
theorem filter_setEntry_self (name : Text) (new : Option (Entry α)) (es : List (Text × Entry α)) :
    ((setEntry name new es).filter fun x => x.1 == name).map (·.2) =
      new.toList ++ ((es.filter fun x => x.1 == name).map (·.2)).tail := by
  induction es with
  | nil => cases new <;> simp [setEntry]
  | cons x more ih =>
    obtain ⟨k, e⟩ := x
    rw [setEntry]
    split
    · rename_i hk
      cases new <;> simp [hk]
    · rename_i hk
      rw [List.filter_cons, List.filter_cons, if_neg (by simpa using hk), if_neg (by simpa using hk),
        ih]

/-- To set an entry leaves the entries of other names as they are. -/
theorem filter_setEntry_ne {name n : Text} (h : n ≠ name) (new : Option (Entry α))
    (es : List (Text × Entry α)) :
    (setEntry name new es).filter (fun x => x.1 == n) = es.filter fun x => x.1 == n := by
  have hb : (name == n) = false := by simpa using Ne.symm h
  induction es with
  | nil => cases new <;> simp [setEntry, hb]
  | cons x more ih =>
    obtain ⟨k, e⟩ := x
    rw [setEntry]
    split
    · rename_i hk
      cases new <;> simp [hk, hb]
    · rw [List.filter_cons, List.filter_cons, ih]

/-- Setting an entry in a directory that is there changes the top of its stack and leaves what is
hidden below. -/
theorem stack_set_append {e : Entry α} (new : Option (Entry α)) {dir : List Text} (name : Text)
    (h : e.look dir = some none) :
    (e.set new (dir ++ [name])).stack (dir ++ [name]) =
      new.toList ++ (e.stack (dir ++ [name])).tail := by
  induction dir generalizing e with
  | nil =>
    obtain ⟨es, hes⟩ := look_eq_directory.1 h
    cases hes
    rw [List.nil_append, set, stack, stack, filter_setEntry_self]
  | cons n dir ih =>
    cases e with
    | file c => cases h
    | directory es =>
      rw [look, get?_cons_directory] at h
      cases hy : es.lookup n with
      | none => simp [hy] at h
      | some y =>
        rw [hy, Option.bind_some] at h
        have hne : dir ++ [name] ≠ [] := by simp
        rw [List.cons_append, set_cons hne, hy]
        dsimp only
        rw [stack_cons hne, stack_cons hne, lookup_setEntry_self, hy]
        exact ih h

/-- To set an entry leaves what stands below other names as it is. -/
theorem stack_setEntry_ne {name n : Text} (h : n ≠ name) (v : Option (Entry α))
    (es : List (Text × Entry α)) (p : List Text) :
    (directory (setEntry name v es)).stack (n :: p) = (directory es).stack (n :: p) := by
  cases p with
  | nil => rw [stack, stack, filter_setEntry_ne h]
  | cons next p =>
    have hne : next :: p ≠ [] := List.cons_ne_nil next p
    rw [stack_cons hne, stack_cons hne, lookup_setEntry_ne h]

/-- Setting an entry changes no stack that is neither above nor below it. With `stack_set_append` it
is all that is needed about stacks. -/
theorem stack_set_of_apart {e : Entry α} (new : Option (Entry α)) {names p : List Text}
    (h : ¬ names <+: p) (h' : ¬ p <+: names) : (e.set new names).stack p = e.stack p := by
  induction names generalizing e p with
  | nil => exact absurd List.nil_prefix h
  | cons name more ih =>
    cases e with
    | file c => cases more <;> rfl
    | directory es =>
      cases p with
      | nil => exact absurd List.nil_prefix h'
      | cons n p =>
        by_cases hn : n = name
        · subst hn
          have hp : ¬ more <+: p := fun hp => h (List.cons_prefix_cons.2 ⟨rfl, hp⟩)
          have hp' : ¬ p <+: more := fun hp => h' (List.cons_prefix_cons.2 ⟨rfl, hp⟩)
          have hmore : more ≠ [] := fun hmore => hp (hmore ▸ List.nil_prefix)
          have hne : p ≠ [] := fun hne => hp' (hne ▸ List.nil_prefix)
          rw [set_cons hmore]
          cases hx : es.lookup n with
          | none => rfl
          | some x =>
            dsimp only
            rw [stack_cons hne, stack_cons hne, lookup_setEntry_self, hx]
            exact ih hp hp'
        · obtain ⟨v, hv⟩ := exists_set_eq_directory new es name more
          rw [hv, stack_setEntry_ne hn]

/-- An entry with nothing below it, put where no directory stands, changes no stack that is not at
its place or above. -/
theorem stack_set_leaf {e x : Entry α} {names p : List Text}
    (hx : ∀ more, more ≠ [] → x.get? more = none) (h : e.look names ≠ some none)
    (hp : ¬ p <+: names) : (e.set (some x) names).stack p = e.stack p := by
  by_cases hpre : names <+: p
  · obtain ⟨more, rfl⟩ := hpre
    have hmore : more ≠ [] := by
      rintro rfl
      exact hp (by simp)
    rcases set_some_cases e x names with hsame | hset
    · rw [hsame]
    · rw [stack_eq_nil.2 ((hset more).trans (hx more hmore)),
        stack_eq_nil.2 (look_eq_none.1 (look_append_eq_none hmore h))]
  · exact stack_set_of_apart _ hpre hp

end Entry

/-! ## Plain spellings -/

/-- A spelling that goes up only at its start and ends in a name, if it has names. -/
def isPlain (path : Text) : Bool :=
  isDirect path && ((namesOf path).isEmpty || path.getLast? != some slash)

/-- A spelling that a system takes: it is not empty, has no zero in it and no name that is too
long. -/
def Spelled (path : Text) : Prop :=
  path ≠ [] ∧ (0 : UInt8) ∉ path ∧ ∀ name ∈ namesOf path, name.length ≤ 255

/-- A plain path is a direct one. -/
theorem isDirect_of_isPlain {path : Text} (h : isPlain path = true) : isDirect path = true := by
  rw [isPlain, Bool.and_eq_true] at h
  exact h.1

/-- A path that ends in a name does not end in a slash. -/
theorem getLast?_append_ne {lead name : Text} (hne : name ≠ []) (hslash : slash ∉ name) :
    (lead ++ name).getLast? ≠ some slash := by
  obtain ⟨b, hb⟩ := Option.ne_none_iff_exists'.1 (mt List.getLast?_eq_none_iff.1 hne)
  rw [List.getLast?_append, hb, Option.some_or, ← hb]
  exact fun hl => hslash (List.mem_of_getLast? hl)

/-- Another last name leaves a direct spelling plain. -/
theorem isPlain_append {up name : Text} (h : Proper name) (hup : isDirect up = true) :
    isPlain (up ++ slash :: name) = true := by
  have hlast : (up ++ slash :: name).getLast? ≠ some slash := by
    rw [List.append_cons]
    exact getLast?_append_ne h.1 h.2.1
  rw [isPlain, isDirect_append h, hup, Bool.true_and, Bool.or_eq_true]
  exact .inr (bne_iff_ne.2 hlast)

/-- A proper name is plain. -/
theorem isPlain_proper {name : Text} (h : Proper name) : isPlain name = true := by
  rw [isPlain, isDirect_proper h, Bool.true_and, Bool.or_eq_true]
  rw [bne_iff_ne, ← List.nil_append name]
  exact .inr (getLast?_append_ne h.1 h.2.1)

/-- A clean path is plain: only the root ends in a slash, and nothing goes up behind a name. -/
theorem isPlain_clean (s : Text) : isPlain (clean s) = true := by
  have htidy := Path.tidy_ofText s
  have hnames : ∀ name ∈ (Path.ofText s).names, name ≠ [] ∧ slash ∉ name := fun n hn =>
    htidy.not_slash n (List.mem_reverse.2 hn)
  rw [isPlain, isDirect_clean, Bool.true_and, Bool.or_eq_true, List.isEmpty_iff]
  rcases List.eq_nil_or_concat (Path.ofText s).names with hnil | ⟨above, last, hlast⟩
  · rw [clean, Path.toText, hnil]
    cases (Path.ofText s).rooted with
    | true => exact .inl rfl
    | false => exact .inr rfl
  · right
    obtain ⟨lead, -, hspell⟩ := exists_lead (Path.ofText s).rooted above
    obtain ⟨hne, hslash⟩ := hnames last (by simp [hlast])
    have hclean : clean s = lead ++ last := by
      rw [← hspell last, clean, ← List.concat_eq_append, ← hlast]
    rw [hclean, bne_iff_ne]
    exact getLast?_append_ne hne hslash

/-- A path can be spelled when it is not empty and each of its names is one that a file system
takes: without a zero byte, and of 255 bytes at most. -/
theorem spelled_iff {path : Text} :
    Spelled path ↔ path ≠ [] ∧ ∀ name ∈ namesOf path, (0 : UInt8) ∉ name ∧ name.length ≤ 255 := by
  rw [Spelled, mem_iff_namesOf (show (0 : UInt8) ≠ slash by decide)]
  grind

/-- A system takes a clean spelling when it takes its names. -/
theorem spelled_clean (s : Text) :
    Spelled (clean s) ↔
      ∀ name ∈ (Path.ofText s).names, (0 : UInt8) ∉ name ∧ name.length ≤ 255 := by
  rw [spelled_iff, and_iff_right (clean_ne_nil s)]
  by_cases hnil : (Path.ofText s).names = []
  · have hshort : ∀ name ∈ namesOf (clean s), (0 : UInt8) ∉ name ∧ name.length ≤ 255 := by
      rw [clean, Path.toText, hnil]
      cases (Path.ofText s).rooted <;> decide
    simpa [hnil] using hshort
  · rw [namesOf_clean hnil]

/-- A joined path can be spelled when its parts can. -/
theorem spelled_join {a name : Text} (ha : a ≠ []) (hname : Proper name) :
    Spelled (join a name) ↔ Spelled (clean a) ∧ (0 : UInt8) ∉ name ∧ name.length ≤ 255 := by
  rw [← clean_join ha, spelled_clean, spelled_clean, ofText_join ha hname]
  simp only [List.mem_append, List.mem_singleton]
  grind

namespace Disk

/-- What stands at a place and what it hides. -/
def stack (d : Disk α) (place : List Text) : List (Entry α) :=
  d.root.stack place

/-- Where the same entries stand under a name, the same entry is found. -/
theorem get?_eq_of_stack {d d' : Disk α} {p : List Text} (h : d'.stack p = d.stack p) :
    d'.root.get? p = d.root.get? p := by
  rw [← Entry.head?_stack, ← Entry.head?_stack]
  exact congrArg List.head? h

/-- Where the same entries stand under a name, the same is seen. -/
theorem look_eq_of_stack {d d' : Disk α} {p : List Text} (h : d'.stack p = d.stack p) :
    d'.look p = d.look p := by
  rw [look, look, Entry.look, Entry.look, get?_eq_of_stack h]

section

variable {d d' : Disk α} {path : Text}

/-- Names without steps up can be followed from a directory exactly when none is too long and the
directory of the last one is there. -/
theorem follow_isOk {reached names : List Text} (hn : ∀ n ∈ names, n ≠ [])
    (hdown : ∀ n ∈ names, isDots n = false) (hreached : d.look reached = some none) :
    (∃ out, follow d.root reached names = .ok out) ↔
      (∀ n ∈ names, n.length ≤ 255) ∧ d.look (reached ++ names).dropLast = some none := by
  induction names generalizing reached with
  | nil => simp [follow, look_dropLast hreached]
  | cons name more ih =>
    have hdots : (name == dot) = false ∧ (name == dotDot) = false := by
      simpa [isDots] using hdown name List.mem_cons_self
    rw [follow, if_neg (by simp [hdots]), if_neg (by simp [hdots])]
    by_cases hlong : 255 < name.length
    · rw [if_pos hlong]
      simp only [reduceCtorEq, exists_false, false_iff]
      rintro ⟨hshort, -⟩
      have := hshort name List.mem_cons_self
      omega
    rw [if_neg hlong]
    dsimp only
    cases more with
    | nil =>
      rw [if_pos (by rfl)]
      simpa [hreached] using Nat.le_of_not_lt hlong
    | cons next more =>
      rw [if_neg (by simp), List.append_cons reached name (next :: more)]
      have ih := @ih (reached ++ [name]) (fun n hm => hn n (List.mem_cons_of_mem _ hm))
        fun n hm => hdown n (List.mem_cons_of_mem _ hm)
      -- above the directory of the last name there are directories
      have habove (h : d.look (reached ++ [name] ++ next :: more).dropLast = some none) :
          d.look (reached ++ [name]) = some none := by
        rw [List.dropLast_append_of_ne_nil (by simp)] at h
        by_cases hmore : (next :: more).dropLast = []
        · rwa [hmore, List.append_nil] at h
        · exact Entry.look_of_append hmore (by rw [show d.root.look _ = _ from h]; simp)
      cases hx : d.root.get? (reached ++ [name]) with
      | none =>
        simp only [reduceCtorEq, exists_false, false_iff]
        rintro ⟨-, hdir⟩
        have := habove hdir
        rw [look, Entry.look, hx] at this
        cases this
      | some x =>
        cases x with
        | file c =>
          simp only [reduceCtorEq, exists_false, false_iff]
          rintro ⟨-, hdir⟩
          have := habove hdir
          rw [look, Entry.look, hx] at this
          cases this
        | directory es =>
          dsimp only
          rw [ih (Entry.look_eq_directory.2 ⟨es, hx⟩)]
          simp only [List.mem_cons, forall_eq_or_imp, Nat.le_of_not_lt hlong, true_and]

/-- Steps up and names of the same directory lead from a directory to one. -/
theorem look_ups {ups : List Text} (hups : ∀ n ∈ ups, isDots n = true) {reached : List Text}
    (hreached : d.look reached = some none) : d.look (ups.foldl enter reached) = some none := by
  induction ups generalizing reached with
  | nil => exact hreached
  | cons n ups ih =>
    have hn : n = dot ∨ n = dotDot := by simpa [isDots] using hups n List.mem_cons_self
    refine ih (fun m hm => hups m (List.mem_cons_of_mem _ hm)) ?_
    rcases hn with rfl | rfl
    · exact hreached
    · exact look_dropLast hreached

/-- A plain spelling asks for a directory only where one is. -/
theorem wants_of_plain (hhome : d.look d.home = some none) (hplain : isPlain path = true)
    (hno : d.look (d.place path) ≠ some none) : (path.getLast? == some slash) = false := by
  rw [isPlain, Bool.and_eq_true, Bool.or_eq_true, List.isEmpty_iff] at hplain
  rcases hplain.2 with hnone | hlast
  · rw [← foldl_enter_namesOf, hnone] at hno
    exact absurd (look_startOf hhome path) hno
  · simpa using hlast

/-- A plain spelling can be followed exactly when a system takes it and the directory of its place
is there. -/
theorem locate_isOk (hhome : d.look d.home = some none) (hplain : isPlain path = true) :
    (∃ p, d.locate path = .ok p) ↔ Spelled path ∧ d.look (d.place path).dropLast = some none := by
  obtain ⟨ups, downs, hnames, hups, hdowns⟩ := exists_ups_downs (isDirect_of_isPlain hplain)
  have hne : ∀ n ∈ downs, n ≠ [] := fun n hn =>
    ne_nil_of_mem_namesOf (hnames ▸ List.mem_append_right ups hn)
  have hbase := look_ups hups (look_startOf hhome path)
  have hplace : d.place path = ups.foldl enter (d.startOf path) ++ downs := by
    rw [← foldl_enter_namesOf, hnames, List.foldl_append, foldl_enter_down hne hdowns]
  have hshort : (∀ n ∈ namesOf path, n.length ≤ 255) ↔ ∀ n ∈ downs, n.length ≤ 255 := by
    rw [hnames]
    refine ⟨fun h n hn => h n (List.mem_append_right ups hn), fun h n hn => ?_⟩
    rcases List.mem_append.1 hn with hn | hn
    · have : n = dot ∨ n = dotDot := by simpa [isDots] using hups n hn
      rcases this with rfl | rfl
      · decide
      · decide
    · exact h n hn
  have hfollow : (∃ out, follow d.root (d.startOf path) (namesOf path) = .ok out) ↔
      (∀ n ∈ namesOf path, n.length ≤ 255) ∧ d.look (d.place path).dropLast = some none := by
    rw [hshort, hplace, hnames, follow_ups _ hups]
    exact follow_isOk hne hdowns hbase
  constructor
  · rintro ⟨p, hp⟩
    obtain ⟨hnil, hzero, hf, -⟩ := locate_eq_ok.1 hp
    obtain ⟨hlen, hdir⟩ := hfollow.1 ⟨_, hf⟩
    exact ⟨⟨hnil, hzero, hlen⟩, hdir⟩
  · rintro ⟨⟨hnil, hzero, hlen⟩, hdir⟩
    obtain ⟨out, hf⟩ := hfollow.2 ⟨hlen, hdir⟩
    refine ⟨⟨out, path.getLast? == some slash⟩, locate_eq_ok.2 ⟨hnil, hzero, hf, rfl, ?_⟩⟩
    intro c hc
    have hout : out = d.place path := by
      rw [follow_eq_ok (fun n hn => ne_nil_of_mem_namesOf hn) hf, foldl_enter_namesOf]
    exact wants_of_plain hhome hplain (by rw [← hout, hc]; simp)

/-- The directory of what is there is there. -/
theorem look_dropLast_of_ne {p : List Text} (hhome : d.look d.home = some none)
    (h : d.look p ≠ none) : d.look p.dropLast = some none := by
  rcases List.eq_nil_or_concat p with rfl | ⟨dir, name, rfl⟩
  · exact look_startOf hhome [slash]
  · rw [List.concat_eq_append] at h ⊢
    rw [List.dropLast_concat]
    exact Entry.look_of_append (List.cons_ne_nil name []) h

/-- A path that is located can be spelled. -/
theorem spelled_of_locate {p : Place} (hhome : d.look d.home = some none)
    (hplain : isPlain path = true) (h : d.locate path = .ok p) : Spelled path :=
  ((locate_isOk hhome hplain).1 ⟨p, h⟩).1

/-- **A plain path is found exactly when it can be spelled and something stands at its place.** With
this and the lemmas behind it, whether work on a disk succeeds can be told from places alone. -/
theorem find_isOk (hhome : d.look d.home = some none) (hplain : isPlain path = true)
    {e : Entry α} :
    d.find path = .ok e ↔ Spelled path ∧ d.root.get? (d.place path) = some e := by
  constructor
  · intro h
    obtain ⟨p, hp, -⟩ := find_eq_ok.1 h
    exact ⟨spelled_of_locate hhome hplain hp, get?_of_find h⟩
  · rintro ⟨hspelled, he⟩
    have hdir : d.look (d.place path).dropLast = some none :=
      look_dropLast_of_ne hhome (by rw [look, Entry.look, he]; simp)
    obtain ⟨p, hp⟩ := (locate_isOk hhome hplain).2 ⟨hspelled, hdir⟩
    exact find_eq_ok.2 ⟨p, hp, by rwa [locate_names hp]⟩

/-- Something is there when it can be found. -/
theorem isThere_eq_true {path : Text} : d.isThere path = true ↔ ∃ e, d.find path = .ok e := by
  rw [isThere]
  cases d.find path <;> simp [Except.isOk, Except.toBool]

/-- A plain path leads to something exactly when it can be spelled and something is seen at its
place. -/
theorem isThere_iff (hhome : d.look d.home = some none) (hplain : isPlain path = true) :
    d.isThere path = true ↔ Spelled path ∧ d.look (d.place path) ≠ none := by
  rw [isThere_eq_true, Ne, look, Entry.look_eq_none]
  simp only [find_isOk hhome hplain, exists_and_left]
  rw [← Ne, Option.ne_none_iff_exists']

/-- A directory can be made exactly where the one above it is and nothing stands. The root has
nothing above it and is there already. -/
theorem makeDirectory_isOk (hhome : d.look d.home = some none) (hplain : isPlain path = true) :
    (∃ d', d.makeDirectory path = .ok d') ↔ Spelled path ∧
      d.look (d.place path).dropLast = some none ∧ d.look (d.place path) = none := by
  constructor
  · rintro ⟨d', h⟩
    obtain ⟨hnone, -⟩ := makeDirectory_eq_ok h
    rw [makeDirectory, fail_bind_eq_ok] at h
    obtain ⟨p, hp, -⟩ := h
    obtain ⟨hspelled, hdir⟩ := (locate_isOk hhome hplain).1 ⟨p, hp⟩
    exact ⟨hspelled, hdir, hnone⟩
  · rintro ⟨hspelled, hdir, hnone⟩
    obtain ⟨p, hp⟩ := (locate_isOk hhome hplain).2 ⟨hspelled, hdir⟩
    refine ⟨d.put (some (.directory [])) (d.place path), fail_bind_eq_ok.2 ⟨p, hp, ?_⟩⟩
    rw [← locate_names hp] at hnone ⊢
    rw [Entry.look_eq_none.1 hnone]
    rfl

/-- A file can be written exactly where the directory above it is and no directory stands. Whether a
file stands there already makes no difference. -/
theorem write_isOk (hhome : d.look d.home = some none) (hplain : isPlain path = true) (c : α) :
    (∃ d', d.write path c = .ok d') ↔ Spelled path ∧
      d.look (d.place path).dropLast = some none ∧ d.look (d.place path) ≠ some none := by
  constructor
  · rintro ⟨d', h⟩
    obtain ⟨hno, -⟩ := write_eq_ok h
    obtain ⟨p, hp, -⟩ := locate_of_write h
    obtain ⟨hspelled, hdir⟩ := (locate_isOk hhome hplain).1 ⟨p, hp⟩
    exact ⟨hspelled, hdir, hno⟩
  · rintro ⟨hspelled, hdir, hno⟩
    obtain ⟨p, hp⟩ := (locate_isOk hhome hplain).2 ⟨hspelled, hdir⟩
    refine ⟨d.put (some (.file c)) (d.place path), fail_bind_eq_ok.2 ⟨p, hp, ?_⟩⟩
    have hwants : p.wantsDirectory = false :=
      (locate_eq_ok.1 hp).2.2.2.1.trans (wants_of_plain hhome hplain hno)
    rw [← locate_names hp] at hno ⊢
    cases hx : d.root.get? p.names with
    | none => exact if_neg (by simp [hwants])
    | some x =>
      cases x with
      | file c' => rfl
      | directory es => exact absurd (Entry.look_eq_directory.2 ⟨es, hx⟩) hno

/-- A file or an empty directory can be removed, and nothing else. The empty directory is what makes
a replacement able to take away more than a file. -/
theorem remove_isOk (hhome : d.look d.home = some none) (hplain : isPlain path = true) :
    (∃ d', d.remove path = .ok d') ↔ Spelled path ∧
      (d.root.get? (d.place path) = some (.directory []) ∨
        ∃ c, d.root.get? (d.place path) = some (.file c)) := by
  constructor
  · rintro ⟨d', h⟩
    obtain ⟨hwas, -⟩ := remove_eq_ok h
    rw [remove, fail_bind_eq_ok] at h
    obtain ⟨p, hp, -⟩ := h
    exact ⟨spelled_of_locate hhome hplain hp, hwas⟩
  · rintro ⟨hspelled, hwas⟩
    have hthere : d.look (d.place path) ≠ none := by
      rw [Ne, look, Entry.look_eq_none]
      rcases hwas with h | ⟨c, h⟩
      · simp [h]
      · simp [h]
    obtain ⟨p, hp⟩ := (locate_isOk hhome hplain).2 ⟨hspelled, look_dropLast_of_ne hhome hthere⟩
    refine ⟨d.put none (d.place path), fail_bind_eq_ok.2 ⟨p, hp, ?_⟩⟩
    rw [← locate_names hp] at hwas ⊢
    rcases hwas with hx | ⟨c, hx⟩
    · rw [hx]
      rfl
    · rw [hx]
      rfl

/-- A file can be moved to where no directory stands, in a directory that is there. When a directory
does stand there, a replacement takes its way out. -/
theorem rename_isOk {source target : Text} {c : α} (hhome : d.look d.home = some none)
    (htarget : isPlain target = true) (hfile : d.find source = .ok (.file c)) (hspelled : Spelled target)
    (hdir : d.look (d.place target).dropLast = some none)
    (hno : d.look (d.place target) ≠ some none) (hapart : ¬ d.place source <+: d.place target) :
    d.rename source target =
      .ok ((d.put none (d.place source)).put (some (.file c)) (d.place target)) := by
  obtain ⟨old, hold, -⟩ := find_eq_ok.1 hfile
  obtain ⟨new, hnew⟩ := (locate_isOk hhome htarget).2 ⟨hspelled, hdir⟩
  have hwants : new.wantsDirectory = false :=
    (locate_eq_ok.1 hnew).2.2.2.1.trans (wants_of_plain hhome htarget hno)
  rw [← locate_names hold, ← locate_names hnew] at hapart ⊢
  rw [← locate_names hnew] at hno
  rw [rename, hfile, hold, hnew]
  dsimp only
  cases hx : d.root.get? new.names with
  | none =>
    have hpre : old.names.isPrefixOf new.names = false := by
      rw [Bool.eq_false_iff]
      exact fun h => hapart (List.isPrefixOf_iff_prefix.1 h)
    simp only [hwants, Bool.false_and, hpre, put]
    rfl
  | some x =>
    cases x with
    | file c' => rfl
    | directory es => exact absurd (Entry.look_eq_directory.2 ⟨es, hx⟩) hno

end

/-! ## Making directories -/

/-- One more name of a path is written behind a slash. -/
theorem toText_concat {rooted : Bool} {above : List Text} (hne : above ≠ []) (last : Text) :
    (Path.mk rooted (above ++ [last])).toText = (Path.mk rooted above).toText ++ slash :: last := by
  unfold Path.toText
  simp only [joined_concat hne last]
  cases rooted <;> simp [hne]

/-- The directory above a clean spelling is that of all names but the last. Going up stops where
there is no name left. -/
theorem parent?_toText {rooted : Bool} {above : List Text} {last : Text} (hne : last ≠ [])
    (hslash : slash ∉ last) (habove : (Path.mk rooted above).toText ≠ []) :
    parent? (Path.mk rooted (above ++ [last])).toText =
      if above = [] then none else some (Path.mk rooted above).toText := by
  have hparent {lead : Text} (hlead : IsLead lead) :
      parent? (lead ++ last) = if lead.length ≤ 1 then none else some lead.dropLast := by
    have htrim : (lead ++ last).reverse.dropWhile (· == slash) = (lead ++ last).reverse := by
      obtain ⟨b, r, hr⟩ := List.exists_cons_of_ne_nil (List.reverse_ne_nil_iff.2 hne)
      have hb : b ≠ slash := fun hb => hslash (List.mem_reverse.1 (hr ▸ hb ▸ List.mem_cons_self))
      simp [hr, hb]
    rw [parent?, htrim, List.reverse_reverse, splitLast_lead hlead hslash]
  by_cases hnil : above = []
  · have htext : (Path.mk rooted (above ++ [last])).toText =
        (if rooted then [slash] else []) ++ last := by
      cases rooted <;> simp [hnil, Path.toText, Path.joined, Text.join]
    rw [if_pos hnil, htext]
    cases rooted with
    | true =>
      rw [if_pos rfl, hparent (show IsLead [slash] from .inr ⟨[], rfl⟩), if_pos (by simp)]
    | false =>
      rw [if_neg (by simp), hparent (.inl rfl), if_pos (by simp)]
  · rw [if_neg hnil, toText_concat hnil, List.append_cons, hparent (.inr ⟨_, rfl⟩)]
    have hlen : 0 < (Path.mk rooted above).toText.length := List.length_pos_iff.2 habove
    rw [if_neg (by rw [List.length_append, List.length_singleton]; omega), List.dropLast_concat]

/-- At a directory and above it there is no file. -/
theorem fileAt_of_isPrefix {d : Disk α} {p q : List Text} (hp : d.look p = some none)
    (hq : q <+: p) : d.fileAt q = none := by
  have hdir : d.look q = some none := by
    obtain ⟨more, rfl⟩ := hq
    by_cases hmore : more = []
    · rwa [hmore, List.append_nil] at hp
    · exact Entry.look_of_append hmore (by rw [show d.root.look _ = _ from hp]; simp)
  rw [fileAt, Entry.fileAt, show d.root.look q = _ from hdir]
  rfl

section

variable {rooted : Bool}

/-- A path that is written from tidy names leads where these lead. -/
theorem place_toText (d : Disk α) {names : List Text} (htidy : Path.Tidy rooted names.reverse) :
    d.place (Path.mk rooted names).toText = names.foldl enter (if rooted then [] else d.home) := by
  rw [place, placeOf_eq, Path.ofText_toText (p := ⟨rooted, names⟩) htidy]

/-- Where the following of a path starts there is a directory. -/
theorem look_start {d : Disk α} (hhome : d.look d.home = some none) :
    d.look (if rooted then [] else d.home) = some none := by
  cases rooted with
  | true => exact look_startOf hhome [slash]
  | false => exact hhome

/-- Names that are all steps up lead to a directory; otherwise the last one is proper, and the path
above it is tidy too. -/
theorem toText_cases {d : Disk α} (hhome : d.look d.home = some none) {names : List Text}
    (htidy : Path.Tidy rooted names.reverse) :
    d.look (d.place (Path.mk rooted names).toText) = some none ∨
      ∃ above last, names = above ++ [last] ∧ Proper last ∧ Path.Tidy rooted above.reverse ∧
        d.place (Path.mk rooted names).toText = d.place (Path.mk rooted above).toText ++ [last] := by
  rcases List.eq_nil_or_concat names with rfl | ⟨above, last, rfl⟩
  · rw [place_toText d htidy]
    exact .inl (look_start hhome)
  rw [List.concat_eq_append] at htidy ⊢
  have htop := htidy
  rw [List.reverse_append, List.reverse_singleton, List.singleton_append] at htop
  obtain ⟨⟨hne, hslash, hdot⟩, hups, habove⟩ := htop
  by_cases hdd : last = dotDot
  · left
    rw [place_toText d htidy]
    refine look_ups (fun n hn => ?_) (look_start hhome)
    have hn : n = dotDot := by
      rcases List.mem_append.1 hn with hn | hn
      · exact (hups hdd).2 n (List.mem_reverse.2 hn)
      · rw [List.mem_singleton.1 hn, hdd]
    rw [hn]
    rfl
  · have hproper : Proper last := ⟨hne, hslash, hdot, hdd⟩
    refine .inr ⟨above, last, rfl, hproper, habove, ?_⟩
    rw [place_toText d htidy, place_toText d habove, List.foldl_append, List.foldl_cons,
      List.foldl_nil, enter_of_proper hproper]

/-- A clean spelling that a system takes goes on from one that it takes. -/
theorem spelled_above {above : List Text} {last : Text} (hne : above ≠ [])
    (h : Spelled (Path.mk rooted (above ++ [last])).toText)
    (habove : (Path.mk rooted above).toText ≠ []) : Spelled (Path.mk rooted above).toText := by
  rw [toText_concat hne] at h
  obtain ⟨-, hzero, hlen⟩ := h
  refine ⟨habove, fun hz => hzero (List.mem_append_left _ hz), fun n hn => hlen n ?_⟩
  rw [namesOf_append_cons]
  exact List.mem_append_left _ hn

/-- After the directories above a path were made, the working directory is still there. -/
theorem Above.home {fuel : Nat} {d d₁ : Disk α} {path : Text} (h : Above fuel d path d₁)
    (hhome : d.look d.home = some none) : d₁.home = d.home ∧ d₁.look d₁.home = some none := by
  rw [Above] at h
  split at h
  · have hsame := (makeDirectories_ok h).1
    exact ⟨hsame, hsame ▸ look_makeDirectories h hhome⟩
  · rw [h]
    exact ⟨rfl, hhome⟩

/-- A directory that is missing is made after those above it. -/
theorem makeDirectories_of_above {fuel : Nat} {d d₁ d' : Disk α} {path : Text} {x : Cause}
    (hfind : d.find path = .error x) (habove : Above fuel d path d₁)
    (h : d₁.makeDirectory path = .ok d') : makeDirectories (fuel + 1) d path = .ok d' := by
  rw [makeDirectories, hfind]
  rw [Above] at habove
  cases hup : parent? path with
  | none =>
    rw [hup] at habove
    cases habove
    simp only [pure, Except.pure, bind, Except.bind, h]
  | some up =>
    rw [hup] at habove
    simp only [pure, Except.pure, bind, Except.bind, habove, h]

/-- When a path is not found, the directories above it are made first, and then the last one is
made, or stands there already once these are made. -/
theorem makeDirectories_missing {fuel : Nat} {d d' : Disk α} {path : Text} {x : Cause}
    (hhome : d.look d.home = some none) (hplain : isPlain path = true)
    (hfind : d.find path = .error x) (h : makeDirectories (fuel + 1) d path = .ok d') :
    ∃ d₁, Above fuel d path d₁ ∧ Spelled path ∧
      (d₁.makeDirectory path = .ok d' ∨ d₁.look (d₁.place path) = some none) := by
  obtain ⟨d₁, habove, hlast⟩ := above_of_makeDirectories hfind h
  obtain ⟨-, hhome₁⟩ := habove.home hhome
  refine ⟨d₁, habove, ?_⟩
  rcases hlast with hmade | ⟨rfl, hany⟩
  · exact ⟨((makeDirectory_isOk hhome₁ hplain).1 ⟨_, hmade⟩).1, .inl hmade⟩
  · cases hf : d'.find path with
    | error e => simp [hf, Except.toOption] at hany
    | ok x =>
      obtain ⟨hspelled, hget⟩ := (find_isOk hhome₁ hplain).1 hf
      cases x with
      | file c => simp [hf, Except.toOption, Entry.isDirectory] at hany
      | directory es => exact ⟨hspelled, .inr (Entry.look_eq_directory.2 ⟨es, hget⟩)⟩

/-- No file is at a place or above it. -/
def Clear (d : Disk α) (place : List Text) : Prop :=
  ∀ q, q <+: place → d.fileAt q = none

/-- A directory is at a place, and nothing else has changed but above it. -/
structure Raised (d : Disk α) (place : List Text) (d' : Disk α) : Prop where
  there : d'.look place = some none
  standing : ∀ p, ¬ p <+: place → d'.stack p = d.stack p

/-- The way to a directory that is there is clear. -/
theorem clear_of_directory {d : Disk α} {place : List Text} (h : d.look place = some none) :
    d.Clear place :=
  fun _ hq => fileAt_of_isPrefix h hq

/-- The way stays clear when one more name is missing at its end. -/
theorem Clear.concat {d : Disk α} {up : List Text} {last : Text} (h : d.Clear up)
    (hnone : d.look (up ++ [last]) = none) : d.Clear (up ++ [last]) := by
  intro q hq
  rcases List.prefix_concat_iff.1 hq with rfl | hq
  · rw [fileAt, Entry.fileAt, show d.root.look _ = _ from hnone]
    rfl
  · exact h q hq

/-- The directory below one that was made is made. -/
theorem Raised.concat {d d₁ d' : Disk α} {path : Text} {up : List Text} {last : Text}
    (h : Raised d up d₁) (hplace : d₁.place path = up ++ [last])
    (hnone : d₁.look (up ++ [last]) = none) (hmake : d₁.makeDirectory path = .ok d') :
    Raised d (up ++ [last]) d' := by
  obtain ⟨-, rfl⟩ := makeDirectory_eq_ok hmake
  rw [hplace]
  refine ⟨Entry.look_set_append (.directory []) last h.there, fun p hp => ?_⟩
  have hp' : ¬ p <+: up := fun hpre => hp (hpre.trans (List.prefix_append _ _))
  rw [← h.standing p hp']
  exact Entry.stack_set_leaf (fun more hm => Entry.get?_nil_directory hm)
    (by rw [show d₁.root.look _ = _ from hnone]; simp) hp

/-- A directory can be made, with all above it, exactly when a system takes its spelling and no file
is at its place or above. -/
structure Makeable (fuel : Nat) (d : Disk α) (path : Text) : Prop where
  makes : Spelled path → d.Clear (d.place path) → ∃ d', makeDirectories fuel d path = .ok d'
  made : ∀ d', makeDirectories fuel d path = .ok d' →
    Spelled path ∧ d.Clear (d.place path) ∧ Raised d (d.place path) d'

/-- A path that is found needs no directories to be made above it, so the recursion ends there. -/
theorem makeable_of_found {fuel : Nat} {d : Disk α} {path : Text} {e : Entry α}
    (hhome : d.look d.home = some none) (hplain : isPlain path = true)
    (hfind : d.find path = .ok e) : Makeable (fuel + 1) d path := by
  obtain ⟨hspelled, hget⟩ := (find_isOk hhome hplain).1 hfind
  cases e with
  | directory es =>
    have hdir : d.look (d.place path) = some none := Entry.look_eq_directory.2 ⟨es, hget⟩
    have hsame : makeDirectories (fuel + 1) d path = .ok d := by rw [makeDirectories, hfind]
    refine ⟨fun _ _ => ⟨d, hsame⟩, fun d' h => ?_⟩
    cases hsame.symm.trans h
    exact ⟨hspelled, clear_of_directory hdir, hdir, fun _ _ => rfl⟩
  | file c =>
    have hfile : d.fileAt (d.place path) = some c := fileAt_eq_some.2 (Entry.look_eq_file.2 hget)
    refine ⟨fun _ hclear => ?_, fun d' h => ?_⟩
    · cases hfile.symm.trans (hclear _ (List.prefix_refl _))
    · rw [makeDirectories, hfind] at h
      cases h

/-- Where a path that can be spelled is not found, nothing stands. -/
theorem look_of_missing {d : Disk α} {path : Text} {x : Cause} (hhome : d.look d.home = some none)
    (hplain : isPlain path = true) (hfind : d.find path = .error x) (hspelled : Spelled path) :
    d.look (d.place path) = none := by
  cases hget : d.root.get? (d.place path) with
  | none => exact Entry.look_eq_none.2 hget
  | some e => cases ((find_isOk hhome hplain).2 ⟨hspelled, hget⟩).symm.trans hfind

/-- A directory that is missing can be made where those above it can: once they are there, nothing
stands in its own place. -/
theorem makeable_of_above {fuel : Nat} {d : Disk α} {path : Text} {x : Cause} {up : List Text}
    {last : Text} (hhome : d.look d.home = some none) (hplain : isPlain path = true)
    (hfind : d.find path = .error x) (hplace : d.place path = up ++ [last])
    (hmakes : Spelled path → d.Clear up → ∃ d₁, Above fuel d path d₁)
    (hmade : ∀ d₁, Above fuel d path d₁ → d.Clear up ∧ Raised d up d₁) :
    Makeable (fuel + 1) d path := by
  have hplace₁ {d₁ : Disk α} (h : Above fuel d path d₁) : d₁.place path = up ++ [last] := by
    rw [place, (h.home hhome).1, ← place, hplace]
  have hmissing (hspelled : Spelled path) : d.look (up ++ [last]) = none := by
    rw [← hplace]
    exact look_of_missing hhome hplain hfind hspelled
  -- what is above is made, and then this one is missing as before
  have hmissing₁ {d₁ : Disk α} (h : Above fuel d path d₁) (hspelled : Spelled path) :
      d₁.look (up ++ [last]) = none := by
    refine (look_eq_of_stack ((hmade d₁ h).2.standing _ fun hpre => ?_)).trans (hmissing hspelled)
    have := hpre.length_le
    rw [List.length_append, List.length_singleton] at this
    omega
  constructor
  · intro hspelled hclear
    rw [hplace] at hclear
    obtain ⟨d₁, hd₁⟩ := hmakes hspelled fun q hq => hclear q (hq.trans (List.prefix_append _ _))
    obtain ⟨d', hd'⟩ := (makeDirectory_isOk (hd₁.home hhome).2 hplain).2
      ⟨hspelled, by rw [hplace₁ hd₁, List.dropLast_concat]; exact (hmade d₁ hd₁).2.there,
        by rw [hplace₁ hd₁]; exact hmissing₁ hd₁ hspelled⟩
    exact ⟨d', makeDirectories_of_above hfind hd₁ hd'⟩
  · intro d' h
    obtain ⟨d₁, hd₁, hspelled, hlast⟩ := makeDirectories_missing hhome hplain hfind h
    obtain ⟨hclear, hraised⟩ := hmade d₁ hd₁
    have hnone := hmissing₁ hd₁ hspelled
    rw [hplace₁ hd₁, hnone] at hlast
    rw [hplace]
    exact ⟨hspelled, hclear.concat (hmissing hspelled),
      hraised.concat (hplace₁ hd₁) hnone (hlast.resolve_right (by simp))⟩

/-- Every clean spelling whose way is clear can be made. The induction is on the fuel, and the way
up is that of the names, one less each time. -/
theorem makeable_toText {fuel : Nat} {d : Disk α} {names : List Text}
    (htidy : Path.Tidy rooted names.reverse) (hfuel : names.length < fuel)
    (hhome : d.look d.home = some none) : Makeable fuel d (Path.mk rooted names).toText := by
  induction fuel generalizing names with
  | zero => omega
  | succ fuel ih =>
    have hplain : isPlain (Path.mk rooted names).toText = true := by
      have := isPlain_clean (Path.mk rooted names).toText
      rwa [clean, Path.ofText_toText (p := ⟨rooted, names⟩) htidy] at this
    cases hfind : d.find (Path.mk rooted names).toText with
    | ok e => exact makeable_of_found hhome hplain hfind
    | error x =>
      rcases toText_cases hhome htidy with hdir | ⟨above, last, rfl, hproper, habove, hplace⟩
      · -- a step up leads to a directory, which was not missing
        have hthere (hspelled : Spelled (Path.mk rooted names).toText) : False := by
          cases hdir.symm.trans (look_of_missing hhome hplain hfind hspelled)
        refine ⟨fun hspelled _ => (hthere hspelled).elim, fun d' h => ?_⟩
        obtain ⟨-, -, hspelled, -⟩ := makeDirectories_missing hhome hplain hfind h
        exact (hthere hspelled).elim
      -- one level up the spelling has one name less, and so enough fuel
      have hup : (Path.mk rooted above).toText ≠ [] := by
        rw [← Path.ofText_toText (p := ⟨rooted, above⟩) habove]
        exact clean_ne_nil _
      have hparent := parent?_toText hproper.1 hproper.2.1 hup
      have hless : above.length < fuel := by
        rw [List.length_append, List.length_singleton] at hfuel
        omega
      refine makeable_of_above hhome hplain hfind hplace (fun hspelled hclear => ?_) fun d₁ h => ?_
      · simp only [Above, hparent]
        by_cases hnil : above = []
        · rw [if_pos hnil]
          exact ⟨d, rfl⟩
        · rw [if_neg hnil]
          exact (ih habove hless).makes (spelled_above hnil hspelled hup) hclear
      · rw [Above, hparent] at h
        by_cases hnil : above = []
        · rw [if_pos hnil] at h
          rw [h, hnil, place_toText d Path.tidy_nil]
          have hstart : d.look (if rooted then [] else d.home) = some none := look_start hhome
          exact ⟨clear_of_directory hstart, hstart, fun _ _ => rfl⟩
        · rw [if_neg hnil] at h
          exact ((ih habove hless).made d₁ h).2

end

/-- There are no more names in a path than it has bytes. So the length of the path is fuel enough to
go up from it. -/
theorem length_le_joined {names : List Text} (h : ∀ name ∈ names, name ≠ []) :
    names.length ≤ (Path.joined names).length := by
  unfold Path.joined Text.join
  induction names with
  | nil => simp
  | cons a more ih =>
    have ha := List.length_pos_iff.2 (h a List.mem_cons_self)
    cases more with
    | nil => simpa [List.intercalate, Nat.one_le_iff_ne_zero, Nat.pos_iff_ne_zero] using ha
    | cons b more =>
      have := ih fun n hn => h n (List.mem_cons_of_mem _ hn)
      rw [List.intercalate_cons_cons]
      simp only [List.length_cons, List.length_append, List.length_nil] at this ⊢
      omega

variable {d d' : Disk α}

/-- **When all directories on the way can be made**: exactly when the path can be spelled and no
file stands on the way to it. What is made is then the whole way, and nothing else is touched. -/
theorem makeAll_spec (hhome : d.look d.home = some none) (s : Text) :
    (Spelled (clean s) → d.Clear (d.place (clean s)) → ∃ d', d.makeAll (clean s) = .ok d') ∧
    ∀ d', d.makeAll (clean s) = .ok d' →
      Spelled (clean s) ∧ d.Clear (d.place (clean s)) ∧ Raised d (d.place (clean s)) d' := by
  have htidy := Path.tidy_ofText s
  have hlen : (Path.ofText s).names.length ≤ (clean s).length := by
    have := length_le_joined fun n hn => (htidy.not_slash n (List.mem_reverse.2 hn)).1
    rw [clean, Path.toText]
    split
    · rw [List.length_cons]
      omega
    · split
      · rename_i hnil
        rw [List.isEmpty_iff.1 hnil]
        simp
      · exact this
  have h := makeable_toText htidy (Nat.lt_succ_of_le hlen) hhome
  exact ⟨h.makes, h.made⟩

end Disk

end NovelScript.Files
