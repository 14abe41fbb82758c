import NovelScript.Files.Disk

/-!
# What stands where in a tree

`look` tells what stands at a list of names: nothing, a directory, or a file with what it holds.
Setting an entry is seen through it.

* **`look_set_of_not_isPrefix`**: what is not below the entry that is set, or the entry itself, looks
  as before.
* **`set_some_cases`**: the entry that is set stands there afterwards, or the directory for it is
  missing and nothing changes; `get?_set_append` is the first case.
* **`mem_contents_set`**: no file holds anything new but what was put there. Entries that are hidden
  behind another one of the same name count among the contents, so that taking one away brings
  nothing new to light.
-/

namespace NovelScript.Files.Entry

variable {α : Type}

/-! ## Looking -/

/-- What a file holds; a directory holds nothing itself. -/
def held : Entry α → Option α
  | file c => some c
  | directory _ => none

/-- What stands at a list of names: nothing, a directory (`some none`) or a file. -/
def look (e : Entry α) (names : List Text) : Option (Option α) :=
  (e.get? names).map held

/-- What the file at a list of names holds. -/
def fileAt (e : Entry α) (names : List Text) : Option α :=
  (e.look names).join

/-- There is a file below an entry when what is seen there is a file. -/
theorem fileAt_eq_some {e : Entry α} {names : List Text} {c : α} :
    e.fileAt names = some c ↔ e.look names = some (some c) := by
  rw [fileAt, Option.join_eq_some_iff]

/-- What is seen as a file is the file that stands there. -/
theorem look_eq_file {e : Entry α} {names : List Text} {c : α} :
    e.look names = some (some c) ↔ e.get? names = some (file c) := by
  rw [look, Option.map_eq_some_iff]
  constructor
  · rintro ⟨x, hx, hc⟩
    cases x with
    | file c' =>
      cases hc
      exact hx
    | directory es => cases hc
  · exact fun h => ⟨file c, h, rfl⟩

/-- What is seen as a directory is a directory that stands there, with whatever it has below it. -/
theorem look_eq_directory {e : Entry α} {names : List Text} :
    e.look names = some none ↔ ∃ es, e.get? names = some (directory es) := by
  rw [look, Option.map_eq_some_iff]
  constructor
  · rintro ⟨x, hx, hc⟩
    cases x with
    | file c => cases hc
    | directory es => exact ⟨es, hx⟩
  · exact fun ⟨es, h⟩ => ⟨directory es, h, rfl⟩

/-- Nothing is seen where nothing stands. -/
theorem look_eq_none {e : Entry α} {names : List Text} :
    e.look names = none ↔ e.get? names = none := by
  rw [look, Option.map_eq_none_iff]

/-- The way down from a directory goes through its entry of the first name. -/
theorem get?_cons_directory (es : List (Text × Entry α)) (name : Text) (more : List Text) :
    (directory es).get? (name :: more) = (es.lookup name).bind (·.get? more) := by
  rw [get?]
  cases es.lookup name <;> rfl

/-- A way down may be taken in two parts. -/
theorem get?_append (e : Entry α) (names more : List Text) :
    e.get? (names ++ more) = (e.get? names).bind (·.get? more) := by
  induction names generalizing e with
  | nil => simp [get?]
  | cons name names ih =>
    cases e with
    | file c => rfl
    | directory es =>
      rw [List.cons_append, get?_cons_directory, get?_cons_directory, Option.bind_assoc]
      exact Option.bind_congr fun e _ => ih e

/-- Below a file nothing stands. -/
theorem get?_file (c : α) {names : List Text} (h : names ≠ []) : (file c).get? names = none := by
  cases names with
  | nil => exact absurd rfl h
  | cons name more => rfl

/-- Below an empty directory nothing stands. -/
theorem get?_nil_directory {names : List Text} (h : names ≠ []) :
    (directory ([] : List (Text × Entry α))).get? names = none := by
  cases names with
  | nil => exact absurd rfl h
  | cons name more => rfl

/-- Above anything there are directories. -/
theorem look_of_append {e : Entry α} {names more : List Text} (hmore : more ≠ [])
    (h : e.look (names ++ more) ≠ none) : e.look names = some none := by
  rw [look_eq_directory]
  rw [Ne, look_eq_none, get?_append] at h
  cases hx : e.get? names with
  | none => simp [hx] at h
  | some x =>
    cases x with
    | file c => simp [hx, get?_file c hmore] at h
    | directory es => exact ⟨es, rfl⟩

/-- Below what is no directory there is nothing. -/
theorem look_append_eq_none {e : Entry α} {names more : List Text} (hmore : more ≠ [])
    (h : e.look names ≠ some none) : e.look (names ++ more) = none := by
  refine Classical.byContradiction fun hc => h ?_
  exact look_of_append hmore hc

/-- Only a directory has directories below it. -/
theorem not_isPrefix_directory {e : Entry α} {names p : List Text} (h : e.look names ≠ some none)
    (hp : e.look p = some none) : ¬ names <+: p := by
  rintro ⟨more, rfl⟩
  cases more with
  | nil => exact h (by simpa using hp)
  | cons m more =>
    rw [look_append_eq_none (List.cons_ne_nil m more) h] at hp
    cases hp

/-! ## Setting -/

/-- Setting an entry of a directory leaves those of other names as they are. -/
theorem lookup_setEntry_ne {name n : Text} (h : n ≠ name) (new : Option (Entry α))
    (es : List (Text × Entry α)) : (setEntry name new es).lookup n = es.lookup n := by
  have hb : (n == name) = false := by simpa using h
  have hnew : ((new.map fun e => (name, e)).toList).lookup n = none := by
    cases new <;> simp [List.lookup_cons, hb]
  induction es with
  | nil => simpa [setEntry] using hnew
  | cons x more ih =>
    obtain ⟨k, e⟩ := x
    rw [setEntry]
    split
    · rename_i hk
      rw [List.lookup_append, hnew, Option.none_or, List.lookup_cons, hk, hb]
    · rw [List.lookup_cons, List.lookup_cons, ih]

/-- The entry that was set is found under its name. -/
theorem lookup_setEntry_self (name : Text) (e : Entry α) (es : List (Text × Entry α)) :
    (setEntry name (some e) es).lookup name = some e := by
  induction es with
  | nil => simp [setEntry]
  | cons x more ih =>
    obtain ⟨k, e'⟩ := x
    rw [setEntry]
    split
    · simp
    · rename_i hk
      have hb : (name == k) = false := by simpa using Ne.symm hk
      rw [List.lookup_cons, hb]
      exact ih

/-- To set an entry to what it is changes nothing, not even the order of the entries. -/
theorem setEntry_lookup {name : Text} {e : Entry α} {es : List (Text × Entry α)}
    (h : es.lookup name = some e) : setEntry name (some e) es = es := by
  induction es with
  | nil => cases h
  | cons x more ih =>
    obtain ⟨k, e'⟩ := x
    rw [List.lookup_cons] at h
    rw [setEntry]
    split
    · rename_i hk
      rw [hk, beq_self_eq_true] at h
      cases h
      rw [hk]
      rfl
    · rename_i hk
      have hb : (name == k) = false := by simpa using Ne.symm hk
      rw [hb] at h
      rw [ih h]

/-- Taking away an entry that is not there changes nothing. -/
theorem setEntry_of_lookup_eq_none {name : Text} {es : List (Text × Entry α)}
    (h : es.lookup name = none) : setEntry name none es = es := by
  induction es with
  | nil => rfl
  | cons x more ih =>
    obtain ⟨k, e⟩ := x
    rw [List.lookup_cons] at h
    rw [setEntry]
    split
    · rename_i hk
      simp [hk] at h
    · rename_i hk
      have hb : (name == k) = false := by simpa using Ne.symm hk
      rw [ih (by simpa [hb] using h)]

/-- Setting an entry further down goes on in the entry of the first name, if there is one. -/
theorem set_cons {name : Text} {more : List Text} (hmore : more ≠ []) (new : Option (Entry α))
    (es : List (Text × Entry α)) :
    (directory es).set new (name :: more) =
      match es.lookup name with
      | some e => directory (setEntry name (some (e.set new more)) es)
      | none => directory es := by
  cases more with
  | nil => exact absurd rfl hmore
  | cons m more => rfl

/-- A directory in which an entry is set has another entry of the first name, or has lost it. -/
theorem exists_set_eq_directory (new : Option (Entry α)) (es : List (Text × Entry α)) (name : Text)
    (more : List Text) : ∃ v, (directory es).set new (name :: more) = directory (setEntry name v es) := by
  by_cases hmore : more = []
  · exact ⟨new, by rw [hmore, set]⟩
  · rw [set_cons hmore]
    cases hx : es.lookup name with
    | some e => exact ⟨_, rfl⟩
    | none => exact ⟨none, by rw [setEntry_of_lookup_eq_none hx]⟩

/-- What is neither the entry that is set nor below it looks as before. The induction is on the
names of the changed place, with the other way down shortened along with it. -/
theorem look_set_of_not_isPrefix {e : Entry α} (new : Option (Entry α)) {names p : List Text}
    (h : ¬ names <+: p) : (e.set new names).look p = e.look p := by
  induction names generalizing e p with
  | nil => exact absurd List.nil_prefix h
  | cons name more ih =>
    cases e with
    | file c => cases more <;> rfl
    | directory es =>
      obtain ⟨v, hv⟩ := exists_set_eq_directory new es name more
      cases p with
      | nil =>
        -- the directory that is changed stays a directory
        rw [hv]
        rfl
      | cons n p =>
        by_cases hn : n = name
        · subst hn
          have hp : ¬ more <+: p := fun hp => h (List.cons_prefix_cons.2 ⟨rfl, hp⟩)
          have hmore : more ≠ [] := fun hmore => hp (hmore ▸ List.nil_prefix)
          rw [set_cons hmore]
          cases hx : es.lookup n with
          | none => rfl
          | some x =>
            dsimp only
            rw [look, look, get?_cons_directory, get?_cons_directory, lookup_setEntry_self, hx]
            exact ih hp
        · rw [hv, look, look, get?_cons_directory, get?_cons_directory, lookup_setEntry_ne hn]

/-- **The frame of a change**: a file that lies neither at the changed place nor below it stays. -/
theorem fileAt_set_of_not_isPrefix {e : Entry α} (new : Option (Entry α)) {names p : List Text}
    (h : ¬ names <+: p) : (e.set new names).fileAt p = e.fileAt p := by
  rw [fileAt, look_set_of_not_isPrefix new h, ← fileAt]

/-- The entry that is set stands in its place afterwards, or nothing changes, since there is a file
on the way. -/
theorem set_some_cases (e x : Entry α) (names : List Text) :
    e.set (some x) names = e ∨
      ∀ more, (e.set (some x) names).get? (names ++ more) = x.get? more := by
  induction names generalizing e with
  | nil => exact .inr fun more => rfl
  | cons name rest ih =>
    cases e with
    | file c => exact .inl (by cases rest <;> rfl)
    | directory es =>
      cases rest with
      | nil =>
        right
        intro more
        rw [set, List.singleton_append, get?_cons_directory, lookup_setEntry_self,
          Option.bind_some]
      | cons m rest =>
        rw [set_cons (List.cons_ne_nil m rest)]
        split
        · rename_i y hy
          rcases ih y with hsame | hset
          · exact .inl (by rw [hsame, setEntry_lookup hy])
          · right
            intro more
            rw [List.cons_append, get?_cons_directory, lookup_setEntry_self, Option.bind_some]
            exact hset more
        · exact .inl rfl

/-- An entry that is set in a directory that is there stands there afterwards, and what is below it
is what it brought. -/
theorem get?_set_append {e : Entry α} (x : Entry α) {dir : List Text} (name : Text)
    (h : e.look dir = some none) (more : List Text) :
    (e.set (some x) (dir ++ [name])).get? (dir ++ [name] ++ more) = x.get? more := by
  induction dir generalizing e with
  | nil =>
    obtain ⟨es, hes⟩ := look_eq_directory.1 h
    cases hes
    rw [List.nil_append, set, List.singleton_append, get?_cons_directory, lookup_setEntry_self,
      Option.bind_some]
  | cons n dir ih =>
    cases e with
    | file c => cases h
    | directory es =>
      rw [look, get?_cons_directory] at h
      cases hy : es.lookup n with
      | none => simp [hy] at h
      | some y =>
        rw [hy, Option.bind_some] at h
        rw [List.cons_append, set_cons (by simp), hy]
        dsimp only
        rw [List.cons_append, get?_cons_directory, lookup_setEntry_self, Option.bind_some]
        exact ih h

/-- In a directory that is there an entry can be set, and is seen afterwards. -/
theorem look_set_append {e : Entry α} (x : Entry α) {dir : List Text} (name : Text)
    (h : e.look dir = some none) :
    (e.set (some x) (dir ++ [name])).look (dir ++ [name]) = some x.held := by
  have hx := get?_set_append x name h []
  rw [List.append_nil] at hx
  rw [look, hx]
  rfl

/-- A file that is put where no directory stands is there afterwards, unless the directory for it is
missing. -/
theorem look_set_file {e : Entry α} {names : List Text} (c : α) (h : e.look names ≠ some none) :
    (e.set (some (file c)) names).look names = some (some c) ∨
      e.set (some (file c)) names = e ∧ e.look names = none := by
  rcases set_some_cases e (file c) names with hsame | hset
  · cases hl : e.look names with
    | none => exact .inr ⟨hsame, rfl⟩
    | some old =>
      -- something is there, so its directory is there as well
      left
      rcases List.eq_nil_or_concat names with rfl | ⟨dir, name, rfl⟩
      · rfl
      · have hdir : e.look dir = some none :=
          look_of_append (List.cons_ne_nil name []) (by simp_all)
        simpa [held] using look_set_append (file c) name hdir
  · left
    have hc := hset []
    rw [List.append_nil] at hc
    exact look_eq_file.2 hc

/-- An entry with nothing below it, put where no directory stands, changes no other file. -/
theorem fileAt_set_leaf {e x : Entry α} {names p : List Text}
    (hx : ∀ more, more ≠ [] → x.get? more = none) (h : e.look names ≠ some none) (hp : p ≠ names) :
    (e.set (some x) names).fileAt p = e.fileAt p := by
  by_cases hpre : names <+: p
  · obtain ⟨more, rfl⟩ := hpre
    have hmore : more ≠ [] := by
      rintro rfl
      simp at hp
    rcases set_some_cases e x names with hsame | hset
    · rw [hsame]
    · rw [fileAt, fileAt, look_append_eq_none hmore h, look, hset, hx more hmore]
      rfl
  · exact fileAt_set_of_not_isPrefix _ hpre

/-! ## Contents -/

mutual

/-- What the files of a tree hold, hidden ones too. -/
def contents : Entry α → List α
  | file c => [c]
  | directory es => contentsOf es

/-- What the files of the entries of a directory hold. -/
def contentsOf : List (Text × Entry α) → List α
  | [] => []
  | (_, e) :: more => e.contents ++ contentsOf more

end

/-- What an entry contains is contained in its directory. -/
theorem mem_contentsOf_of_lookup {name : Text} {x : Entry α} {c : α} {es : List (Text × Entry α)}
    (h : es.lookup name = some x) (hc : c ∈ x.contents) : c ∈ contentsOf es := by
  induction es with
  | nil => cases h
  | cons y more ih =>
    obtain ⟨k, e⟩ := y
    rw [contentsOf, List.mem_append]
    rw [List.lookup_cons] at h
    split at h
    · cases h
      exact .inl hc
    · exact .inr (ih h)

/-- What stands below an entry is contained in it. -/
theorem mem_contents_of_get? {e x : Entry α} {names : List Text} {c : α}
    (h : e.get? names = some x) (hc : c ∈ x.contents) : c ∈ e.contents := by
  induction names generalizing e with
  | nil =>
    cases h
    exact hc
  | cons name more ih =>
    cases e with
    | file c => cases h
    | directory es =>
      rw [get?_cons_directory, Option.bind_eq_some_iff] at h
      obtain ⟨y, hy, hx⟩ := h
      rw [contents]
      exact mem_contentsOf_of_lookup hy (ih hx)

/-- A change of one entry brings nothing but what the new one contains. The induction is on the
entries of the directory, up to the one of that name. -/
theorem mem_contentsOf_setEntry {name : Text} {new : Option (Entry α)} {c : α}
    {es : List (Text × Entry α)} (h : c ∈ contentsOf (setEntry name new es)) :
    c ∈ contentsOf es ∨ ∃ x, new = some x ∧ c ∈ x.contents := by
  have hnew (more : List (Text × Entry α))
      (h : c ∈ contentsOf ((new.map fun e => (name, e)).toList ++ more)) :
      c ∈ contentsOf more ∨ ∃ x, new = some x ∧ c ∈ x.contents := by
    cases new with
    | none => exact .inl h
    | some x =>
      rw [Option.map_some, Option.toList_some, List.singleton_append, contentsOf,
        List.mem_append] at h
      rcases h with h | h
      · exact .inr ⟨x, rfl, h⟩
      · exact .inl h
  induction es with
  | nil =>
    rw [setEntry, ← List.append_nil (Option.toList _)] at h
    exact hnew [] h
  | cons y more ih =>
    obtain ⟨k, e⟩ := y
    rw [setEntry] at h
    split at h
    · rcases hnew more h with h | h
      · exact .inl (by rw [contentsOf, List.mem_append]; exact .inr h)
      · exact .inr h
    · rw [contentsOf, List.mem_append] at h ⊢
      rcases h with h | h
      · exact .inl (.inl h)
      · rcases ih h with h | h
        · exact .inl (.inr h)
        · exact .inr h

/-- The files of a changed tree hold what they held, or what was put there. The induction is on the
way down, with `mem_contentsOf_setEntry` at its end. -/
theorem mem_contents_set {e : Entry α} {new : Option (Entry α)} {names : List Text} {c : α}
    (h : c ∈ (e.set new names).contents) :
    c ∈ e.contents ∨ ∃ x, new = some x ∧ c ∈ x.contents := by
  induction names generalizing e with
  | nil =>
    cases new with
    | none => exact .inl h
    | some x => exact .inr ⟨x, rfl, h⟩
  | cons name rest ih =>
    cases e with
    | file c' => exact .inl (by cases rest <;> exact h)
    | directory es =>
      cases rest with
      | nil => exact mem_contentsOf_setEntry h
      | cons m rest =>
        rw [set_cons (List.cons_ne_nil m rest)] at h
        split at h
        · rename_i y hy
          rcases mem_contentsOf_setEntry h with h | ⟨x, hx, h⟩
          · exact .inl h
          · cases hx
            rcases ih h with h | h
            · exact .inl (mem_contentsOf_of_lookup hy h)
            · exact .inr h
        · exact .inl h

end NovelScript.Files.Entry
