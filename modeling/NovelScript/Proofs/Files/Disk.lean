import NovelScript.Proofs.Files.Entry
import NovelScript.Proofs.Files.Path

/-!
# What the operations of a disk do

Each operation is described by the place that its spelling means and by what `look` tells about that
place and all others.

* **`locate_eq_ok`**: a spelling that can be followed leads to its place, whatever the directories
  on the way hold.
* **`write_ok`**, **`makeAll_ok`**, **`remove_ok`** and **`rename_ok`**: where an operation changes
  the disk and where it does not.
* **`Keeps`**: work that ends well or badly and relates the disks before and after it; `Brings` is
  such a relation, that files hold nothing new but what is named.
* **`find_congr`**: a direct spelling finds what is in its place, so that directories that come and go
  elsewhere do not matter.
-/

namespace NovelScript.Files

/-! ## Steps of work -/

section

variable {ε σ β γ : Type} {x : EStateM ε σ β} {f : β → EStateM ε σ γ} {s s' : σ}

/-- Two pieces of work succeed together when the first one does and the second one does behind
it. -/
theorem bind_eq_ok {c : γ} :
    (x >>= f) s = .ok c s' ↔ ∃ b t, x s = .ok b t ∧ f b t = .ok c s' := by
  change EStateM.bind x f s = _ ↔ _
  rw [EStateM.bind]
  cases x s with
  | ok b t => simp [and_assoc]
  | error e t => simp

/-- Two pieces of work fail together when the first one fails, or the second one behind a success of
the first. With `bind_eq_ok` it lets a long piece of work be read part by part. -/
theorem bind_eq_error {e : ε} :
    (x >>= f) s = .error e s' ↔
      x s = .error e s' ∨ ∃ b t, x s = .ok b t ∧ f b t = .error e s' := by
  change EStateM.bind x f s = _ ↔ _
  rw [EStateM.bind]
  cases x s with
  | ok b t => simp [and_assoc]
  | error e t => simp

/-- To name failures otherwise leaves successes as they are. -/
theorem adaptExcept_eq_ok {ε' : Type} {g : ε → ε'} {b : β} :
    (x.adaptExcept g) s = .ok b s' ↔ x s = .ok b s' := by
  rw [EStateM.adaptExcept]
  cases x s <;> simp

/-- However the work ends, the states before and after it are related. -/
def Keeps (R : σ → σ → Prop) (x : EStateM ε σ β) : Prop :=
  ∀ s, (∀ b s', x s = .ok b s' → R s s') ∧ ∀ e s', x s = .error e s' → R s s'

/-- A relation that can be chained is kept by work in a row when each part keeps it. All claims
about what a long piece of work leaves alone go through this lemma. -/
theorem Keeps.bind {R : σ → σ → Prop} (htrans : ∀ {s₁ s₂ s₃}, R s₁ s₂ → R s₂ s₃ → R s₁ s₃)
    (hx : Keeps R x) (hf : ∀ b, Keeps R (f b)) : Keeps R (x >>= f) := by
  refine fun s => ⟨fun c s' h => ?_, fun e s' h => ?_⟩
  · obtain ⟨b, t, hb, hc⟩ := bind_eq_ok.1 h
    exact htrans ((hx s).1 b t hb) ((hf b t).1 c s' hc)
  · rcases bind_eq_error.1 h with he | ⟨b, t, hb, he⟩
    · exact (hx s).2 e s' he
    · exact htrans ((hx s).1 b t hb) ((hf b t).2 e s' he)

/-- A value that needs no work keeps what nothing at all keeps. -/
theorem Keeps.pure {R : σ → σ → Prop} (hrefl : ∀ s, R s s) (b : β) :
    Keeps R (pure b : EStateM ε σ β) := by
  refine fun s => ⟨fun c s' h => ?_, fun e s' h => nomatch h⟩
  cases h
  exact hrefl s

/-- A failure that is raised on purpose has changed nothing. -/
theorem Keeps.throw {R : σ → σ → Prop} (hrefl : ∀ s, R s s) (e : ε) :
    Keeps R (throw e : EStateM ε σ β) := by
  refine fun s => ⟨fun c s' h => (nomatch h), fun e s' h => ?_⟩
  cases h
  exact hrefl s

/-- Looking at the state changes nothing. -/
theorem Keeps.get {R : σ → σ → Prop} (hrefl : ∀ s, R s s) : Keeps R (get : EStateM ε σ σ) := by
  refine fun s => ⟨fun c s' h => ?_, fun e s' h => nomatch h⟩
  cases h
  exact hrefl s

/-- To name a failure otherwise changes nothing on the disk. -/
theorem Keeps.adaptExcept {ε' : Type} {R : σ → σ → Prop} (g : ε → ε') (hx : Keeps R x) :
    Keeps R (x.adaptExcept g) := by
  refine fun s => ⟨fun b s' h => ?_, fun e s' h => ?_⟩ <;> rw [EStateM.adaptExcept] at h <;>
    split at h <;> cases h
  · rename_i h
    exact (hx s).1 b s' h
  · rename_i h
    exact (hx s).2 _ s' h

end

namespace Disk

variable {α : Type}

/-- What stands at a place. -/
def look (d : Disk α) (place : List Text) : Option (Option α) :=
  d.root.look place

/-- What the file at a place holds. -/
def fileAt (d : Disk α) (place : List Text) : Option α :=
  d.root.fileAt place

/-- What all files hold. -/
def contents (d : Disk α) : List α :=
  d.root.contents

/-- Where a spelling leads on this disk. -/
def place (d : Disk α) (path : Text) : List Text :=
  placeOf d.home path

/-- A file stands at a place when what is seen there is a file. -/
theorem fileAt_eq_some {d : Disk α} {p : List Text} {c : α} :
    d.fileAt p = some c ↔ d.look p = some (some c) :=
  Entry.fileAt_eq_some

/-! ## Following a spelling -/

/-- The place that a spelling starts from. -/
def startOf (d : Disk α) (path : Text) : List Text :=
  if path.head? = some slash then [] else d.home

/-- A path leads where its names lead, one after the other. -/
theorem foldl_enter_namesOf (d : Disk α) (path : Text) :
    (namesOf path).foldl enter (d.startOf path) = d.place path :=
  foldl_enter_filter _ _

/-- **When a path can be followed, it leads where its names lead.** Following asks the disk whether
each directory on the way is there; this says that the answer does not depend on it. -/
theorem follow_eq_ok {root : Entry α} {reached names out : List Text} (hn : ∀ n ∈ names, n ≠ [])
    (h : follow root reached names = .ok out) : out = names.foldl enter reached := by
  induction names generalizing reached with
  | nil =>
    cases h
    rfl
  | cons name more ih =>
    have hne := hn name List.mem_cons_self
    have ih := fun r => @ih r fun n hm => hn n (List.mem_cons_of_mem _ hm)
    rw [follow] at h
    rw [List.foldl_cons, enter]
    split at h
    · rename_i hdot
      rw [if_pos (by simp [hdot])]
      exact ih _ h
    · rename_i hdot
      rw [if_neg (by simpa [hne] using hdot)]
      split at h
      · rename_i hdd
        rw [if_pos hdd]
        exact ih _ h
      · rename_i hdd
        rw [if_neg hdd]
        split at h
        · cases h
        · dsimp only at h
          split at h
          · rename_i hmore
            cases h
            rw [List.isEmpty_iff.1 hmore]
            rfl
          · split at h
            · cases h
            · cases h
            · exact ih _ h

/-- Where there are more directories, spellings lead to the same places. Nothing that could be
followed stops being so when directories are made. -/
theorem follow_mono {root root' : Entry α} {reached names out : List Text}
    (hdirs : ∀ p, root.look p = some none → root'.look p = some none)
    (h : follow root reached names = .ok out) : follow root' reached names = .ok out := by
  induction names generalizing reached with
  | nil => exact h
  | cons name more ih =>
    rw [follow] at h ⊢
    split at h
    · rename_i hdot
      rw [if_pos hdot]
      exact ih h
    · rename_i hdot
      rw [if_neg hdot]
      split at h
      · rename_i hdd
        rw [if_pos hdd]
        exact ih h
      · rename_i hdd
        rw [if_neg hdd]
        split at h
        · cases h
        · rename_i hlong
          rw [if_neg hlong]
          dsimp only at h ⊢
          split at h
          · rename_i hmore
            rw [if_pos hmore]
            exact h
          · rename_i hmore
            rw [if_neg hmore]
            split at h
            · cases h
            · cases h
            · rename_i es hes
              obtain ⟨es', hes'⟩ := Entry.look_eq_directory.1
                (hdirs _ (Entry.look_eq_directory.2 ⟨es, hes⟩))
              rw [hes']
              exact ih h

/-- What it takes for a path to be located: it is not empty, has no zero byte and can be followed,
and when it is spelled like that of a directory there is no file at its end. -/
theorem locate_eq_ok {d : Disk α} {path : Text} {p : Place} :
    d.locate path = .ok p ↔
      path ≠ [] ∧ (0 : UInt8) ∉ path ∧ follow d.root (d.startOf path) (namesOf path) = .ok p.names ∧
        p.wantsDirectory = (path.getLast? == some slash) ∧
        ∀ c, d.look p.names = some (some c) → p.wantsDirectory = false := by
  obtain ⟨names, wants⟩ := p
  rw [locate]
  by_cases hempty : path = []
  · simp [hempty]
  rw [if_neg (by simpa using hempty)]
  by_cases hzero : (0 : UInt8) ∈ path
  · simp [hzero]
  rw [if_neg (by simpa using hzero)]
  change (follow d.root (d.startOf path) (namesOf path) >>= _) = _ ↔ _
  cases hf : follow d.root (d.startOf path) (namesOf path) with
  | error c => simp [bind, Except.bind]
  | ok out =>
    simp only [bind, Except.bind, look, Entry.look]
    cases hout : d.root.get? out with
    | none => simp +contextual [hempty, hzero, hout, Eq.comm]
    | some e =>
      cases e with
      | file c =>
        by_cases hw : path.getLast? == some slash
        · simp only [hw, if_true, reduceCtorEq, false_iff, not_and]
          intro _ _ ho hwants hfalse
          cases ho
          exact absurd (hfalse c (by simp [hout, Entry.held])) (by simp [hwants])
        · simp +contextual [hempty, hzero, hout, hw, Eq.comm]
      | directory es => simp +contextual [hempty, hzero, hout, Entry.held, Eq.comm]

/-- A path that is located leads to its place. -/
theorem locate_names {d : Disk α} {path : Text} {p : Place} (h : d.locate path = .ok p) :
    p.names = d.place path := by
  have hf := (locate_eq_ok.1 h).2.2.1
  rw [follow_eq_ok (fun n hn => ne_nil_of_mem_namesOf hn) hf, foldl_enter_namesOf]

/-- A path is found when it is located and something is there. -/
theorem find_eq_ok {d : Disk α} {path : Text} {e : Entry α} :
    d.find path = .ok e ↔ ∃ p, d.locate path = .ok p ∧ d.root.get? p.names = some e := by
  rw [find]
  cases d.locate path with
  | error c => simp [bind, Except.bind]
  | ok p =>
    cases hp : d.root.get? p.names with
    | none => simp [bind, Except.bind, hp, throw, throwThe, MonadExceptOf.throw]
    | some e => simp [bind, Except.bind, hp, pure, Except.pure]

/-- What is found by a path is the entry at its place. -/
theorem get?_of_find {d : Disk α} {path : Text} {e : Entry α} (h : d.find path = .ok e) :
    d.root.get? (d.place path) = some e := by
  obtain ⟨p, hp, he⟩ := find_eq_ok.1 h
  rwa [locate_names hp] at he

/-- What can be read is what is found, when it is a file. -/
theorem read_eq_ok {d : Disk α} {path : Text} {c : α} :
    d.read path = .ok c ↔ d.find path = .ok (.file c) := by
  rw [read]
  cases d.find path with
  | error e => simp
  | ok e => cases e <;> simp

/-- What can be read stands at the place of the path. -/
theorem fileAt_of_read {d : Disk α} {path : Text} {c : α} (h : d.read path = .ok c) :
    d.fileAt (d.place path) = some c :=
  fileAt_eq_some.2 (Entry.look_eq_file.2 (get?_of_find (read_eq_ok.1 h)))

/-! ## Direct spellings -/

/-- Steps up and names of the same directory lead somewhere whatever is there. -/
theorem follow_ups (root : Entry α) {ups : List Text} (hups : ∀ n ∈ ups, isDots n = true)
    (reached names : List Text) :
    follow root reached (ups ++ names) = follow root (ups.foldl enter reached) names := by
  induction ups generalizing reached with
  | nil => rfl
  | cons n ups ih =>
    have ih := ih fun m hm => hups m (List.mem_cons_of_mem _ hm)
    have hn : n = dot ∨ n = dotDot := by simpa [isDots] using hups n List.mem_cons_self
    rcases hn with rfl | rfl
    · rw [List.cons_append, follow, if_pos (by decide), ih]
      rfl
    · rw [List.cons_append, follow, if_neg (by decide), if_pos (by decide), ih]
      rfl

/-- Names without steps up that were followed once can be followed wherever something is at their
end, for above it there are directories. -/
theorem follow_down {root root' : Entry α} {reached names out : List Text}
    (hn : ∀ n ∈ names, n ≠ []) (hdown : ∀ n ∈ names, isDots n = false)
    (h : follow root reached names = .ok out) (hthere : root'.look out ≠ none) :
    follow root' reached names = .ok out := by
  induction names generalizing reached with
  | nil => exact h
  | cons name more ih =>
    have hout := follow_eq_ok hn h
    have hdots : (name == dot) = false ∧ (name == dotDot) = false := by
      simpa [isDots] using hdown name List.mem_cons_self
    rw [foldl_enter_down hn hdown, List.append_cons] at hout
    rw [follow, if_neg (by simp [hdots]), if_neg (by simp [hdots])] at h ⊢
    split at h
    · cases h
    · rename_i hlong
      rw [if_neg hlong]
      dsimp only at h ⊢
      split at h
      · rename_i hmore
        rw [if_pos hmore]
        exact h
      · rename_i hmore
        rw [if_neg hmore]
        have hdir : root'.look (reached ++ [name]) = some none := by
          have hmore : more ≠ [] := by simpa using hmore
          exact Entry.look_of_append hmore (by rwa [← hout])
        obtain ⟨es, hes⟩ := Entry.look_eq_directory.1 hdir
        rw [hes]
        split at h
        · cases h
        · cases h
        · exact ih (fun n hm => hn n (List.mem_cons_of_mem _ hm))
            (fun n hm => hdown n (List.mem_cons_of_mem _ hm)) h

/-- A direct spelling finds what is in its place, when that is a file where a file was found and a
directory where a directory was. -/
theorem find_congr {d d' : Disk α} {path : Text} (hdirect : isDirect path = true)
    (hhome : d'.home = d.home) {e e' : Entry α} (h : d.find path = .ok e)
    (hthere : d'.root.get? (d.place path) = some e') (hkind : e'.isDirectory = e.isDirectory) :
    d'.find path = .ok e' := by
  obtain ⟨p, hp, he⟩ := find_eq_ok.1 h
  obtain ⟨hne, hzero, hf, hw, hwants⟩ := locate_eq_ok.1 hp
  rw [← locate_names hp] at hthere
  obtain ⟨ups, downs, hnames, hups, hdowns⟩ := exists_ups_downs hdirect
  have hdownsne : ∀ n ∈ downs, n ≠ [] := fun n hn =>
    ne_nil_of_mem_namesOf (hnames ▸ List.mem_append_right ups hn)
  have hstart : d'.startOf path = d.startOf path := by rw [startOf, startOf, hhome]
  have hf' : follow d'.root (d'.startOf path) (namesOf path) = .ok p.names := by
    rw [hnames, follow_ups _ hups] at hf ⊢
    rw [hstart]
    refine follow_down hdownsne hdowns hf ?_
    rw [Ne, Entry.look_eq_none, hthere]
    simp
  refine find_eq_ok.2 ⟨p, locate_eq_ok.2 ⟨hne, hzero, hf', hw, fun c hc => ?_⟩, hthere⟩
  have hfile := Entry.look_eq_file.1 hc
  rw [hthere] at hfile
  cases hfile
  cases e with
  | file c' => exact hwants c' (Entry.look_eq_file.2 he)
  | directory es => cases hkind

/-- A direct spelling finds a file wherever the file is in its place. -/
theorem find_file_congr {d d' : Disk α} {path : Text} {c : α} (hdirect : isDirect path = true)
    (hhome : d'.home = d.home) (hfile : d'.fileAt (d.place path) = some c) {e : α}
    (h : d.find path = .ok (.file e)) : d'.find path = .ok (.file c) :=
  find_congr hdirect hhome h (Entry.look_eq_file.1 (fileAt_eq_some.1 hfile)) rfl

/-- What a direct spelling can read depends only on its place. -/
theorem read_congr {d d' : Disk α} {path : Text} (hdirect : isDirect path = true)
    (hhome : d'.home = d.home) (hfile : d'.fileAt (d.place path) = d.fileAt (d.place path))
    (c : α) : d'.read path = .ok c ↔ d.read path = .ok c := by
  have hplace : d'.place path = d.place path := by rw [place, place, hhome]
  constructor
  · intro h
    have hc := fileAt_of_read h
    rw [hplace] at hc
    exact read_eq_ok.2 (find_file_congr hdirect hhome.symm
      (by rw [hplace, ← hfile, hc]) (read_eq_ok.1 h))
  · intro h
    exact read_eq_ok.2 (find_file_congr hdirect hhome
      (by rw [hfile, fileAt_of_read h]) (read_eq_ok.1 h))

/-! ## Operations -/

/-- An operation on a path succeeds when the path is found and what is done there succeeds. -/
theorem fail_bind_eq_ok {β γ : Type} {operation : String} {path : Text} {r : Except Cause γ}
    {f : γ → Except Cause β} {b : β} :
    fail operation path (r >>= f) = .ok b ↔ ∃ c, r = .ok c ∧ f c = .ok b := by
  cases r with
  | error e => simp [fail, bind, Except.bind]
  | ok c => cases hf : f c <;> simp [fail, bind, Except.bind, hf]

/-- The disk with an entry set or taken away. -/
def put (d : Disk α) (new : Option (Entry α)) (place : List Text) : Disk α :=
  { d with root := d.root.set new place }

/-- A write puts a file at its place, where no directory may be. The lemmas about the other changes
have the same form, so that a proof need not open a change again. -/
theorem write_eq_ok {d d' : Disk α} {path : Text} {c : α} (h : d.write path c = .ok d') :
    d.look (d.place path) ≠ some none ∧ d' = d.put (some (.file c)) (d.place path) := by
  rw [write, fail_bind_eq_ok] at h
  obtain ⟨p, hp, h⟩ := h
  rw [← locate_names hp]
  split at h
  · cases h
  · rename_i old hold
    cases h
    exact ⟨by simp [look, Entry.look, hold, Entry.held], rfl⟩
  · rename_i hnone
    split at h
    · cases h
    · cases h
      exact ⟨by simp [look, Entry.look, hnone], rfl⟩

/-- Making a directory puts an empty one where nothing was. -/
theorem makeDirectory_eq_ok {d d' : Disk α} {path : Text} (h : d.makeDirectory path = .ok d') :
    d.look (d.place path) = none ∧ d' = d.put (some (.directory [])) (d.place path) := by
  rw [makeDirectory, fail_bind_eq_ok] at h
  obtain ⟨p, hp, h⟩ := h
  rw [← locate_names hp]
  split at h
  · cases h
  · rename_i hnone
    cases h
    exact ⟨by simp [look, Entry.look, hnone], rfl⟩

/-- Removing takes away a file or an empty directory, and leaves nothing at its place. -/
theorem remove_eq_ok {d d' : Disk α} {path : Text} (h : d.remove path = .ok d') :
    (d.root.get? (d.place path) = some (.directory []) ∨
      ∃ c, d.root.get? (d.place path) = some (.file c)) ∧ d' = d.put none (d.place path) := by
  rw [remove, fail_bind_eq_ok] at h
  obtain ⟨p, hp, h⟩ := h
  rw [← locate_names hp]
  split at h
  · cases h
  · cases h
  · rename_i x hne hx
    cases h
    refine ⟨?_, rfl⟩
    cases x with
    | file c => exact .inr ⟨c, hx⟩
    | directory es =>
      cases es with
      | nil => exact .inl hx
      | cons a as => exact absurd rfl (hne a as)

/-- Moving takes an entry from one place and puts it at another one, where no directory may be. All
checks that the move makes are gone through once, here, and later proofs have only what they
guarantee. -/
theorem rename_eq_ok {d d' : Disk α} {source target : Text} (h : d.rename source target = .ok d') :
    ∃ x p, d.root.get? (d.place source) = some x ∧ d.locate target = .ok p ∧
      d.look (d.place target) ≠ some none ∧ (∀ c, x = .file c → p.wantsDirectory = false) ∧
      d' = (d.put none (d.place source)).put (some x) (d.place target) := by
  rw [rename] at h
  split at h
  · cases h
  · rename_i x hx
    split at h
    · rename_i old new hold hnew
      have hget := get?_of_find hx
      have hwants := (locate_eq_ok.1 hnew).2.2.2.2
      rw [locate_names hold, locate_names hnew] at h
      rw [locate_names hnew] at hwants
      split at h
      · cases h
      · rename_i c hc
        split at h
        · cases h
        · cases h
          have hlook := Entry.look_eq_file.2 hc
          exact ⟨x, new, hget, hnew, by simp [look, hlook], fun _ _ => hwants c hlook, rfl⟩
      · rename_i hnone
        split at h
        · cases h
        · rename_i hdir
          split at h
          · cases h
          · cases h
            refine ⟨x, new, hget, hnew, by simp [look, Entry.look, hnone], ?_, rfl⟩
            rintro c rfl
            simpa [Entry.isDirectory] using hdir
    · cases h
    · cases h

/-! ## Files that stay -/

/-- A change below the root does not change where paths lead. -/
theorem place_put (d : Disk α) (new : Option (Entry α)) (p : List Text) (path : Text) :
    (d.put new p).place path = d.place path :=
  rfl

/-- A write changes no other file. -/
theorem fileAt_write {d d' : Disk α} {path : Text} {c : α} (h : d.write path c = .ok d')
    {p : List Text} (hp : p ≠ d.place path) : d'.fileAt p = d.fileAt p := by
  obtain ⟨hlook, rfl⟩ := write_eq_ok h
  exact Entry.fileAt_set_leaf (fun more hm => Entry.get?_file c hm) hlook hp

/-- A write leaves all directories. -/
theorem dirs_write {d d' : Disk α} {path : Text} {c : α} (h : d.write path c = .ok d')
    {p : List Text} (hp : d.look p = some none) : d'.look p = some none := by
  obtain ⟨hno, rfl⟩ := write_eq_ok h
  rw [← hp]
  exact Entry.look_set_of_not_isPrefix _ (Entry.not_isPrefix_directory hno hp)

/-- A file that was written is there, unless its directory is missing. -/
theorem look_write {d d' : Disk α} {path : Text} {c : α} (h : d.write path c = .ok d') :
    d'.look (d.place path) = some (some c) ∨ d' = d ∧ d.look (d.place path) = none := by
  obtain ⟨hlook, rfl⟩ := write_eq_ok h
  rcases Entry.look_set_file c hlook with hset | ⟨hsame, hnone⟩
  · exact .inl hset
  · exact .inr ⟨by rw [put, hsame], hnone⟩

/-- So what is in its place afterwards, if anything is, is the file. -/
theorem look_of_write {d d' : Disk α} {path : Text} {c : α} (h : d.write path c = .ok d') :
    d'.look (d'.place path) = some (some c) ∨ d'.look (d'.place path) = none := by
  have hhome : d'.home = d.home := by rw [(write_eq_ok h).2]; rfl
  rw [show d'.place path = d.place path by rw [place, place, hhome]]
  rcases look_write h with hc | ⟨rfl, hnone⟩
  · exact .inl hc
  · exact .inr hnone

/-- A file can be written only under a path that is located and not spelled like that of a
directory. -/
theorem locate_of_write {d d' : Disk α} {path : Text} {c : α} (h : d.write path c = .ok d') :
    ∃ p, d.locate path = .ok p ∧ p.wantsDirectory = false := by
  rw [write, fail_bind_eq_ok] at h
  obtain ⟨p, hp, h⟩ := h
  refine ⟨p, hp, ?_⟩
  split at h
  · cases h
  · rename_i old hold
    exact (locate_eq_ok.1 hp).2.2.2.2 old (Entry.look_eq_file.2 hold)
  · split at h
    · cases h
    · rename_i hwants
      simpa using hwants

/-- A file that was written is found, if it is there at all. -/
theorem find_of_write {d d' : Disk α} {path : Text} {c : α} (h : d.write path c = .ok d')
    (hthere : d'.look (d.place path) = some (some c)) : d'.find path = .ok (.file c) := by
  obtain ⟨p, hp, hwants⟩ := locate_of_write h
  have hdirs : ∀ q, d.look q = some none → d'.look q = some none := fun q hq => dirs_write h hq
  obtain ⟨-, rfl⟩ := write_eq_ok h
  obtain ⟨hne, hzero, hf, hw, -⟩ := locate_eq_ok.1 hp
  refine find_eq_ok.2 ⟨p, locate_eq_ok.2 ⟨hne, hzero, follow_mono hdirs hf, hw, fun _ _ => hwants⟩, ?_⟩
  rw [locate_names hp]
  exact Entry.look_eq_file.1 hthere

/-- A file is still found where its place holds one and all directories are there. -/
theorem find_of_dirs {d d' : Disk α} {path : Text} {c c' : α} (hhome : d'.home = d.home)
    (hdirs : ∀ p, d.look p = some none → d'.look p = some none)
    (hfind : d.find path = .ok (.file c)) (hfile : d'.look (d.place path) = some (some c')) :
    d'.find path = .ok (.file c') := by
  obtain ⟨p, hp, he⟩ := find_eq_ok.1 hfind
  obtain ⟨hne, hzero, hfollow, hwants, hno⟩ := locate_eq_ok.1 hp
  rw [← locate_names hp] at hfile
  apply find_eq_ok.2
  refine ⟨p, locate_eq_ok.2 ⟨hne, hzero, ?_, hwants, fun _ _ => ?_⟩, Entry.look_eq_file.1 hfile⟩
  · rw [startOf, hhome]
    exact follow_mono hdirs hfollow
  · exact hno c (Entry.look_eq_file.2 he)

/-- A file that can be found can be written, and is found again. -/
theorem write_of_find {d : Disk α} {path : Text} {old : α} (h : d.find path = .ok (.file old))
    (c : α) : ∃ d', d.write path c = .ok d' ∧ d'.home = d.home ∧ d'.find path = .ok (.file c) := by
  obtain ⟨p, hp, hold⟩ := find_eq_ok.1 h
  have hwrite : d.write path c = .ok (d.put (some (.file c)) (d.place path)) := by
    refine fail_bind_eq_ok.2 ⟨p, hp, ?_⟩
    rw [← locate_names hp, hold]
    rfl
  refine ⟨_, hwrite, rfl, find_of_write hwrite ?_⟩
  rcases look_write hwrite with hc | ⟨-, hnone⟩
  · exact hc
  · rw [← locate_names hp, look, Entry.look_eq_file.2 hold] at hnone
    cases hnone

/-- Making a directory leaves all files as they are: where it is made nothing was, and a directory
is no file. -/
theorem fileAt_makeDirectory {d d' : Disk α} {path : Text} (h : d.makeDirectory path = .ok d')
    (p : List Text) : d'.fileAt p = d.fileAt p := by
  obtain ⟨hnone, rfl⟩ := makeDirectory_eq_ok h
  by_cases hp : p = d.place path
  · subst hp
    have hbefore : d.fileAt (d.place path) = none := by
      rw [fileAt, Entry.fileAt, show d.root.look _ = none from hnone]
      rfl
    rw [hbefore, fileAt, Entry.fileAt]
    rcases Entry.set_some_cases d.root (.directory []) (d.place path) with hsame | hset
    · rw [put, hsame]
      exact hbefore
    · have hd := hset []
      rw [List.append_nil] at hd
      rw [put, Entry.look, hd]
      rfl
  · refine Entry.fileAt_set_leaf (fun more hm => Entry.get?_nil_directory hm) ?_ hp
    rw [show d.root.look _ = none from hnone]
    simp

/-- The disk once the directories above a spelling are made. -/
def Above (fuel : Nat) (d : Disk α) (path : Text) (d₁ : Disk α) : Prop :=
  match parent? path with
  | some up => makeDirectories fuel d up = .ok d₁
  | none => d₁ = d

/-- The last step of making directories: it is no failure when the last one is there by then. -/
def makeLast (d : Disk α) (path : Text) : Except DiskError (Disk α) :=
  match d.makeDirectory path with
  | .ok d => .ok d
  | .error e => if (d.find path).toOption.any Entry.isDirectory then .ok d else .error e

/-- The last step on the way to a directory makes it, or finds it there. -/
theorem makeLast_eq_ok {d d' : Disk α} {path : Text} (h : makeLast d path = .ok d') :
    d.makeDirectory path = .ok d' ∨
      d' = d ∧ (d.find path).toOption.any Entry.isDirectory = true := by
  unfold makeLast at h
  split at h
  · rename_i hmade
    cases h
    exact .inl hmade
  · split at h
    · rename_i hany
      cases h
      exact .inr ⟨rfl, hany⟩
    · cases h

/-- Where nothing is found, the directories above come first. It unfolds one turn of the recursion,
and the proofs about making directories start from it. -/
theorem above_of_makeDirectories {fuel : Nat} {d d' : Disk α} {path : Text} {x : Cause}
    (hfind : d.find path = .error x) (h : makeDirectories (fuel + 1) d path = .ok d') :
    ∃ d₁, Above fuel d path d₁ ∧ (d₁.makeDirectory path = .ok d' ∨
      d' = d₁ ∧ (d₁.find path).toOption.any Entry.isDirectory = true) := by
  rw [makeDirectories, hfind] at h
  cases hup : parent? path with
  | none =>
    rw [hup] at h
    exact ⟨d, by simp [Above, hup], makeLast_eq_ok h⟩
  | some up =>
    rw [hup] at h
    cases hd₁ : makeDirectories fuel d up with
    | error e => simp [hd₁, bind, Except.bind] at h
    | ok d₁ =>
      simp only [hd₁, bind, Except.bind] at h
      exact ⟨d₁, by simp [Above, hup, hd₁], makeLast_eq_ok h⟩

/-- What making one directory does over and over, making all of them does. The induction is on the
fuel, which bounds how far up the path is followed. -/
theorem makeDirectories_induction {R : Disk α → Disk α → Prop} (hrefl : ∀ d, R d d)
    (htrans : ∀ {d₁ d₂ d₃}, R d₁ d₂ → R d₂ d₃ → R d₁ d₃)
    (hstep : ∀ {d d' path}, makeDirectory d path = .ok d' → R d d') {fuel : Nat} {d d' : Disk α}
    {path : Text} (h : makeDirectories fuel d path = .ok d') : R d d' := by
  induction fuel generalizing d d' path with
  | zero =>
    cases h
    exact hrefl d
  | succ fuel ih =>
    cases hfind : d.find path with
    | ok e =>
      rw [makeDirectories, hfind] at h
      cases e with
      | directory es =>
        cases h
        exact hrefl d
      | file c => cases h
    | error x =>
      obtain ⟨d₁, habove, hlast⟩ := above_of_makeDirectories hfind h
      have hraised : R d d₁ := by
        unfold Above at habove
        split at habove
        · exact ih habove
        · cases habove
          exact hrefl d
      rcases hlast with hmade | ⟨rfl, -⟩
      · exact htrans hraised (hstep hmade)
      · exact hraised

/-- Making directories changes no file. -/
theorem makeDirectories_ok {fuel : Nat} {d d' : Disk α} {path : Text}
    (h : makeDirectories fuel d path = .ok d') :
    d'.home = d.home ∧ ∀ p, d'.fileAt p = d.fileAt p := by
  refine makeDirectories_induction (R := fun d d' => d'.home = d.home ∧ ∀ p, d'.fileAt p = d.fileAt p)
    (fun _ => ⟨rfl, fun _ => rfl⟩) ?_ ?_ h
  · intro d₁ d₂ d₃ h₁ h₂
    exact ⟨h₂.1.trans h₁.1, fun p => (h₂.2 p).trans (h₁.2 p)⟩
  · intro d d' path h
    have hhome : d'.home = d.home := by rw [(makeDirectory_eq_ok h).2]; rfl
    exact ⟨hhome, fileAt_makeDirectory h⟩

/-- Making directories takes none away. -/
theorem look_makeDirectories {fuel : Nat} {d d' : Disk α} {path : Text}
    (h : makeDirectories fuel d path = .ok d') {p : List Text} (hp : d.look p = some none) :
    d'.look p = some none := by
  refine makeDirectories_induction (R := fun d d' => d.look p = some none → d'.look p = some none)
    (fun _ h => h) (fun h₁ h₂ h => h₂ (h₁ h)) ?_ h hp
  intro d d' path h hp
  obtain ⟨hnone, rfl⟩ := makeDirectory_eq_ok h
  have hno : d.root.look (d.place path) ≠ some none := by
    rw [show d.root.look _ = none from hnone]
    simp
  rw [← hp]
  exact Entry.look_set_of_not_isPrefix _ (Entry.not_isPrefix_directory hno hp)

/-- Making all directories on the way leaves all files as they are. -/
theorem makeAll_ok {d d' : Disk α} {path : Text} (h : d.makeAll path = .ok d') :
    d'.home = d.home ∧ ∀ p, d'.fileAt p = d.fileAt p :=
  makeDirectories_ok h

/-- Directories that are there stay there when others are made. -/
theorem look_makeAll {d d' : Disk α} {path : Text} (h : d.makeAll path = .ok d') {p : List Text}
    (hp : d.look p = some none) : d'.look p = some none :=
  look_makeDirectories h hp

/-- The working directory is still there. -/
theorem look_home_makeAll {d d' : Disk α} {path : Text} (h : d.makeAll path = .ok d')
    (hhome : d.look d.home = some none) : d'.look d'.home = some none := by
  rw [(makeAll_ok h).1]
  exact look_makeAll h hhome

/-! ## Files that are read back -/

/-- A directory is above another one that is there. -/
theorem look_dropLast {d : Disk α} {p : List Text} (h : d.look p = some none) :
    d.look p.dropLast = some none := by
  rcases List.eq_nil_or_concat p with rfl | ⟨dir, name, rfl⟩
  · exact h
  · rw [List.concat_eq_append] at h ⊢
    rw [List.dropLast_concat]
    exact Entry.look_of_append (List.cons_ne_nil name []) (by rw [show d.root.look _ = _ from h]; simp)

/-- Spellings start in a directory, when the working directory is there. -/
theorem look_startOf {d : Disk α} (hhome : d.look d.home = some none) (path : Text) :
    d.look (d.startOf path) = some none := by
  unfold startOf
  split
  · by_cases hnil : d.home = []
    · rwa [hnil] at hhome
    · refine Entry.look_of_append hnil ?_
      rw [List.nil_append, show d.root.look _ = _ from hhome]
      simp
  · exact hhome

/-- A spelling that starts in a directory leads to an entry of a directory, or to a directory again.
So above any place that was reached there are directories. -/
theorem look_of_follow {d : Disk α} {reached names out : List Text}
    (hreached : d.look reached = some none) (h : follow d.root reached names = .ok out) :
    d.look out.dropLast = some none := by
  induction names generalizing reached with
  | nil =>
    cases h
    exact look_dropLast hreached
  | cons name more ih =>
    rw [follow] at h
    split at h
    · exact ih hreached h
    · split at h
      · exact ih (look_dropLast hreached) h
      · split at h
        · cases h
        · dsimp only at h
          split at h
          · cases h
            rwa [List.dropLast_concat]
          · split at h
            · cases h
            · cases h
            · rename_i es hes
              exact ih (Entry.look_eq_directory.2 ⟨es, hes⟩) h

/-- A file that was written is read back, when the working directory is there. Without it a path
that is not rooted would lead nowhere. -/
theorem read_write {d d' : Disk α} {path : Text} {c : α} (hhome : d.look d.home = some none)
    (h : d.write path c = .ok d') : d'.read path = .ok c := by
  obtain ⟨p, hp, -⟩ := locate_of_write h
  have hstart := look_startOf hhome path
  have hdir : d.look (d.place path).dropLast = some none := by
    rw [← locate_names hp]
    exact look_of_follow hstart (locate_eq_ok.1 hp).2.2.1
  refine read_eq_ok.2 (find_of_write h ?_)
  obtain ⟨hno, rfl⟩ := write_eq_ok h
  rcases List.eq_nil_or_concat (d.place path) with hnil | ⟨dir, name, hplace⟩
  · rw [hnil] at hno hdir
    exact absurd hdir hno
  · rw [hplace, List.concat_eq_append] at hdir ⊢
    rw [List.dropLast_concat] at hdir
    exact Entry.look_set_append (.file c) name hdir

/-! ## Contents that stay -/

/-- The files hold nothing but what files held before, and `new`. -/
def Brings (new : List α) (d d' : Disk α) : Prop :=
  ∀ c ∈ d'.contents, c ∈ d.contents ∨ c ∈ new

namespace Brings

variable {new : List α} {d₁ d₂ d₃ : Disk α}

/-- Nothing new comes to a disk that stays as it is. -/
theorem refl (new : List α) (d : Disk α) : Brings new d d :=
  fun _ hc => .inl hc

/-- What two changes bring, each of them nothing but some contents, they bring together. -/
theorem trans (h₁ : Brings new d₁ d₂) (h₂ : Brings new d₂ d₃) : Brings new d₁ d₃ := by
  intro c hc
  rcases h₂ c hc with hc | hc
  · exact h₁ c hc
  · exact .inr hc

/-- A change that brings no more than some contents brings no more than them and others. -/
theorem mono {more : List α} (h : Brings new d₁ d₂) (hsub : new ⊆ more) : Brings more d₁ d₂ :=
  fun c hc => (h c hc).imp_right fun hn => hsub hn

end Brings

/-- To put an entry somewhere brings what the entry contains. All changes of a disk are made of such
steps. -/
theorem brings_put (d : Disk α) {new : Option (Entry α)} {p : List Text} {cs : List α}
    (h : ∀ x, new = some x → ∀ c ∈ x.contents, c ∈ d.contents ∨ c ∈ cs) :
    Brings cs d (d.put new p) := by
  intro c hc
  rcases Entry.mem_contents_set hc with hc | ⟨x, hx, hc⟩
  · exact .inl hc
  · exact h x hx c hc

/-- A write brings what is written. -/
theorem brings_write {d d' : Disk α} {path : Text} {c : α} (h : d.write path c = .ok d') :
    Brings [c] d d' := by
  obtain ⟨-, rfl⟩ := write_eq_ok h
  refine brings_put d fun x hx c' hc' => ?_
  cases hx
  exact .inr hc'

/-- Making directories brings no content. -/
theorem brings_makeAll {d d' : Disk α} {path : Text} (h : d.makeAll path = .ok d') :
    Brings [] d d' := by
  refine makeDirectories_induction (R := Brings []) (Brings.refl []) Brings.trans ?_ h
  intro d d' path h
  obtain ⟨-, rfl⟩ := makeDirectory_eq_ok h
  refine brings_put d fun x hx c' hc' => ?_
  cases hx
  exact .inr hc'

/-- Removing brings no content. -/
theorem brings_remove {d d' : Disk α} {path : Text} (h : d.remove path = .ok d') :
    Brings [] d d' := by
  obtain ⟨-, rfl⟩ := remove_eq_ok h
  exact brings_put d fun x hx => by cases hx

/-- Moving brings no content: what it moves was on the disk before. -/
theorem brings_rename {d d' : Disk α} {source target : Text}
    (h : d.rename source target = .ok d') : Brings [] d d' := by
  obtain ⟨x, p, hx, -, -, -, rfl⟩ := rename_eq_ok h
  have hmoved : ∀ c ∈ x.contents, c ∈ d.contents := fun c hc => Entry.mem_contents_of_get? hx hc
  intro c hc
  rcases Entry.mem_contents_set hc with hc | ⟨y, hy, hc⟩
  · exact brings_put d (fun y hy => by cases hy) c hc
  · cases hy
    exact .inl (hmoved c hc)

/-- A change keeps a relation when every success of it does; a failure leaves the disk as it was. -/
theorem keeps_change {ε : Type} {R : Disk α → Disk α → Prop} (hrefl : ∀ d, R d d)
    (wrap : DiskError → ε) {f : Disk α → Except DiskError (Disk α)}
    (hf : ∀ d d', f d = .ok d' → R d d') : Keeps R (change wrap f) := by
  refine fun d => ⟨fun b d' h => ?_, fun e d' h => ?_⟩ <;> rw [change] at h <;> split at h <;>
    cases h
  · rename_i h
    exact hf d d' h
  · exact hrefl d

/-- A change, as work on a disk, succeeds with what the change gives. -/
theorem change_eq_ok {ε : Type} {wrap : DiskError → ε} {f : Disk α → Except DiskError (Disk α)}
    {d d' : Disk α} {u : Unit} : change wrap f d = .ok u d' ↔ f d = .ok d' := by
  rw [change]
  cases f d <;> simp

end Disk

end NovelScript.Files
