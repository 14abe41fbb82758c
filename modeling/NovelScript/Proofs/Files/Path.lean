import NovelScript.Files.Atomic
import NovelScript.Proofs.Text.Split

/-!
# Where a spelling leads

A path has many spellings. The lemmas here say what the operations on spellings do to the place that
a spelling means, seen from a working directory `home`: its names from the root on, `placeOf home`.

* **`placeOf_clean`**: the shortest spelling means the same place. Cleaning keeps the clean path
  itself (`ofText_clean`), because the names of a clean path are a stack that pushing them again
  builds up unchanged (`Path.Tidy`, `foldl_push_reverse`).
* **`placeOf_splitLast`** and **`placeOf_temporaryPath`**: a path means the entry of its last name
  in its directory, and the file that is written first stands in the same directory.
* **`relative?_below`**: what lies below a base is seen from there as the names below it.
-/

namespace NovelScript.Files

/-- A name that an entry of a directory can have. -/
def Proper (name : Text) : Prop :=
  name ≠ [] ∧ slash ∉ name ∧ name ≠ dot ∧ name ≠ dotDot

instance (name : Text) : Decidable (Proper name) :=
  inferInstanceAs (Decidable (_ ∧ _ ∧ _ ∧ _))

/-! ## Clean paths -/

namespace Path

/-- Names, innermost first, that cleaning leaves alone: a `..` stands only on top of others, and
below the root there is none. -/
def Tidy (rooted : Bool) : List Text → Prop
  | [] => True
  | name :: out =>
    (name ≠ [] ∧ slash ∉ name ∧ name ≠ dot) ∧
      (name = dotDot → rooted = false ∧ ∀ n ∈ out, n = dotDot) ∧ Tidy rooted out

/-- No names at all are tidy. -/
theorem tidy_nil {rooted : Bool} : Tidy rooted [] := trivial

/-- A proper name is put behind the names that are there. -/
theorem push_of_proper {name : Text} (h : Proper name) (rooted : Bool) (out : List Text) :
    push rooted out name = name :: out := by
  obtain ⟨hne, -, hdot, hdd⟩ := h
  simp [push, hne, hdot, hdd]

/-- One more name, be it `.` or `..`, leaves the names tidy. The cases are those of the names that
mean no step down: none at all, one that stays, and one that takes the last name back. -/
theorem Tidy.push {rooted : Bool} {out : List Text} {name : Text} (h : Tidy rooted out)
    (hname : slash ∉ name) : Tidy rooted (push rooted out name) := by
  rw [Path.push.eq_def]
  split
  · exact h
  · rename_i hskip
    simp only [Bool.or_eq_true, List.isEmpty_iff, beq_iff_eq, not_or] at hskip
    split
    · rename_i hdd
      have hdd : name = dotDot := by simpa using hdd
      cases out with
      | nil =>
        cases rooted with
        | true => trivial
        | false => exact ⟨by decide, fun _ => ⟨rfl, by simp⟩, trivial⟩
      | cons last more =>
        dsimp only
        split
        · rename_i hlast
          have hlast : last = dotDot := by simpa using hlast
          -- one more step up on top of steps up
          obtain ⟨hr, hall⟩ := h.2.1 hlast
          refine ⟨hdd ▸ ⟨hskip.1, hname, hskip.2⟩, fun _ => ⟨hr, ?_⟩, h⟩
          intro n hn
          rcases List.mem_cons.1 hn with rfl | hn
          · exact hlast
          · exact hall n hn
        · exact h.2.2
    · rename_i hdd
      exact ⟨⟨hskip.1, hname, hskip.2⟩, fun hd => absurd (by simpa using hd) hdd, h⟩

/-- Any number of names leave the names tidy, put down one behind the other. -/
theorem Tidy.foldl_push {rooted : Bool} {names out : List Text} (h : Tidy rooted out)
    (hnames : ∀ name ∈ names, slash ∉ name) : Tidy rooted (names.foldl (Path.push rooted) out) := by
  induction names generalizing out with
  | nil => exact h
  | cons name more ih =>
    exact ih (h.push (hnames name List.mem_cons_self)) fun n hn =>
      hnames n (List.mem_cons_of_mem _ hn)

/-- Tidy names are neither empty nor do they hold a slash, so they can be joined and split again. -/
theorem Tidy.not_slash {rooted : Bool} {out : List Text} (h : Tidy rooted out) :
    ∀ name ∈ out, name ≠ [] ∧ slash ∉ name := by
  induction out with
  | nil => simp
  | cons a out ih =>
    intro name hn
    rcases List.mem_cons.1 hn with rfl | hn
    · exact ⟨h.1.1, h.1.2.1⟩
    · exact ih h.2.2 name hn

/-- Tidy names are put down as they are; there is nothing left to tidy up. The stack holds names
from the last to the first, which is why they are turned around. -/
theorem foldl_push_reverse {rooted : Bool} {out : List Text} (h : Tidy rooted out) :
    out.reverse.foldl (push rooted) [] = out := by
  induction out with
  | nil => rfl
  | cons name out ih =>
    rw [List.reverse_cons, List.foldl_append, ih h.2.2, List.foldl_cons, List.foldl_nil]
    by_cases hdd : name = dotDot
    · obtain ⟨rfl, hall⟩ := h.2.1 hdd
      cases out with
      | nil => subst hdd; rfl
      | cons last more =>
        have hlast := hall last List.mem_cons_self
        subst hdd hlast
        rfl
    · exact push_of_proper ⟨h.1.1, h.1.2.1, h.1.2.2, hdd⟩ rooted out

/-- Every path that is read has tidy names. -/
theorem tidy_ofText (s : Text) : Tidy (ofText s).rooted (ofText s).names.reverse := by
  rw [ofText, List.reverse_reverse]
  exact Tidy.foldl_push trivial fun name hn => Text.not_mem_of_mem_splitAt hn

/-- Names that are joined do not begin with a slash. -/
theorem head?_joined {names : List Text} (h : ∀ name ∈ names, name ≠ [] ∧ slash ∉ name) :
    (joined names).head? ≠ some slash := by
  cases names with
  | nil => simp [joined, Text.join]
  | cons a more =>
    obtain ⟨hne, hs⟩ := h a List.mem_cons_self
    obtain ⟨b, r, rfl⟩ := List.exists_cons_of_ne_nil hne
    have hb : b ≠ slash := fun hb => hs (hb ▸ List.mem_cons_self)
    cases more <;> simpa [joined, Text.join, List.intercalate] using hb

/-- A tidy path is written with a slash in front exactly when it starts at the root. -/
theorem head?_toText {p : Path} (h : Tidy p.rooted p.names.reverse) :
    (p.toText.head? = some slash) ↔ p.rooted = true := by
  have hn : ∀ name ∈ p.names, name ≠ [] ∧ slash ∉ name := fun name hn =>
    h.not_slash name (List.mem_reverse.2 hn)
  rw [toText]
  split
  · simp_all
  · split
    · rename_i hr _
      simp only [hr]
      decide
    · rename_i hr _
      simpa [hr] using head?_joined hn

/-- A tidy path, written and split at its slashes, gives its names again. A path without names is a
dot or a slash, and neither gives a name. -/
theorem splitAt_toText {p : Path} (h : Tidy p.rooted p.names.reverse) :
    (Text.splitAt slash p.toText).foldl (push p.rooted) [] = p.names.reverse := by
  have hn : ∀ name ∈ p.names, slash ∉ name := fun name hn =>
    (h.not_slash name (List.mem_reverse.2 hn)).2
  have hfold : p.names.foldl (push p.rooted) [] = p.names.reverse := by
    simpa using foldl_push_reverse h
  have hempty (r : Bool) (out : List Text) : push r out [] = out := rfl
  rw [toText]
  split
  · rename_i hr
    rw [Text.splitAt_cons_self, List.foldl_cons, hempty]
    by_cases he : p.names = []
    · rw [he]; rfl
    · rw [joined, Text.splitAt_join he hn, hfold]
  · rename_i hr
    split
    · rename_i he
      rw [List.isEmpty_iff.1 he]
      rfl
    · rename_i he
      rw [joined, Text.splitAt_join (by simpa using he) hn, hfold]

/-- **A tidy path can be written and read again.** The dot of an empty path and the slash of a
rooted one are read as no names. -/
theorem ofText_toText {p : Path} (h : Tidy p.rooted p.names.reverse) : ofText p.toText = p := by
  have hr : (p.toText.head? == some slash) = p.rooted := by
    rw [Bool.eq_iff_iff, beq_iff_eq]
    exact head?_toText h
  rw [ofText, hr, splitAt_toText h, List.reverse_reverse]

end Path

open NovelScript.Files.Path (Tidy ofText push)

/-- To clean a path does not change what it is read as. -/
theorem ofText_clean (s : Text) : ofText (clean s) = ofText s :=
  Path.ofText_toText (Path.tidy_ofText s)

/-- Cleaning twice is cleaning once. -/
theorem clean_clean (s : Text) : clean (clean s) = clean s := by
  rw [clean, ofText_clean, ← clean]

/-- A clean path is never the empty text: where nothing is left there is a dot. -/
theorem clean_ne_nil (s : Text) : clean s ≠ [] := by
  have h := Path.tidy_ofText s
  rw [clean, Path.toText]
  split
  · simp
  · split
    · decide
    · rename_i hne
      obtain ⟨a, more, ha⟩ := List.exists_cons_of_ne_nil (by simpa using hne)
      have hmem : a ∈ (ofText s).names.reverse := by simp [ha]
      obtain ⟨b, r, rfl⟩ := List.exists_cons_of_ne_nil (h.not_slash a hmem).1
      cases more <;> simp [ha, Path.joined, Text.join, List.intercalate]

/-- A path with a slash in it is read in two parts, where the second part may go up into the
first. -/
theorem ofText_append_cons {a : Text} (ha : a ≠ []) (b : Text) :
    ofText (a ++ slash :: b) = ⟨(ofText a).rooted,
      ((Text.splitAt slash b).foldl (push (ofText a).rooted) (ofText a).names.reverse).reverse⟩ := by
  have hhead : (a ++ slash :: b).head? = a.head? := by
    rw [List.head?_append, Option.or_of_isSome (List.isSome_head?.2 ha)]
  simp only [ofText, hhead, Text.splitAt_append_cons, List.foldl_append, List.reverse_reverse]

/-- A name after a path is one more name of the clean path. -/
theorem ofText_join {a name : Text} (ha : a ≠ []) (hname : Proper name) :
    ofText (join a name) = ⟨(ofText a).rooted, (ofText a).names ++ [name]⟩ := by
  have hne : a.isEmpty = false := by simpa using ha
  rw [join, hne, if_neg (by simp), ofText_clean, ofText_append_cons ha,
    Text.splitAt_of_not_mem hname.2.1, List.foldl_cons, List.foldl_nil,
    Path.push_of_proper hname]
  simp

/-- A path that was joined is clean already. -/
theorem clean_join {a : Text} (ha : a ≠ []) (name : Text) : clean (join a name) = join a name := by
  have hne : a.isEmpty = false := by simpa using ha
  rw [join, hne, if_neg (by simp), clean_clean]

/-! ## Places -/

/-- The names after one more name of a spelling. -/
def enter (reached : List Text) (name : Text) : List Text :=
  if name.isEmpty || name == dot then reached
  else if name == dotDot then reached.dropLast
  else reached ++ [name]

/-- Where a spelling leads from a working directory, whatever is there. -/
def placeOf (home : List Text) (path : Text) : List Text :=
  (Text.splitAt slash path).foldl enter (if path.head? = some slash then [] else home)

/-- An empty name leads nowhere else. -/
theorem enter_nil (reached : List Text) : enter reached [] = reached := rfl

/-- A proper name leads one level down. -/
theorem enter_of_proper {name : Text} (h : Proper name) (reached : List Text) :
    enter reached name = reached ++ [name] := by
  obtain ⟨hne, -, hdot, hdd⟩ := h
  simp [enter, hne, hdot, hdd]

/-- Pushing a name on a stack and entering it from where the stack leads is the same. For `..` both
take back a name, or both stay at the root. -/
theorem foldl_enter_push {rooted : Bool} {start out : List Text} {name : Text}
    (hstart : rooted = true → start = []) (hout : Tidy rooted out) :
    (push rooted out name).reverse.foldl enter start =
      enter (out.reverse.foldl enter start) name := by
  rw [Path.push.eq_def, enter]
  split
  · rfl
  · split
    · cases out with
      | nil =>
        cases rooted with
        | true => rw [hstart rfl]; rfl
        | false => rfl
      | cons last more =>
        dsimp only
        split
        · rename_i hskip hname hlast
          have hlast : last = dotDot := by simpa using hlast
          rw [List.reverse_cons, List.foldl_append]
          rfl
        · rename_i hskip hname hlast
          have hproper : Proper last := ⟨hout.1.1, hout.1.2.1, hout.1.2.2, by simpa using hlast⟩
          rw [List.reverse_cons, List.foldl_append, List.foldl_cons, List.foldl_nil,
            enter_of_proper hproper, List.dropLast_concat]
    · rename_i hskip hname
      rw [List.reverse_cons, List.foldl_append, List.foldl_cons, List.foldl_nil, enter,
        if_neg hskip, if_neg hname]

/-- **To tidy up names does not change where they lead.** That `..` at the root stays there is the
same on both sides, which is what the hypothesis about the start is for. -/
theorem foldl_enter_foldl_push {rooted : Bool} {start out : List Text} (names : List Text)
    (hstart : rooted = true → start = []) (hout : Tidy rooted out)
    (hnames : ∀ name ∈ names, slash ∉ name) :
    (names.foldl (push rooted) out).reverse.foldl enter start =
      names.foldl enter (out.reverse.foldl enter start) := by
  induction names generalizing out with
  | nil => rfl
  | cons name more ih =>
    have hname := hnames name List.mem_cons_self
    rw [List.foldl_cons, List.foldl_cons,
      ih (hout.push hname) fun n hn => hnames n (List.mem_cons_of_mem _ hn),
      foldl_enter_push hstart hout]

/-- A path leads where its tidy names lead, from the root or from the working directory. -/
theorem placeOf_eq (home : List Text) (path : Text) :
    placeOf home path =
      (ofText path).names.foldl enter (if (ofText path).rooted then [] else home) := by
  rw [placeOf, ofText]
  dsimp only
  by_cases hr : path.head? = some slash
  · rw [foldl_enter_foldl_push _ (by simp [hr]) Path.tidy_nil fun n hn => Text.not_mem_of_mem_splitAt hn]
    simp [hr]
  · rw [foldl_enter_foldl_push _ (by simp [hr]) Path.tidy_nil fun n hn => Text.not_mem_of_mem_splitAt hn]
    simp [hr]

/-- To clean a path does not change where it leads. -/
theorem placeOf_clean (home : List Text) (path : Text) :
    placeOf home (clean path) = placeOf home path := by
  rw [placeOf_eq, placeOf_eq, ofText_clean]

/-- A proper name joined to a path leads one level below it. -/
theorem placeOf_join {a name : Text} (ha : a ≠ []) (hname : Proper name) (home : List Text) :
    placeOf home (join a name) = placeOf home a ++ [name] := by
  rw [placeOf_eq, ofText_join ha hname, List.foldl_append, List.foldl_cons, List.foldl_nil,
    enter_of_proper hname, ← placeOf_eq]

/-! ## The last name -/

/-- In front of the last name stands everything up to the last slash. -/
theorem splitLast_fst (s : Text) : (splitLast s).1 = (s.reverse.dropWhile (· != slash)).reverse := by
  have hs : s = (s.reverse.dropWhile (· != slash)).reverse ++
      (s.reverse.takeWhile (· != slash)).reverse := by
    rw [← List.reverse_append, List.takeWhile_append_dropWhile, List.reverse_reverse]
  have hlen := congrArg List.length hs
  rw [List.length_append] at hlen
  rw [splitLast]
  dsimp only
  generalize (s.reverse.takeWhile (· != slash)).reverse = name at *
  generalize (s.reverse.dropWhile (· != slash)).reverse = up at *
  rw [hs, List.length_append, Nat.add_sub_cancel, List.take_left]

/-- The last name holds no slash. -/
theorem not_mem_splitLast (s : Text) : slash ∉ (splitLast s).2 := by
  intro hmem
  have := List.all_eq_true.1 List.all_takeWhile slash (List.mem_reverse.1 hmem)
  simp at this

/-- The two parts of a path make up the path. -/
theorem splitLast_append (s : Text) : (splitLast s).1 ++ (splitLast s).2 = s := by
  rw [splitLast_fst, splitLast, ← List.reverse_append, List.takeWhile_append_dropWhile,
    List.reverse_reverse]

/-- A path is a name, or a path, a slash and a name. It is the case distinction for everything that
looks at the last name. -/
theorem splitLast_cases (s : Text) :
    splitLast s = ([], s) ∨
      ∃ up name, s = up ++ slash :: name ∧ splitLast s = (up ++ [slash], name) := by
  have happ := splitLast_append s
  cases hd : s.reverse.dropWhile (· != slash) with
  | nil =>
    have hup : (splitLast s).1 = [] := by rw [splitLast_fst, hd, List.reverse_nil]
    rw [hup, List.nil_append] at happ
    exact .inl (Prod.ext hup happ)
  | cons b r =>
    have hb : b = slash := by
      have := List.head_dropWhile_not (· != slash) (l := s.reverse) (by simp [hd])
      simpa [hd] using this
    have hup : (splitLast s).1 = r.reverse ++ [slash] := by rw [splitLast_fst, hd, hb]; simp
    rw [hup, List.append_assoc] at happ
    exact .inr ⟨r.reverse, (splitLast s).2, happ.symm, Prod.ext hup rfl⟩

/-- The directory of a path is never the empty text. -/
theorem directory_ne_nil (s : Text) : directory s ≠ [] :=
  clean_ne_nil _

/-- A path leads to its last name in its directory. -/
theorem placeOf_splitLast (home : List Text) (s : Text) :
    placeOf home s = enter (placeOf home (directory s)) (splitLast s).2 := by
  rw [directory, placeOf_clean]
  have hmem := not_mem_splitLast s
  rcases splitLast_cases s with h | ⟨up, name, hs, h⟩
  · rw [h] at hmem ⊢
    have hhead : s.head? ≠ some slash := fun hh => hmem (List.mem_of_head? hh)
    simp [placeOf, Text.splitAt_of_not_mem hmem, hhead, Text.splitAt, enter_nil]
  · rw [h] at hmem ⊢
    have hhead : (up ++ slash :: name).head? = (up ++ [slash]).head? := by
      cases up <;> rfl
    simp only [placeOf, hs, hhead, Text.splitAt_append_cons, List.foldl_append,
      Text.splitAt_of_not_mem hmem, Text.splitAt, List.foldl_cons, List.foldl_nil, enter_nil]

/-- The base of a path is its last name, if there is one. -/
theorem base_eq {s : Text} (h : (splitLast s).2 ≠ []) : base s = (splitLast s).2 := by
  have hs : s ≠ [] := by
    rintro rfl
    exact h rfl
  -- the last byte is that of the last name, so no slash is trimmed
  have htrim : s.reverse.dropWhile (· == slash) = s.reverse := by
    obtain ⟨b, r, hr⟩ := List.exists_cons_of_ne_nil (List.reverse_ne_nil_iff.2 hs)
    by_cases hb : b = slash
    · exact absurd (by simp [splitLast, hr, hb]) h
    · simp [hr, hb]
  simp [base, hs, htrim, h]

/-- The base of a path holds no slash, or it is the root. -/
theorem base_cases (s : Text) : slash ∉ base s ∨ base s = [slash] := by
  rw [base]
  split
  · exact .inl (by decide)
  · dsimp only
    split
    · exact .inr rfl
    · exact .inl (not_mem_splitLast _)

/-- A name of three bytes or more is neither `.` nor `..`, so only slashes must be ruled out. -/
theorem proper_of_length {name : Text} (hlen : 2 < name.length) (h : slash ∉ name) : Proper name := by
  refine ⟨?_, h, ?_, ?_⟩ <;> rintro rfl <;> exact absurd hlen (by decide)

/-- The name of a copy. -/
def copyName (path stamp : Text) : Text :=
  backupStart path ++ stamp ++ backupEnding

/-- The name of the file that is written first. -/
def temporaryName (path salt : Text) : Text :=
  Text.lit "." ++ base path ++ Text.lit ".tmp-" ++ salt

section

variable {path stamp salt : Text}

/-- The base of a path that ends in a proper name is proper. -/
theorem proper_base (h : Proper (splitLast path).2) : Proper (base path) := by
  rwa [base_eq h.1]

/-- The name of a copy is a proper one, because of its ending. -/
theorem proper_copyName (hbase : slash ∉ base path) (hstamp : slash ∉ stamp) :
    Proper (copyName path stamp) := by
  have hlen : backupEnding.length = 4 := by decide
  have hpoint : slash ∉ Text.lit "." := by decide
  have hending : slash ∉ backupEnding := by decide
  apply proper_of_length
  · simp only [copyName, List.length_append, hlen]
    omega
  · simp [copyName, backupStart, hbase, hpoint, hstamp, hending]

/-- The name under which a replacement is prepared is a proper one as well. -/
theorem proper_temporaryName (hbase : slash ∉ base path) (hsalt : slash ∉ salt) :
    Proper (temporaryName path salt) := by
  have hlen : (Text.lit ".tmp-").length = 5 := by decide
  have hpoint : slash ∉ Text.lit "." := by decide
  have htmp : slash ∉ Text.lit ".tmp-" := by decide
  apply proper_of_length
  · simp only [temporaryName, List.length_append, hlen]
    omega
  · simp [temporaryName, hbase, hpoint, htmp, hsalt]

/-- The name under which a replacement is prepared is longer than that of the file by its salt and
six bytes. -/
theorem length_temporaryName (path salt : Text) :
    (temporaryName path salt).length = (base path).length + salt.length + 6 := by
  have hlen : (Text.lit ".tmp-").length = 5 := by decide
  have hpoint : (Text.lit ".").length = 1 := by decide
  simp only [temporaryName, List.length_append, hlen, hpoint]
  omega

/-- A replacement is not prepared in the file itself. The lengths tell the two names apart. -/
theorem temporaryName_ne_base (path salt : Text) : temporaryName path salt ≠ base path := by
  intro h
  have := congrArg List.length h
  rw [length_temporaryName] at this
  omega

/-- A replacement is not prepared in the place of the state directory: its name is the longer
one. -/
theorem temporaryName_ne_state (hbase : base path ≠ []) (salt : Text) :
    temporaryName path salt ≠ stateName := by
  have hstate : stateName.length = 6 := by decide
  have hpos := List.length_pos_iff.2 hbase
  intro h
  have := congrArg List.length h
  rw [length_temporaryName, hstate] at this
  omega

/-- The directory of the copies is never the empty text. -/
theorem backupDirectory_ne_nil (dir : Text) : backupDirectory dir ≠ [] := by
  rw [backupDirectory, join]
  split <;> exact clean_ne_nil _

end

/-- The file that is written first stands in the directory of the path, under another name. The path
may have no last name at all, and then the directory has a spelling of its own. -/
theorem placeOf_temporaryPath {salt : Text} (hsalt : slash ∉ salt) (home : List Text) (path : Text) :
    ∃ name, name ≠ (splitLast path).2 ∧
      placeOf home (temporaryPath path salt) = placeOf home (directory path) ++ [name] := by
  rcases base_cases path with hbase | hbase
  · have hproper := proper_temporaryName hbase hsalt
    refine ⟨temporaryName path salt, ?_, placeOf_join (directory_ne_nil path) hproper home⟩
    by_cases h : (splitLast path).2 = []
    · rw [h]
      exact hproper.1
    · rw [← base_eq h]
      exact temporaryName_ne_base path salt
  · -- only slashes: the name begins with the directory itself
    have hname : (splitLast path).2 = [] := by
      refine Classical.byContradiction fun h => not_mem_splitLast path ?_
      rw [← base_eq h, hbase]
      exact List.mem_singleton_self slash
    have hpoint : slash ∉ Text.lit "." := by decide
    have htmp : slash ∉ Text.lit ".tmp-" := by decide
    have htmplen : (Text.lit ".tmp-").length = 5 := by decide
    have hproper : Proper (Text.lit ".tmp-" ++ salt) := by
      refine proper_of_length ?_ ?_
      · simp only [List.length_append, htmplen]
        omega
      · simp [htmp, hsalt]
    have hjoin : Text.lit "." ++ base path ++ Text.lit ".tmp-" ++ salt =
        Text.lit "." ++ slash :: (Text.lit ".tmp-" ++ salt) := by simp [hbase]
    have hdir : (directory path).isEmpty = false := by simpa using directory_ne_nil path
    refine ⟨Text.lit ".tmp-" ++ salt, hname ▸ hproper.1, ?_⟩
    rw [temporaryPath, join, hdir, if_neg (by simp), placeOf_clean, placeOf_eq,
      ofText_append_cons (directory_ne_nil path), hjoin, Text.splitAt_append_cons,
      Text.splitAt_of_not_mem hpoint, Text.splitAt_of_not_mem hproper.2.1, List.singleton_append,
      List.foldl_cons, List.foldl_cons, List.foldl_nil, Path.push_of_proper hproper]
    have hdot (r : Bool) (out : List Text) : push r out (Text.lit ".") = out := rfl
    simp only [hdot, List.reverse_cons, List.reverse_reverse, List.foldl_append, List.foldl_cons,
      List.foldl_nil]
    rw [enter_of_proper hproper, ← placeOf_eq]

/-! ## Another last name -/

/-- What can stand in front of a last name: nothing, or something that ends in a slash. -/
def IsLead (lead : Text) : Prop :=
  lead = [] ∨ ∃ up, lead = up ++ [slash]

/-- What stands in front of the last name is empty or ends in a slash. -/
theorem isLead_splitLast (s : Text) : IsLead (splitLast s).1 := by
  rcases splitLast_cases s with h | ⟨up, name, -, h⟩
  · exact .inl (by rw [h])
  · exact .inr ⟨up, by rw [h]⟩

/-- What is put together from a lead and a name is split there again. -/
theorem splitLast_lead {lead name : Text} (hlead : IsLead lead) (hname : slash ∉ name) :
    splitLast (lead ++ name) = (lead, name) := by
  have hskip : ∀ b ∈ name.reverse, (b != slash) = true := by
    intro b hb
    have : b ≠ slash := fun h => hname (h ▸ List.mem_reverse.1 hb)
    simpa using this
  have hup : (splitLast (lead ++ name)).1 = lead := by
    rw [splitLast_fst, List.reverse_append, List.dropWhile_append_of_pos hskip]
    rcases hlead with rfl | ⟨up, rfl⟩
    · rfl
    · simp
  have happ := splitLast_append (lead ++ name)
  rw [hup] at happ
  exact Prod.ext hup (List.append_cancel_left happ)

/-- One more name is joined by a slash. -/
theorem joined_concat {names : List Text} (hne : names ≠ []) (name : Text) :
    Path.joined (names ++ [name]) = Path.joined names ++ slash :: name := by
  unfold Path.joined
  induction names with
  | nil => exact absurd rfl hne
  | cons a more ih =>
    cases more with
    | nil => simp [Text.join, List.intercalate]
    | cons b more =>
      have hmore := ih (by simp)
      rw [List.cons_append] at hmore
      rw [List.cons_append, List.cons_append, Text.join_cons_cons, Text.join_cons_cons, hmore]
      simp

/-- The text of a path is its last name behind something that depends on the other names only. -/
theorem exists_lead (rooted : Bool) (names : List Text) :
    ∃ lead, IsLead lead ∧ ∀ name, (Path.mk rooted (names ++ [name])).toText = lead ++ name := by
  have hroot : IsLead (if rooted then [slash] else []) := by
    cases rooted
    · exact .inl rfl
    · exact .inr ⟨[], rfl⟩
  by_cases hne : names = []
  · refine ⟨_, hroot, fun name => ?_⟩
    cases rooted <;> simp [hne, Path.toText, Path.joined, Text.join]
  · refine ⟨(if rooted then [slash] else []) ++ Path.joined names ++ [slash], .inr ⟨_, rfl⟩, ?_⟩
    intro name
    unfold Path.toText
    simp only [joined_concat hne name]
    cases rooted <;> simp

/-- A name behind the slash of a path is one more name of the clean path, unless it is `.` or
`..`. -/
theorem ofText_lead {lead name : Text} (hlead : IsLead lead) (hname : Proper name) :
    Path.ofText (lead ++ name) = ⟨(ofText lead).rooted, (ofText lead).names ++ [name]⟩ := by
  have hsplit := Text.splitAt_of_not_mem hname.2.1
  have hhead : (name.head? == some slash) = false := by
    simpa using fun h => hname.2.1 (List.mem_of_head? h)
  -- an empty name does not count, be it the whole front or what follows its slash
  have hempty (rooted : Bool) (out : List Text) : Path.push rooted out [] = out := rfl
  rcases hlead with rfl | ⟨up, rfl⟩
  · simp only [List.nil_append, ofText, hsplit, hhead, Text.splitAt, List.foldl_cons,
      List.foldl_nil, hempty, Path.push_of_proper hname]
    rfl
  · have hrooted : (up ++ slash :: name).head? = (up ++ [slash]).head? := by cases up <;> rfl
    simp only [List.append_assoc, List.singleton_append, ofText, hrooted, Text.splitAt_append_cons,
      hsplit, List.foldl_append, Text.splitAt, List.foldl_cons, List.foldl_nil, hempty,
      Path.push_of_proper hname, List.reverse_cons]

/-- What has no slash in it goes to the last name. -/
theorem splitLast_append_right (front : Text) {tail : Text} (h : slash ∉ tail) :
    (splitLast (front ++ tail)).2 = (splitLast front).2 ++ tail := by
  have hslash : slash ∉ (splitLast front).2 ++ tail := by
    simp [h, not_mem_splitLast front]
  have hlead := splitLast_lead (isLead_splitLast front) hslash
  rw [← List.append_assoc, splitLast_append] at hlead
  rw [hlead]

/-- Behind a path, however it is spelled, the last name stays. -/
theorem splitLast_join {a b : Text} (ha : a ≠ []) (hb : Proper (splitLast b).2) :
    (splitLast (join a b)).2 = (splitLast b).2 := by
  have hlead : IsLead (a ++ slash :: (splitLast b).1) := by
    rcases isLead_splitLast b with h | ⟨up, h⟩
    · exact .inr ⟨a, by rw [h]⟩
    · exact .inr ⟨a ++ slash :: up, by rw [h]; simp⟩
  have htext := ofText_lead hlead hb
  rw [List.append_assoc, List.cons_append, splitLast_append] at htext
  obtain ⟨lead, hlead', hspell⟩ := exists_lead (ofText (a ++ slash :: (splitLast b).1)).rooted
    (ofText (a ++ slash :: (splitLast b).1)).names
  have hjoin : join a b = lead ++ (splitLast b).2 := by
    rw [join, if_neg (by simpa using ha), clean, htext, hspell]
  rw [hjoin, splitLast_lead hlead' (not_mem_splitLast b)]

/-! ## Seen from a base -/

/-- Names and the same names with more behind them diverge at once, where the first end. -/
theorem diverge_append (as bs : List Text) : diverge as (as ++ bs) = ([], bs) := by
  induction as with
  | nil => cases bs <;> rfl
  | cons a as ih => rw [List.cons_append, diverge, if_pos rfl, ih]

/-- What lies below a base is seen from there as the names below it. -/
theorem relative?_below {base target : Text} {names : List Text} (hne : names ≠ [])
    (h : ofText target = ⟨(ofText base).rooted, (ofText base).names ++ names⟩) :
    relative? base target = some (Path.joined names) := by
  have hdiff : ofText base ≠ ofText target := by
    intro heq
    have := congrArg (·.names.length) (heq.trans h)
    simp [hne] at this
  rw [relative?]
  dsimp only
  rw [if_neg hdiff, h]
  simp [hne, diverge_append]

/-! ## Direct spellings -/

/-- The names of a spelling, without empty ones. -/
def namesOf (path : Text) : List Text :=
  (Text.splitAt slash path).filter (!·.isEmpty)

/-- Does the name stand for the same directory or the one above? -/
def isDots (name : Text) : Bool :=
  name == dot || name == dotDot

/-- Does the spelling go up only at its start, so that it never enters a directory to leave it
again? -/
def isDirect (path : Text) : Bool :=
  ((namesOf path).dropWhile isDots).all (!isDots ·)

/-- Names that go up only at their start are steps up and then names without any. -/
theorem exists_ups_downs {names : List Text}
    (h : (names.dropWhile isDots).all (!isDots ·) = true) :
    ∃ ups downs, names = ups ++ downs ∧ (∀ n ∈ ups, isDots n = true) ∧
      ∀ n ∈ downs, isDots n = false := by
  refine ⟨names.takeWhile isDots, names.dropWhile isDots, ?_, ?_, ?_⟩
  · exact List.takeWhile_append_dropWhile.symm
  · exact List.all_eq_true.1 List.all_takeWhile
  · intro n hn
    simpa using List.all_eq_true.1 h n hn

/-- The names of a path are not empty. -/
theorem ne_nil_of_mem_namesOf {path name : Text} (h : name ∈ namesOf path) : name ≠ [] := by
  simpa using (List.mem_filter.1 h).2

/-- A byte other than the slash is in a path when it is in one of its names. So a zero byte may be
looked for in the names. -/
theorem mem_iff_namesOf {b : UInt8} (h : b ≠ slash) (path : Text) :
    b ∈ path ↔ ∃ name ∈ namesOf path, b ∈ name := by
  rw [Text.mem_iff_splitAt h path]
  constructor
  · rintro ⟨piece, hp, hb⟩
    exact ⟨piece, List.mem_filter.2 ⟨hp, by simp [List.ne_nil_of_mem hb]⟩, hb⟩
  · rintro ⟨name, hn, hb⟩
    exact ⟨name, (List.mem_filter.1 hn).1, hb⟩

/-- Empty names may be left out on the way. -/
theorem foldl_enter_filter (names reached : List Text) :
    (names.filter (!·.isEmpty)).foldl enter reached = names.foldl enter reached := by
  induction names generalizing reached with
  | nil => rfl
  | cons name more ih =>
    rw [List.filter_cons]
    split
    · exact ih _
    · rename_i h
      have hn : name = [] := by simpa using h
      rw [List.foldl_cons, hn, enter_nil, ih]

/-- Names without dots lead straight down. -/
theorem foldl_enter_down {names : List Text} (hn : ∀ n ∈ names, n ≠ [])
    (hdown : ∀ n ∈ names, isDots n = false) (reached : List Text) :
    names.foldl enter reached = reached ++ names := by
  induction names generalizing reached with
  | nil => simp
  | cons name more ih =>
    have hdots : (name == dot) = false ∧ (name == dotDot) = false := by
      simpa [isDots] using hdown name List.mem_cons_self
    have henter : enter reached name = reached ++ [name] := by
      simp [enter, hn name List.mem_cons_self, hdots]
    rw [List.foldl_cons, henter, ih (fun n hm => hn n (List.mem_cons_of_mem _ hm))
      (fun n hm => hdown n (List.mem_cons_of_mem _ hm))]
    simp

/-- The names of two paths with a slash between them are those of the first and those of the
second. -/
theorem namesOf_append_cons (up name : Text) :
    namesOf (up ++ slash :: name) = namesOf up ++ namesOf name := by
  rw [namesOf, Text.splitAt_append_cons, List.filter_append, ← namesOf, ← namesOf]

/-- A proper name has itself as its only name. -/
theorem namesOf_proper {name : Text} (h : Proper name) : namesOf name = [name] := by
  rw [namesOf, Text.splitAt_of_not_mem h.2.1]
  simp [h.1]

/-- Names that were joined are found again. -/
theorem namesOf_joined {names : List Text} (h : ∀ name ∈ names, name ≠ [] ∧ slash ∉ name) :
    namesOf (Path.joined names) = names := by
  cases names with
  | nil => rfl
  | cons a more =>
    rw [namesOf, Path.joined, Text.splitAt_join (by simp) fun n hn => (h n hn).2,
      List.filter_eq_self]
    exact fun n hn => by simpa using (h n hn).1

/-- A clean path has the names that were left when it was cleaned. -/
theorem namesOf_clean {s : Text} (h : (ofText s).names ≠ []) :
    namesOf (clean s) = (ofText s).names := by
  have hnames : ∀ name ∈ (ofText s).names, name ≠ [] ∧ slash ∉ name := fun n hn =>
    (Path.tidy_ofText s).not_slash n (List.mem_reverse.2 hn)
  rw [clean, Path.toText]
  split
  · rw [← List.nil_append (slash :: _), namesOf_append_cons, namesOf_joined hnames]
    rfl
  · rw [if_neg (by simpa using h), namesOf_joined hnames]

/-- The names of a clean path go up only at the start, and behind the start there are proper names
alone. -/
theorem Path.Tidy.all_dropWhile {rooted : Bool} {out : List Text} (h : Path.Tidy rooted out) :
    (out.reverse.dropWhile isDots).all (!isDots ·) = true := by
  induction out with
  | nil => rfl
  | cons name out ih =>
    obtain ⟨⟨-, -, hdot⟩, hdd, hout⟩ := h
    rw [List.reverse_cons, List.dropWhile_append]
    by_cases hname : name = dotDot
    · have hups : out = List.replicate out.length dotDot :=
        List.eq_replicate_iff.2 ⟨rfl, (hdd hname).2⟩
      have hdots : isDots dotDot = true := rfl
      rw [hname, hups, List.reverse_replicate, List.dropWhile_replicate, if_pos hdots]
      rfl
    · have hn : isDots name = false := by simp [isDots, hdot, hname]
      split
      · simp [hn]
      · rw [List.all_append, ih hout]
        simp [hn]

/-- A clean path goes up only in front, never behind a name. -/
theorem isDirect_clean (s : Text) : isDirect (clean s) = true := by
  have htidy := Path.tidy_ofText s
  have hnames : ∀ name ∈ (ofText s).names, name ≠ [] ∧ slash ∉ name := fun n hn =>
    htidy.not_slash n (List.mem_reverse.2 hn)
  have hall : ((ofText s).names.dropWhile isDots).all (!isDots ·) = true := by
    simpa using htidy.all_dropWhile
  rw [isDirect, clean, Path.toText]
  split
  · rw [← List.nil_append (slash :: _), namesOf_append_cons, namesOf_joined hnames]
    exact hall
  · split
    · rfl
    · rw [namesOf_joined hnames]
      exact hall

/-- Another last name leaves a spelling direct. -/
theorem isDirect_append {up name : Text} (h : Proper name) :
    isDirect (up ++ slash :: name) = isDirect up := by
  have hname : isDots name = false := by simp [isDots, h.2.2.1, h.2.2.2]
  rw [isDirect, isDirect, namesOf_append_cons, namesOf_proper h, List.dropWhile_append]
  split
  · rename_i hall
    rw [List.isEmpty_iff] at hall
    simp [hall, hname]
  · simp [hname]

/-- A proper name does not go up. -/
theorem isDirect_proper {name : Text} (h : Proper name) : isDirect name = true := by
  have hname : isDots name = false := by simp [isDots, h.2.2.1, h.2.2.2]
  rw [isDirect, namesOf_proper h]
  simp [hname]

end NovelScript.Files
