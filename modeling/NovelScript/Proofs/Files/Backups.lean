import Mathlib.Data.List.Nodup
import NovelScript.Proofs.Files.Copies
import NovelScript.Proofs.Number.Calendar

/-!
# Whose copies are listed

A copy is named after its file: the base name, a point, the stamp, and `.bak`. Only this name says
whose copy it is, and it is read as one of every file whose name and a point it starts with.

* `backups_eq_ok` and `mem_backups` say what is listed for a file on any disk.
* **`Replacement.Run.ran`** follows the directory for copies through a run of replacements: a name in
  it holds what it held, or a copy that a replacement of the run made.
* `isCopyName_copyName` says when the name of a copy counts as that of a copy of another file.
* **`Replacement.own_backups_iff`** says when the copies that are listed are those of the file.
-/

namespace NovelScript.Files

variable {α : Type}

open Disk

/-! ## Finding what is two names below a directory -/

namespace Disk

variable {d : Disk α}

/-- Two names behind those of a directory are followed as far as directories go. The induction is on
the names of the directory, which are all there, so that only the two last names make a
difference. -/
theorem follow_two_below {reached names : List Text} {x y : Text}
    (hdown : ∀ n ∈ names, isDots n = false) (hlen : ∀ n ∈ names, n.length ≤ 255)
    (hx : isDots x = false ∧ x.length ≤ 255) (hy : isDots y = false ∧ y.length ≤ 255)
    (hdir : d.look (reached ++ names) = some none) :
    follow d.root reached (names ++ [x, y]) =
      match d.root.get? (reached ++ names ++ [x]) with
      | none => .error .notFound
      | some (.file _) => .error .notDirectory
      | some (.directory _) => .ok (reached ++ names ++ [x, y]) := by
  have hdots {n : Text} (h : isDots n = false) : (n == dot) = false ∧ (n == dotDot) = false := by
    simpa [isDots] using h
  induction names generalizing reached with
  | nil =>
    obtain ⟨hxd, hxdd⟩ := hdots hx.1
    obtain ⟨hyd, hydd⟩ := hdots hy.1
    have hxlen := Nat.not_lt.2 hx.2
    have hylen := Nat.not_lt.2 hy.2
    cases hup : d.root.get? (reached ++ [x]) with
    | none => simp [follow, hxd, hxdd, hxlen, hup]
    | some e =>
      cases e with
      | file c => simp [follow, hxd, hxdd, hxlen, hup]
      | directory es => simp [follow, hxd, hxdd, hyd, hydd, hxlen, hylen, hup]
  | cons name more ih =>
    obtain ⟨hd, hdd⟩ := hdots (hdown name List.mem_cons_self)
    -- all directories on the way are there, as the last of them is
    have hhere : d.look (reached ++ [name]) = some none := by
      by_cases hmore : more = []
      · rwa [hmore] at hdir
      · apply Entry.look_of_append hmore
        rw [List.append_assoc, List.singleton_append, show d.root.look _ = _ from hdir]
        simp
    obtain ⟨es, hes⟩ := Entry.look_eq_directory.1 hhere
    have hreach : reached ++ name :: more = reached ++ [name] ++ more := by simp
    rw [hreach] at hdir ⊢
    have ih := @ih (reached ++ [name]) (fun n hm => hdown n (List.mem_cons_of_mem _ hm))
      (fun n hm => hlen n (List.mem_cons_of_mem _ hm)) hdir
    rw [List.cons_append, follow, if_neg (by simp [hd]), if_neg (by simp [hdd]),
      if_neg (Nat.not_lt.2 (hlen name List.mem_cons_self))]
    dsimp only
    rw [if_neg (by simp), hes]
    exact ih

/-- A path that cannot be followed is not found, and for the same reason. -/
theorem find_of_follow_error {path : Text} {x : Cause} (hne : path ≠ []) (hzero : (0 : UInt8) ∉ path)
    (h : follow d.root (d.startOf path) (namesOf path) = .error x) : d.find path = .error x := by
  rw [find, locate, if_neg (by simpa using hne), if_neg (by simpa using hzero)]
  change (follow d.root (d.startOf path) (namesOf path) >>= _) >>= _ = _
  rw [h]
  rfl

/-- The names of what is two names below a directory, and where they are followed from. An empty
directory is spelled by a point, and then the names start in the working directory. -/
theorem namesOf_two_below {a x y : Text} (ha : a ≠ []) (hx : Proper x) (hy : Proper y) :
    namesOf (join (join a x) y) = (Path.ofText a).names ++ [x, y] ∧
      d.startOf (join (join a x) y) = if (Path.ofText a).rooted then [] else d.home := by
  have hax : join a x ≠ [] := by
    rw [← clean_join ha]
    exact clean_ne_nil _
  have hclean := clean_join hax y
  have htext : Path.ofText (join (join a x) y) =
      ⟨(Path.ofText a).rooted, (Path.ofText a).names ++ [x, y]⟩ := by
    rw [ofText_join hax hy, ofText_join ha hx]
    simp
  constructor
  · rw [← hclean, namesOf_clean (by simp [htext]), htext]
  · have hhead := Path.head?_toText (p := Path.ofText (join (join a x) y)) (Path.tidy_ofText _)
    rw [← clean, hclean, htext] at hhead
    simp only [startOf, hhead]

/-- A path of two names below a directory, followed step by step: it ends where the first name is
missing or a file, and otherwise at the second name. -/
theorem follow_join_join {a x y : Text} (ha : a ≠ []) (hx : Proper x) (hy : Proper y)
    (hspelled : Spelled (join (join a x) y)) (hdir : d.look (d.place a) = some none) :
    follow d.root (d.startOf (join (join a x) y)) (namesOf (join (join a x) y)) =
      match d.root.get? (d.place a ++ [x]) with
      | none => .error .notFound
      | some (.file _) => .error .notDirectory
      | some (.directory _) => .ok (d.place a ++ [x, y]) := by
  obtain ⟨hnames, hstart⟩ := namesOf_two_below (d := d) ha hx hy
  have htidy := Path.tidy_ofText a
  have hall : ((Path.ofText a).names.dropWhile isDots).all (!isDots ·) = true := by
    simpa using htidy.all_dropWhile
  obtain ⟨ups, downs, hsplit, hups, hdowns⟩ := exists_ups_downs hall
  have hne : ∀ n ∈ downs, n ≠ [] := by
    intro n hn
    apply (htidy.not_slash n ?_).1
    rw [List.mem_reverse, hsplit]
    exact List.mem_append_right ups hn
  have hplace : d.place a = ups.foldl enter (d.startOf (join (join a x) y)) ++ downs := by
    rw [place, placeOf_eq, ← hstart, hsplit, List.foldl_append, foldl_enter_down hne hdowns]
  have hlen : ∀ n ∈ downs ++ [x, y], n.length ≤ 255 := by
    intro n hn
    apply hspelled.2.2 n
    rw [hnames, hsplit, List.append_assoc]
    exact List.mem_append_right ups hn
  have hdots {n : Text} (h : Proper n) : isDots n = false := by simp [isDots, h.2.2.1, h.2.2.2]
  rw [hplace] at hdir
  rw [hnames, hsplit, List.append_assoc, follow_ups _ hups, follow_two_below hdowns
    (fun n hn => hlen n (List.mem_append_left _ hn)) ⟨hdots hx, hlen x (by simp)⟩
    ⟨hdots hy, hlen y (by simp)⟩ hdir, hplace]

/-- What is two names below a directory is found when it is there and nothing is in the way. The
cases tell apart what is missing from what is a file where a directory should be. -/
theorem find_two_below {a x y : Text} (hhome : d.look d.home = some none) (ha : a ≠ [])
    (hx : Proper x) (hy : Proper y) (hspelled : Spelled (join (join a x) y))
    (hdir : d.look (d.place a) = some none) :
    d.find (join (join a x) y) =
      match d.root.get? (d.place a ++ [x]) with
      | none => .error .notFound
      | some (.file _) => .error .notDirectory
      | some (.directory _) =>
        match d.root.get? (d.place a ++ [x, y]) with
        | none => .error .notFound
        | some e => .ok e := by
  have hax : join a x ≠ [] := by
    rw [← clean_join ha]
    exact clean_ne_nil _
  have hplain : isPlain (join (join a x) y) = true := by
    rw [← clean_join hax y]
    exact isPlain_clean _
  have hpath : d.place (join (join a x) y) = d.place a ++ [x, y] := by
    rw [place, placeOf_join hax hy, placeOf_join ha hx, place]
    simp
  -- up to the first name the way is known; what is there decides
  have hfollow := follow_join_join ha hx hy hspelled hdir
  cases hup : d.root.get? (d.place a ++ [x]) with
  | none =>
    rw [hup] at hfollow
    exact find_of_follow_error hspelled.1 hspelled.2.1 hfollow
  | some e =>
    rw [hup] at hfollow
    cases e with
    | file c => exact find_of_follow_error hspelled.1 hspelled.2.1 hfollow
    | directory es =>
      dsimp only
      have hdrop : d.look (d.place (join (join a x) y)).dropLast = some none := by
        rw [hpath, ← List.singleton_append, ← List.append_assoc, List.dropLast_concat]
        exact Entry.look_eq_directory.2 ⟨es, hup⟩
      cases hget : d.root.get? (d.place a ++ [x, y]) with
      | some e => exact (find_isOk hhome hplain).2 ⟨hspelled, by rw [hpath, hget]⟩
      | none =>
        obtain ⟨p, hp⟩ := (locate_isOk hhome hplain).2 ⟨hspelled, hdrop⟩
        have hnone : d.root.get? p.names = none := by rw [locate_names hp, hpath, hget]
        rw [find, hp]
        simp only [bind, Except.bind, hnone]
        rfl

end Disk

/-! ## Listing -/

/-- A name that counts as that of a copy of a file. -/
def IsCopyName (path name : Text) : Prop :=
  Text.startsWith (backupStart path) name = true ∧ Text.endsWith backupEnding name = true

section

variable {d : Disk α} {path : Text}

/-- The directory of the copies can be spelled wherever the directory of the file can; its own two
names are short. -/
theorem spelled_backupDirectory (hspelled : Spelled (directory path)) :
    Spelled (backupDirectory (directory path)) := by
  have hne := directory_ne_nil path
  have hstate : Proper stateName := by decide
  have hbackups : Proper (Text.lit "backups") := by decide
  have hjoin : join (directory path) stateName ≠ [] := by
    rw [← clean_join hne]
    exact clean_ne_nil _
  have hclean : clean (directory path) = directory path := clean_clean _
  rw [backupDirectory, spelled_join hjoin hbackups, clean_join hne, spelled_join hne hstate, hclean]
  exact ⟨⟨hspelled, by decide⟩, by decide⟩

/-- Looking for the directory of the copies, case by case. It is what the listing begins with, and
the two failures are told apart because only one of them means that there are no copies. -/
theorem find_copies (hhome : d.look d.home = some none) (hspelled : Spelled (directory path))
    (hdir : d.look (d.place (directory path)) = some none) :
    d.find (backupDirectory (directory path)) =
      match d.root.get? (d.place (directory path) ++ [stateName]) with
      | none => .error .notFound
      | some (.file _) => .error .notDirectory
      | some (.directory _) =>
        match d.root.get? (copiesPlace (d.place (directory path))) with
        | none => .error .notFound
        | some e => .ok e :=
  find_two_below hhome (directory_ne_nil path) (by decide) (by decide)
    (spelled_backupDirectory hspelled) hdir

/-- The copies can be listed when no file is in the place of their directory or above it. That
nothing is there is no failure: then there are no copies. -/
theorem exists_backups_iff (hhome : d.look d.home = some none)
    (hspelled : Spelled (directory path))
    (hdir : d.look (d.place (directory path)) = some none) :
    (∃ names, backups d path = .ok names) ↔
      d.fileAt (d.place (directory path) ++ [stateName]) = none ∧
        d.fileAt (copiesPlace (d.place (directory path))) = none := by
  have hfind := find_copies hhome hspelled hdir
  have hbelow : d.root.get? (copiesPlace (d.place (directory path))) =
      (d.root.get? (d.place (directory path) ++ [stateName])).bind
        (·.get? [Text.lit "backups"]) := by
    rw [← Entry.get?_append, copiesPlace]
    simp
  unfold backups
  dsimp only
  rw [Disk.list, hfind, fileAt, fileAt, Entry.fileAt, Entry.fileAt, Entry.look, Entry.look]
  cases hstate : d.root.get? (d.place (directory path) ++ [stateName]) with
  | none => simp [hbelow, hstate]
  | some e =>
    cases e with
    | file c => simp [Entry.held]
    | directory es =>
      cases hcopies : d.root.get? (copiesPlace (d.place (directory path))) with
      | none => simp [Entry.held]
      | some e =>
        cases e with
        | file c => simp [Entry.held]
        | directory es' => simp [Entry.held]

/-- The names that are listed for a directory for copies, when they are in their order. -/
theorem backups_of_find {es : List (Text × Entry α)} {names : List Text}
    (h : d.find (backupDirectory (directory path)) = .ok (.directory es))
    (hperm : names.Perm (((es.map Prod.fst).filter fun n =>
      Text.startsWith (backupStart path) n && Text.endsWith backupEnding n).map
        (join (backupDirectory (directory path)))))
    (hsorted : names.Pairwise fun p q => Text.le p q = true) : backups d path = .ok names := by
  unfold backups
  dsimp only
  rw [Disk.list, h]
  dsimp only
  rw [← Text.eq_sort_of_perm (hperm.trans ?_) hsorted]
  exact ((List.mergeSort_perm _ Text.le).symm.filter _).map _

/-- What is listed are the names of copies that stand in the directory for copies, sorted as texts.
Sorted as texts means sorted by time only while the stamps have one length. -/
theorem backups_eq_ok {names : List Text} (hhome : d.look d.home = some none)
    (hspelled : Spelled (directory path))
    (hdir : d.look (d.place (directory path)) = some none) (h : backups d path = .ok names) :
    ∃ es : List (Text × Entry α), (∀ n, d.stack (copiesPlace (d.place (directory path)) ++ [n]) =
        (es.filter fun x => x.1 == n).map (·.2)) ∧
      names = Text.sort (((Text.sort (es.map Prod.fst)).filter fun n =>
        Text.startsWith (backupStart path) n && Text.endsWith backupEnding n).map
          (join (backupDirectory (directory path)))) := by
  have hfind := find_copies hhome hspelled hdir
  -- where nothing stands, nothing is listed, and this is the same list
  have hnothing (hnone : d.root.get? (copiesPlace (d.place (directory path))) = none)
      (h : (Except.ok [] : Except DiskError (List Text)) = .ok names) :
      ∃ es : List (Text × Entry α),
        (∀ n, d.stack (copiesPlace (d.place (directory path)) ++ [n]) =
          (es.filter fun x => x.1 == n).map (·.2)) ∧
        names = Text.sort (((Text.sort (es.map Prod.fst)).filter fun n =>
          Text.startsWith (backupStart path) n && Text.endsWith backupEnding n).map
            (join (backupDirectory (directory path)))) := by
    cases h
    refine ⟨[], fun n => ?_, by simp [Text.sort]⟩
    apply Entry.stack_eq_nil.2
    rw [Entry.get?_append, hnone, Option.bind_none]
  unfold backups at h
  dsimp only at h
  rw [Disk.list, hfind] at h
  cases hstate : d.root.get? (d.place (directory path) ++ [stateName]) with
  | none =>
    apply hnothing ?_ (by simpa [hstate] using h)
    rw [copiesPlace, ← List.singleton_append, ← List.append_assoc, Entry.get?_append, hstate,
      Option.bind_none]
  | some e =>
    cases e with
    | file c => simp [hstate] at h
    | directory es =>
      cases hcopies : d.root.get? (copiesPlace (d.place (directory path))) with
      | none => exact hnothing hcopies (by simpa [hstate, hcopies] using h)
      | some e =>
        cases e with
        | file c => simp [hstate, hcopies] at h
        | directory es' =>
          simp only [hstate, hcopies, Except.ok.injEq] at h
          refine ⟨es', fun n => ?_, h.symm⟩
          exact Entry.stack_append hcopies (List.cons_ne_nil n [])

/-- **What is listed for a file**: the names in the directory of the copies that look like those of
a copy of it, each under the path that leads to it. -/
theorem mem_backups {names : List Text} (hhome : d.look d.home = some none)
    (hspelled : Spelled (directory path))
    (hdir : d.look (d.place (directory path)) = some none) (h : backups d path = .ok names)
    {p : Text} : p ∈ names ↔ ∃ n, d.stack (copiesPlace (d.place (directory path)) ++ [n]) ≠ [] ∧
      IsCopyName path n ∧ p = join (backupDirectory (directory path)) n := by
  obtain ⟨es, hstack, rfl⟩ := backups_eq_ok hhome hspelled hdir h
  have hmem (n : Text) : d.stack (copiesPlace (d.place (directory path)) ++ [n]) ≠ [] ↔
      n ∈ es.map Prod.fst := by
    rw [hstack, Ne, List.map_eq_nil_iff, List.filter_eq_nil_iff, List.mem_map]
    simp
  simp only [Text.mem_sort, List.mem_map, List.mem_filter, hmem, IsCopyName, Bool.and_eq_true]
  grind

/-- A copy is listed when it stands in the directory for copies. That listing succeeds is part of
the claim. -/
theorem exists_backups_of_stack (hhome : d.look d.home = some none)
    (hspelled : Spelled (directory path)) (hname : IsCopyName path name)
    (hstack : d.stack (copiesPlace (d.place (directory path)) ++ [name]) ≠ []) :
    ∃ names, backups d path = .ok names ∧ join (backupDirectory (directory path)) name ∈ names := by
  have hcopies : d.look (copiesPlace (d.place (directory path))) = some none := by
    apply Entry.look_of_append (List.cons_ne_nil name [])
    rw [Ne, Entry.look_eq_none, ← Entry.stack_eq_nil]
    exact hstack
  have hthere : d.look (d.place (directory path)) = some none := by
    apply Entry.look_of_append (List.cons_ne_nil stateName [Text.lit "backups"])
    rw [← copiesPlace, show d.root.look _ = _ from hcopies]
    simp
  obtain ⟨names, hnames⟩ : ∃ names, backups d path = .ok names := by
    apply (exists_backups_iff hhome hspelled hthere).2
    constructor
    · apply fileAt_of_isPrefix hcopies
      exact ⟨[Text.lit "backups"], by simp [copiesPlace]⟩
    · exact fileAt_of_isPrefix hcopies (List.prefix_refl _)
  exact ⟨names, hnames, (mem_backups hhome hspelled hthere hnames).2 ⟨name, hstack, hname, rfl⟩⟩

/-- No copy is listed twice when no name of a copy hides another one, that is, when no name stands
twice in the directory. -/
theorem nodup_backups {names : List Text} (hhome : d.look d.home = some none)
    (hspelled : Spelled (directory path))
    (hdir : d.look (d.place (directory path)) = some none) (h : backups d path = .ok names)
    (hone : ∀ n, IsCopyName path n →
      (d.stack (copiesPlace (d.place (directory path)) ++ [n])).length ≤ 1)
    (hproper : ∀ n, IsCopyName path n →
      d.stack (copiesPlace (d.place (directory path)) ++ [n]) ≠ [] → Proper n) : names.Nodup := by
  obtain ⟨es, hstack, rfl⟩ := backups_eq_ok hhome hspelled hdir h
  -- how often a name is listed is how much stands under it
  have hcount (n : Text) : (es.map Prod.fst).count n =
      (d.stack (copiesPlace (d.place (directory path)) ++ [n])).length := by
    rw [hstack, List.length_map, List.count, List.countP_map, List.countP_eq_length_filter]
    rfl
  have hfiltered : ((Text.sort (es.map Prod.fst)).filter fun n =>
      Text.startsWith (backupStart path) n && Text.endsWith backupEnding n).Nodup := by
    rw [List.nodup_iff_count_le_one]
    intro n
    by_cases hn : IsCopyName path n
    · rw [List.count_filter (by simp [hn.1, hn.2]), Text.sort,
        (List.mergeSort_perm _ Text.le).count_eq, hcount]
      exact hone n hn
    · rw [List.count_eq_zero_of_not_mem]
      · exact Nat.zero_le 1
      · intro hmem
        apply hn
        have := (List.mem_filter.1 hmem).2
        rwa [Bool.and_eq_true] at this
  apply (List.mergeSort_perm _ Text.le).nodup_iff.2
  apply List.Nodup.map_on ?_ hfiltered
  intro a ha b hb heq
  have hname {n : Text} (hn : n ∈ (Text.sort (es.map Prod.fst)).filter fun n =>
      Text.startsWith (backupStart path) n && Text.endsWith backupEnding n) : Proper n := by
    obtain ⟨hmem, hcopy⟩ := List.mem_filter.1 hn
    rw [Bool.and_eq_true] at hcopy
    apply hproper n hcopy
    intro hnil
    have hzero := hcount n
    rw [hnil, List.length_nil, List.count_eq_zero] at hzero
    exact hzero (Text.mem_sort.1 hmem)
  obtain ⟨-, hsplit⟩ := leaf_join (backupDirectory_ne_nil (directory path)) (hname ha)
  obtain ⟨-, hsplit'⟩ := leaf_join (backupDirectory_ne_nil (directory path)) (hname hb)
  rw [← hsplit, ← hsplit', heq]

end

/-! ## Names of copies -/

/-- The byte between the parts of the name of a copy. -/
def point : UInt8 := 0x2E

/-- A name with two further parts behind points begins with another name and a point in three cases:
it is that name, it begins with it itself, or the first part makes it the other name. -/
theorem isPrefix_parts_iff {p b s e : Text} (hs : point ∉ s) (he : point ∉ e) :
    p ++ [point] <+: b ++ point :: (s ++ point :: e) ↔
      b = p ∨ p ++ [point] <+: b ∨ p = b ++ point :: s := by
  constructor
  · rintro ⟨rest, h⟩
    rw [List.append_assoc, List.singleton_append] at h
    rcases List.append_eq_append_iff.1 h with ⟨more, hb, hrest⟩ | ⟨more, hp, hrest⟩
    · cases more with
      | nil => exact .inl (by simpa using hb)
      | cons x more =>
        obtain ⟨rfl, -⟩ := List.cons.inj hrest
        exact .inr (.inl ⟨more, by rw [hb]; simp⟩)
    · cases more with
      | nil => exact .inl (by simpa using hp.symm)
      | cons x more =>
        rw [List.cons_append] at hrest
        obtain ⟨rfl, hbehind⟩ := List.cons.inj hrest
        right
        right
        -- the part of `p` behind the first point is `s`, since there is no other point before `e`
        rcases List.append_eq_append_iff.1 hbehind with ⟨more', hm, he'⟩ | ⟨more', hm, he'⟩
        · cases more' with
          | nil => rw [hp, hm, List.append_nil]
          | cons y more' =>
            obtain ⟨-, rfl⟩ := List.cons.inj he'
            exact absurd (by simp) he
        · cases more' with
          | nil => rw [hp, hm, List.append_nil]
          | cons y more' =>
            obtain ⟨rfl, -⟩ := List.cons.inj he'
            rw [hm] at hs
            exact absurd (by simp) hs
  · rintro (rfl | ⟨rest, rfl⟩ | rfl)
    · exact ⟨s ++ point :: e, by simp⟩
    · exact ⟨rest ++ point :: (s ++ point :: e), by simp⟩
    · exact ⟨e, by simp⟩

/-- The name of a copy is that of the file, a point, the stamp and the ending. -/
theorem copyName_eq (path stamp : Text) :
    copyName path stamp = base path ++ point :: (stamp ++ point :: Text.lit "bak") := by
  have hpoint : Text.lit "." = [point] := by decide
  have hending : backupEnding = point :: Text.lit "bak" := by decide
  simp [copyName, backupStart, hpoint, hending]

/-- The listing goes by the name of the file and a point behind it, and does not look at the stamp.
That is why `a` is taken to have the copies of `a.b`. -/
theorem backupStart_eq (path : Text) : backupStart path = base path ++ [point] := by
  have hpoint : Text.lit "." = [point] := by decide
  rw [backupStart, hpoint]

/-- Whose names of copies count as those of a file: its own, those of a file whose name goes on from
its name behind a point, and that of a file whose name with the stamp is its name. -/
theorem isCopyName_copyName {path other stamp : Text} (hstamp : point ∉ stamp) :
    IsCopyName path (copyName other stamp) ↔ base other = base path ∨
      base path ++ [point] <+: base other ∨ base path = base other ++ point :: stamp := by
  have hending : Text.endsWith backupEnding (copyName other stamp) = true := by
    rw [Text.endsWith, List.isSuffixOf_iff_suffix, copyName]
    exact List.suffix_append _ _
  rw [IsCopyName, and_iff_left hending, Text.startsWith, List.isPrefixOf_iff_prefix, backupStart_eq,
    copyName_eq, isPrefix_parts_iff hstamp (by decide)]

/-- The name of a copy tells the name of the file and the stamp. -/
theorem copyName_inj {path other stamp stamp' : Text} (hstamp : point ∉ stamp)
    (hstamp' : point ∉ stamp') (h : copyName path stamp = copyName other stamp') :
    base path = base other ∧ stamp = stamp' := by
  rw [copyName_eq, copyName_eq] at h
  have hrev := congrArg List.reverse h
  simp only [List.reverse_append, List.reverse_cons, List.append_assoc, List.cons_append,
    List.append_cancel_left_eq, List.cons.injEq, true_and] at hrev
  obtain ⟨hs, hb⟩ := Text.append_cons_inj (by simpa using hstamp) (by simpa using hstamp') hrev
  exact ⟨List.reverse_inj.1 hb, List.reverse_inj.1 hs⟩

/-! ## Replacements in turn -/

/-- A replacement that keeps a copy of what is replaced. Nothing is said about the times of several
of them: what a clock on the wall shows may be the same for two, and it may go back. -/
structure Replacement (α : Type) where
  /-- The file. -/
  path : Text
  /-- What the clock on the wall shows then. -/
  time : DateTime
  /-- A part of a name that no other file has. -/
  salt : Text
  /-- What the file holds afterwards. -/
  content : α
  /-- What the file held before, if it was there. -/
  old : Option α

namespace Replacement

variable {empty : α} {d d' d₁ : Disk α} {path : Text}

/-- What the write takes from outside. -/
def moment (r : Replacement α) : Moment :=
  ⟨r.time.stamp, r.salt⟩

/-- The name of the copy. -/
def copy (r : Replacement α) : Text :=
  copyName r.path r.moment.stamp

/-- Is it the file of a path that is replaced? -/
def On (r : Replacement α) (path : Text) : Prop :=
  directory r.path = directory path ∧ base r.path = base path

/-- It succeeds. The salt is one that no file beside the path has yet. -/
structure Done (empty : α) (r : Replacement α) (d d' : Disk α) : Prop where
  salt : slash ∉ r.salt
  fresh : d.look (d.place (temporaryPath r.path r.salt)) = none
  old : r.old = (d.read r.path).toOption
  done : writeAtomic empty r.moment true r.path r.content d = .ok () d'

/-- They succeed one after the other. -/
inductive Run (empty : α) : List (Replacement α) → Disk α → Disk α → Prop
  /-- None. -/
  | nil (d : Disk α) : Run empty [] d d
  /-- One, and then others. -/
  | cons {r : Replacement α} {rs : List (Replacement α)} {d d₁ d' : Disk α}
      (first : r.Done empty d d₁) (rest : Run empty rs d₁ d') : Run empty (r :: rs) d d'

/-- A stamp holds neither slashes nor points, so that the name of a copy can be taken apart from
behind. -/
theorem not_mem_stamp (r : Replacement α) : slash ∉ r.moment.stamp ∧ point ∉ r.moment.stamp := by
  have hmem := DateTime.mem_stamp r.time
  constructor
  · intro h
    rcases hmem slash h with h | h
    · exact absurd h (by decide)
    · exact absurd h (by decide)
  · intro h
    rcases hmem point h with h | h
    · exact absurd h (by decide)
    · exact absurd h (by decide)

/-- A replacement that was made leaves the new content in the file and, when there was an old one,
the old one in the copy. -/
theorem Done.replaced {r : Replacement α} (h : r.Done empty d d')
    (hhome : d.look d.home = some none) : Replaced r.moment r.path r.content r.old d d' := by
  have hreplaced := replaced_of_writeAtomic hhome h.salt r.not_mem_stamp.1 h.fresh (by simp) h.done
  rwa [if_pos rfl, ← h.old] at hreplaced

/-! ### What a run leaves behind -/

/-- What a run of replacements in one directory does to the disk. -/
structure Ran (dir : Text) (rs : List (Replacement α)) (d d' : Disk α) : Prop where
  home : d'.home = d.home
  dirs : ∀ p, d.look p = some none → d'.look p = some none
  there : rs ≠ [] → Spelled dir ∧ d'.look (d.place dir) = some none
  named : ∀ r ∈ rs, slash ∉ base r.path
  /-- A file stands in the place of the directory that the program keeps for itself when there was
  one, or when one of the calls put it there. -/
  state : d'.fileAt (d.place dir ++ [stateName]) ≠ none ↔
    d.fileAt (d.place dir ++ [stateName]) ≠ none ∨ ∃ r ∈ rs, base r.path = stateName
  copies : d'.fileAt (copiesPlace (d.place dir)) = d.fileAt (copiesPlace (d.place dir))
  /-- A name in the directory for copies is that of a copy that was made last under that name, or
  nothing has changed. -/
  copied : ∀ n, (d'.stack (copiesPlace (d.place dir) ++ [n]) =
      d.stack (copiesPlace (d.place dir) ++ [n]) ∧ ∀ r ∈ rs, r.old ≠ none → r.copy ≠ n) ∨
    ∃ r ∈ rs, ∃ c, r.old = some c ∧ r.copy = n ∧
      d'.stack (copiesPlace (d.place dir) ++ [n]) =
        .file c :: (d.stack (copiesPlace (d.place dir) ++ [n])).tail

/-- No replacements leave the disk as it is. -/
theorem Ran.nil (dir : Text) (d : Disk α) : Ran dir [] d d where
  home := rfl
  dirs _ h := h
  there h := absurd rfl h
  named := by simp
  state := by simp
  copies := rfl
  copied n := .inl ⟨rfl, by simp⟩

/-- In the directory for copies a replacement changes nothing but its own copy. By these two cases a
run is followed name by name. -/
theorem copied_cases {r : Replacement α}
    (h : Replaced r.moment r.path r.content r.old d d₁) (n : Text) :
    (d₁.stack (copiesPlace (d.place (directory r.path)) ++ [n]) =
        d.stack (copiesPlace (d.place (directory r.path)) ++ [n]) ∧ (r.old ≠ none → r.copy ≠ n)) ∨
      ∃ c, r.old = some c ∧ r.copy = n ∧
        d₁.stack (copiesPlace (d.place (directory r.path)) ++ [n]) =
          .file c :: (d.stack (copiesPlace (d.place (directory r.path)) ++ [n])).tail := by
  by_cases hmade : r.old ≠ none ∧ r.copy = n
  · obtain ⟨hold, rfl⟩ := hmade
    obtain ⟨c, hc⟩ := Option.ne_none_iff_exists'.1 hold
    have hstack := (h.copied c hc).stack
    rw [place_backupPath d h.slash_not_mem r.not_mem_stamp.1] at hstack
    exact .inr ⟨c, hc, rfl, hstack⟩
  · have hnot : r.old ≠ none → r.copy ≠ n := fun hold hn => hmade ⟨hold, hn⟩
    exact .inl ⟨h.stack_copies r.not_mem_stamp.1 hnot, hnot⟩

/-- One replacement before others. For every name in the directory of the copies it is told what
stands there: the copy of the last replacement with that name, or what stood there at first. -/
theorem Ran.cons {dir : Text} {r : Replacement α} {rs : List (Replacement α)}
    (h : Replaced r.moment r.path r.content r.old d d₁) (hdir : directory r.path = dir)
    (hrest : Ran dir rs d₁ d') : Ran dir (r :: rs) d d' := by
  subst hdir
  have hslash := h.slash_not_mem
  have hplace (p : Text) : d₁.place p = d.place p := h.place_eq p
  have hpath := place_of_named d h.named
  have hcopy := place_backupPath d hslash r.not_mem_stamp.1
  have hstate := hrest.state
  have hcopies := hrest.copies
  have hcopied := hrest.copied
  rw [hplace] at hstate hcopies hcopied
  refine ⟨hrest.home.trans h.home, fun p hp => hrest.dirs p (h.dirs hp), fun _ => ?_, ?_, ?_, ?_, ?_⟩
  · exact ⟨h.spelled, hrest.dirs _ h.there⟩
  · intro s hs
    rcases List.mem_cons.1 hs with rfl | hs
    · exact hslash
    · exact hrest.named s hs
  · rw [hstate]
    -- a file that is called like the state directory takes its place
    by_cases hbase : base r.path = stateName
    · have hfile : d₁.fileAt (d.place (directory r.path) ++ [stateName]) ≠ none := by
        rw [← hbase, ← hpath, fileAt_eq_some.2 h.look_place]
        simp
      simp [hfile, hbase]
    · rw [h.files]
      · simp [hbase]
      · rw [hpath]
        simpa using Ne.symm hbase
      · intro _ heq
        rw [hcopy] at heq
        exact copiesPlace_concat_ne _ _ _ heq.symm
  · rw [hcopies]
    apply h.files
    · intro heq
      have := congrArg List.length heq
      simp [hpath, copiesPlace] at this
    · intro _ heq
      have := congrArg List.length heq
      simp [hcopy] at this
  · intro n
    -- the first replacement has made this copy or has left the name alone
    rcases copied_cases h n with ⟨hsame, hnot⟩ | ⟨c, hc, hn, hstack⟩
    · have hcopied := hcopied n
      rw [hsame] at hcopied
      rcases hcopied with ⟨hlater, hothers⟩ | ⟨s, hs, hmade⟩
      · left
        refine ⟨hlater, fun s hs => ?_⟩
        rcases List.mem_cons.1 hs with rfl | hs
        · exact hnot
        · exact hothers s hs
      · exact .inr ⟨s, List.mem_cons_of_mem _ hs, hmade⟩
    · right
      -- a later copy of the same name is written over it
      rcases hcopied n with ⟨hlater, -⟩ | ⟨s, hs, c', hc', hn', hlater⟩
      · exact ⟨r, List.mem_cons_self, c, hc, hn, hlater.trans hstack⟩
      · rw [hstack, List.tail_cons] at hlater
        exact ⟨s, List.mem_cons_of_mem _ hs, c', hc', hn', hlater⟩

/-- **What a run of replacements in one directory leaves**, by induction on the run. `Ran` says for
each place what stands there afterwards, and one more replacement only adds its copy in front. -/
theorem Run.ran {dir : Text} {rs : List (Replacement α)} (h : Run empty rs d d')
    (hhome : d.look d.home = some none) (hdir : ∀ r ∈ rs, directory r.path = dir) :
    Ran dir rs d d' := by
  induction h with
  | nil d => exact Ran.nil dir d
  | cons first rest ih =>
    have hreplaced := first.replaced hhome
    apply Ran.cons hreplaced (hdir _ List.mem_cons_self)
    exact ih (hreplaced.look_home hhome) fun r hr => hdir r (List.mem_cons_of_mem _ hr)

end Replacement

/-! ## Putting a copy back -/

/-- What restoring does, part by part: the copies are listed, the last one is read, and its content
replaces the file without a copy being put aside. -/
theorem restoreLatest_eq_ok {empty : α} {m : Moment} {path latest : Text} {d d' : Disk α} :
    restoreLatest empty m path d = .ok latest d' ↔ ∃ all content, backups d path = .ok all ∧
      all.getLast? = some latest ∧ d.read latest = .ok content ∧
      writeAtomic empty m false path content d = .ok () d' := by
  rw [restoreLatest, bind_eq_ok]
  constructor
  · rintro ⟨d₀, d₁, hget, h⟩
    cases hget
    cases hall : backups d path with
    | error e =>
      rw [hall] at h
      cases h
    | ok all =>
      rw [hall] at h
      cases hlatest : all.getLast? with
      | none =>
        simp only [hlatest] at h
        cases h
      | some latest' =>
        simp only [hlatest] at h
        obtain ⟨d₀, d₁, hget, h⟩ := bind_eq_ok.1 h
        cases hget
        cases hread : d.read latest' with
        | error e =>
          rw [hread] at h
          cases h
        | ok content =>
          rw [hread] at h
          obtain ⟨_, d₁, hwrite, h⟩ := bind_eq_ok.1 h
          cases h
          exact ⟨all, content, rfl, hlatest, hread, adaptExcept_eq_ok.1 hwrite⟩
  · rintro ⟨all, content, hall, hlatest, hread, hwrite⟩
    refine ⟨d, d, rfl, ?_⟩
    rw [hall]
    simp only [hlatest]
    refine bind_eq_ok.2 ⟨d, d, rfl, ?_⟩
    rw [hread]
    exact bind_eq_ok.2 ⟨(), d', adaptExcept_eq_ok.2 hwrite, rfl⟩

/-! ## Whose copies they are -/

section

variable {d : Disk α} {path : Text}

/-- Where no copy of a file is listed no name in the directory for copies counts as that of one. -/
theorem stack_copies_of_backups_nil (hhome : d.look d.home = some none)
    (hspelled : Spelled (directory path)) (h : backups d path = .ok []) {name : Text}
    (hname : IsCopyName path name) :
    d.stack (copiesPlace (d.place (directory path)) ++ [name]) = [] := by
  by_cases hdir : d.look (d.place (directory path)) = some none
  · by_contra hne
    have hmem := (mem_backups hhome hspelled hdir h).2 ⟨name, hne, hname, rfl⟩
    simp at hmem
  · apply Entry.stack_eq_nil.2
    apply Entry.look_eq_none.1
    rw [copiesPlace, List.append_assoc]
    exact Entry.look_append_eq_none (by simp) hdir

/-- When copies can be listed, neither the state directory nor the directory of the copies is a
file. -/
theorem fileAt_copies_of_backups {names : List Text} (hhome : d.look d.home = some none)
    (hspelled : Spelled (directory path)) (h : backups d path = .ok names) :
    d.fileAt (d.place (directory path) ++ [stateName]) = none ∧
      d.fileAt (copiesPlace (d.place (directory path))) = none := by
  by_cases hdir : d.look (d.place (directory path)) = some none
  · exact (exists_backups_iff hhome hspelled hdir).1 ⟨names, h⟩
  · have hnone {more : List Text} (hmore : more ≠ []) :
        d.fileAt (d.place (directory path) ++ more) = none := by
      have hlook := Entry.look_append_eq_none hmore hdir
      rw [fileAt, Entry.fileAt, show d.root.look _ = _ from hlook]
      rfl
    exact ⟨hnone (List.cons_ne_nil _ _), hnone (List.cons_ne_nil _ _)⟩

end

namespace Replacement

variable {empty : α} {d d' : Disk α} {path : Text} {rs : List (Replacement α)}

/-- Where the replacement keeps its copy. -/
def copyPath (r : Replacement α) : Text :=
  backupPath r.path r.moment.stamp

/-- The name of the file of a replacement makes its copies count as those of another file. -/
def Mistaken (path : Text) (r : Replacement α) : Prop :=
  base r.path ≠ base path ∧
    (backupStart path <+: base r.path ∨ base path = base r.path ++ point :: r.moment.stamp)

/-- What is listed for a file are its own copies: those that replacements of the file made. -/
def Own (path : Text) (rs : List (Replacement α)) (names : List Text) : Prop :=
  names.Nodup ∧ ∀ p, p ∈ names ↔ ∃ r ∈ rs, r.On path ∧ r.old ≠ none ∧ p = r.copyPath

/-- Putting a copy of a file back brings something that a replacement of that file did away with. -/
def BringsBack (empty : α) (path : Text) (rs : List (Replacement α)) (d : Disk α) : Prop :=
  ∀ m latest d', slash ∉ m.salt → restoreLatest empty m path d = .ok latest d' →
    ∃ r ∈ rs, r.On path ∧ ∃ c, r.old = some c ∧ d'.read path = .ok c

/-- The copy that a replacement puts aside looks like one of a file exactly when it is one, or is
mistaken for one. -/
theorem isCopyName_copy {r : Replacement α} :
    IsCopyName path r.copy ↔ base r.path = base path ∨ r.Mistaken path := by
  rw [copy, isCopyName_copyName r.not_mem_stamp.2, Mistaken, backupStart_eq]
  tauto

/-- Within one directory a copy is named by the replacement alone. -/
theorem copyPath_eq {r : Replacement α} (hdir : directory r.path = directory path) :
    r.copyPath = join (backupDirectory (directory path)) r.copy := by
  rw [copyPath, backupPath, hdir, copy, copyName]

/-- Replacements do not change the working directory, so paths lead where they led. -/
theorem Ran.place_eq {dir : Text} (h : Ran dir rs d d') (p : Text) : d'.place p = d.place p := by
  rw [place, place, h.home]

/-- After a run of replacements the working directory is still there. -/
theorem Ran.look_home {dir : Text} (h : Ran dir rs d d') (hhome : d.look d.home = some none) :
    d'.look d'.home = some none := by
  rw [h.home]
  exact h.dirs _ hhome

/-- Under the name of a copy that was made stands a copy of that name. -/
theorem Ran.stack_copy {dir : Text} (h : Ran dir rs d d') {r : Replacement α} (hr : r ∈ rs)
    (hold : r.old ≠ none) : ∃ s ∈ rs, ∃ c, s.old = some c ∧ s.copy = r.copy ∧
      (d'.stack (copiesPlace (d.place dir) ++ [r.copy])).head? = some (.file c) := by
  rcases h.copied r.copy with ⟨-, hnot⟩ | ⟨s, hs, c, hc, hname, hstack⟩
  · exact absurd rfl (hnot r hr hold)
  · refine ⟨s, hs, c, hc, hname, ?_⟩
    rw [hstack, List.head?_cons]

/-- When no copy of a file was listed before a run, those that are listed afterwards are those of
the run whose names count. They can be listed when no replacement made a file where the directory for
copies has to be. -/
theorem backups_of_run (hhome : d.look d.home = some none) (hstart : backups d path = .ok [])
    (h : Ran (directory path) rs d d') (hne : rs ≠ [])
    (hdir : ∀ r ∈ rs, directory r.path = directory path)
    (hstate : ∀ r ∈ rs, base r.path ≠ stateName) :
    ∃ names, backups d' path = .ok names ∧ names.Nodup ∧ ∀ p, p ∈ names ↔
      ∃ r ∈ rs, r.old ≠ none ∧ (base r.path = base path ∨ r.Mistaken path) ∧ p = r.copyPath := by
  obtain ⟨hspelled, hthere⟩ := h.there hne
  have hhome' := h.look_home hhome
  have hthere' : d'.look (d'.place (directory path)) = some none := by rwa [h.place_eq]
  -- at first no copy of the file is listed, so none stands in the directory
  have hfirst {n : Text} (hn : IsCopyName path n) :
      d.stack (copiesPlace (d.place (directory path)) ++ [n]) = [] :=
    stack_copies_of_backups_nil hhome hspelled hstart hn
  obtain ⟨hnostate, hnocopies⟩ := fileAt_copies_of_backups hhome hspelled hstart
  -- a run that replaces nothing called like the state directory leaves the way open
  obtain ⟨names, hnames⟩ : ∃ names, backups d' path = .ok names := by
    apply (exists_backups_iff hhome' hspelled hthere').2
    rw [h.place_eq, h.copies]
    refine ⟨?_, hnocopies⟩
    by_contra hfile
    rcases h.state.1 hfile with hfile | ⟨r, hr, hbase⟩
    · exact hfile hnostate
    · exact hstate r hr hbase
  -- hence all that stands there now was made by the run
  have hmade {n : Text} (hn : IsCopyName path n) :
      d'.stack (copiesPlace (d'.place (directory path)) ++ [n]) = [] ∨
        ∃ r ∈ rs, ∃ c, r.old = some c ∧ r.copy = n ∧
          d'.stack (copiesPlace (d'.place (directory path)) ++ [n]) = [.file c] := by
    rw [h.place_eq]
    rcases h.copied n with ⟨hsame, -⟩ | ⟨r, hr, c, hc, hname, hstack⟩
    · exact .inl (hsame.trans (hfirst hn))
    · rw [hfirst hn] at hstack
      exact .inr ⟨r, hr, c, hc, hname, hstack⟩
  refine ⟨names, hnames, ?_, fun p => ?_⟩
  · apply nodup_backups hhome' hspelled hthere' hnames
    · intro n hn
      rcases hmade hn with hnil | ⟨r, -, c, -, -, hstack⟩
      · simp [hnil]
      · simp [hstack]
    · intro n hn hstack
      rcases hmade hn with hnil | ⟨r, hr, -, -, rfl, -⟩
      · exact absurd hnil hstack
      · exact proper_copyName (h.named r hr) r.not_mem_stamp.1
  · rw [mem_backups hhome' hspelled hthere' hnames]
    constructor
    · rintro ⟨n, hstack, hn, rfl⟩
      rcases hmade hn with hnil | ⟨r, hr, c, hc, rfl, -⟩
      · exact absurd hnil hstack
      · exact ⟨r, hr, by simp [hc], isCopyName_copy.1 hn, (copyPath_eq (hdir r hr)).symm⟩
    · rintro ⟨r, hr, hold, hcounts, rfl⟩
      refine ⟨r.copy, fun hnil => ?_, isCopyName_copy.2 hcounts, copyPath_eq (hdir r hr)⟩
      obtain ⟨s, -, c, -, -, hhead⟩ := h.stack_copy hr hold
      rw [← h.place_eq, hnil] at hhead
      cases hhead

/-- Copies of the same path were made of the same file. -/
theorem base_eq_of_copyPath_eq {r s : Replacement α} (hr : slash ∉ base r.path)
    (hs : slash ∉ base s.path) (hdir : directory r.path = directory s.path)
    (h : r.copyPath = s.copyPath) : base r.path = base s.path := by
  rw [copyPath_eq hdir, copyPath_eq rfl] at h
  have hne := backupDirectory_ne_nil (directory s.path)
  obtain ⟨-, hleaf⟩ := leaf_join hne (proper_copyName hr r.not_mem_stamp.1)
  obtain ⟨-, hleaf'⟩ := leaf_join hne (proper_copyName hs s.not_mem_stamp.1)
  have hname : r.copy = s.copy := by
    rw [copy, copy, ← hleaf, ← hleaf']
    exact congrArg (fun p => (splitLast p).2) h
  exact (copyName_inj r.not_mem_stamp.2 s.not_mem_stamp.2 hname).1

/-- What is put back from a copy that a replacement of the file made was in the file. The copy is
one of the file, so it is not one that is merely called so. -/
theorem bringsBack_of_own {names : List Text} (h : Ran (directory path) rs d d')
    (hdir : ∀ r ∈ rs, directory r.path = directory path) (hnames : backups d' path = .ok names)
    (hown : Own path rs names) : BringsBack empty path rs d' := by
  intro m latest d'' hsalt hrestore
  obtain ⟨all, content, hall, hlatest, hread, hwrite⟩ := restoreLatest_eq_ok.1 hrestore
  cases hall.symm.trans hnames
  obtain ⟨r, hr, hon, hold, rfl⟩ := (hown.2 latest).1 (List.mem_of_getLast? hlatest)
  obtain ⟨s, hs, c, hc, hname, hhead⟩ := h.stack_copy hr hold
  obtain ⟨hbase, -⟩ := copyName_inj s.not_mem_stamp.2 r.not_mem_stamp.2 hname
  have hplace : d'.place r.copyPath = copiesPlace (d.place (directory path)) ++ [r.copy] := by
    rw [copyPath, place_backupPath d' (h.named r hr) r.not_mem_stamp.1, h.place_eq, hon.1, copy]
  have hc' : c = content := by
    have hfile := fileAt_eq_some.1 (fileAt_of_read hread)
    rw [hplace, look, Entry.look_eq_file, ← Entry.head?_stack] at hfile
    cases hhead.symm.trans hfile
    rfl
  refine ⟨s, hs, ⟨hdir s hs, hbase.trans hon.2⟩, c, hc, ?_⟩
  rw [hc']
  exact (writeAtomic_ok hsalt hwrite).2.1

/-- **Whose copies are listed.** From a disk where no copy of a file is listed, files of its directory
are replaced, each time with a copy kept. Afterwards the copies that are listed for the file are its
own, and what is put back was in the file, exactly when

* no file was put where the directory for copies has to be, and
* of no other file that was replaced the name goes on from that of the file behind a point, or with
  the stamp of the replacement is the name of the file. -/
theorem own_backups_iff (hhome : d.look d.home = some none) (hstart : backups d path = .ok [])
    (hdir : ∀ r ∈ rs, directory r.path = directory path) (hrun : Run empty rs d d') :
    ((∃ names, backups d' path = .ok names ∧ Own path rs names) ∧ BringsBack empty path rs d') ↔
      ∀ r ∈ rs, base r.path ≠ stateName ∧ (r.old ≠ none → ¬ r.Mistaken path) := by
  have h := hrun.ran hhome hdir
  -- without replacements nothing is known about the directory, and nothing is needed
  by_cases hne : rs = []
  · subst hne
    cases hrun
    simp only [List.not_mem_nil, false_implies, implies_true, iff_true]
    have hown : Own path ([] : List (Replacement α)) [] := ⟨List.nodup_nil, by simp⟩
    exact ⟨⟨[], hstart, hown⟩, bringsBack_of_own h hdir hstart hown⟩
  obtain ⟨hspelled, hthere⟩ := h.there hne
  constructor
  · rintro ⟨⟨names, hnames, hown⟩, -⟩
    -- a file in place of the state directory would hinder the listing
    have hstate : ∀ r ∈ rs, base r.path ≠ stateName := by
      intro r hr hbase
      obtain ⟨hnone, -⟩ := fileAt_copies_of_backups (h.look_home hhome) hspelled hnames
      rw [h.place_eq] at hnone
      exact h.state.2 (.inr ⟨r, hr, hbase⟩) hnone
    intro r hr
    refine ⟨hstate r hr, fun hold hmistaken => ?_⟩
    obtain ⟨names', hnames', -, hmem⟩ := backups_of_run hhome hstart h hne hdir hstate
    cases hnames.symm.trans hnames'
    obtain ⟨s, hs, hon, -, hpath⟩ :=
      (hown.2 r.copyPath).1 ((hmem _).2 ⟨r, hr, hold, .inr hmistaken, rfl⟩)
    have hbase := base_eq_of_copyPath_eq (h.named r hr) (h.named s hs)
      ((hdir r hr).trans hon.1.symm) hpath
    exact hmistaken.1 (hbase.trans hon.2)
  -- without mistaken names the copies listed are the file's own
  · intro hall
    obtain ⟨names, hnames, hnodup, hmem⟩ :=
      backups_of_run hhome hstart h hne hdir fun r hr => (hall r hr).1
    have hown : Own path rs names := by
      refine ⟨hnodup, fun p => ?_⟩
      rw [hmem]
      constructor
      · rintro ⟨r, hr, hold, hbase | hmistaken, rfl⟩
        · exact ⟨r, hr, ⟨hdir r hr, hbase⟩, hold, rfl⟩
        · exact absurd hmistaken ((hall r hr).2 hold)
      · rintro ⟨r, hr, hon, hold, rfl⟩
        exact ⟨r, hr, hold, .inl hon.2, rfl⟩
    exact ⟨⟨names, hnames, hown⟩, bringsBack_of_own h hdir hnames hown⟩

/-- A disk with nothing on it. -/
def bare : Disk Nat :=
  ⟨.directory [], []⟩

/-- A file is written in the first second and in the second one. -/
def twice (name : Text) : List (Replacement Nat) :=
  [⟨name, .ofSeconds 0, Text.lit "x", 1, none⟩, ⟨name, .ofSeconds 1, Text.lit "y", 2, some 1⟩]

/-- What that leaves behind. -/
def afterTwice (name : Text) : Disk Nat :=
  ⟨.directory [(name, .file 2), (stateName, .directory [(Text.lit "backups",
    .directory [(name ++ Text.lit ".19700101-000001.bak", .file 1)])])], []⟩

/-- The example is a run: one file in the working directory is replaced twice, in two different
seconds. -/
theorem run_twice {name : Text} (h : name = Text.lit "a" ∨ name = Text.lit "a.b") :
    Run 0 (twice name) bare (afterTwice name) := by
  rcases h with rfl | rfl
  · have hfirst : Done 0 ⟨Text.lit "a", .ofSeconds 0, Text.lit "x", 1, none⟩ bare
        ⟨.directory [(Text.lit "a", .file 1)], []⟩ :=
      ⟨by decide, by decide, by decide, by rfl⟩
    exact .cons hfirst (.cons ⟨by decide, by decide, by rfl, by rfl⟩ (.nil _))
  · have hfirst : Done 0 ⟨Text.lit "a.b", .ofSeconds 0, Text.lit "x", 1, none⟩ bare
        ⟨.directory [(Text.lit "a.b", .file 1)], []⟩ :=
      ⟨by decide, by decide, by decide, by rfl⟩
    exact .cons hfirst (.cons ⟨by decide, by decide, by rfl, by rfl⟩ (.nil _))

/-- On a disk without copies the file `a` is replaced twice. The copies that are listed for it
afterwards are its own, and what is put back was in it. -/
theorem own_backups_iff_of_pair :
    backups bare (Text.lit "a") = .ok [] ∧
      (∃ names, backups (afterTwice (Text.lit "a")) (Text.lit "a") = .ok names ∧
        Own (Text.lit "a") (twice (Text.lit "a")) names) ∧
      BringsBack 0 (Text.lit "a") (twice (Text.lit "a")) (afterTwice (Text.lit "a")) := by
  refine ⟨by rfl, (own_backups_iff (by rfl) (by rfl) (by decide) (run_twice (.inl rfl))).2 ?_⟩
  have hbase : ∀ r ∈ twice (Text.lit "a"), base r.path = Text.lit "a" := by decide
  intro r hr
  exact ⟨by rw [hbase r hr]; decide, fun _ hmistaken => hmistaken.1 (hbase r hr)⟩

/-- Of the file `a` there is nothing, and yet what `a.b` held is put in its place. -/
theorem restoreLatest_of_longer_name :
    Run 0 (twice (Text.lit "a.b")) bare (afterTwice (Text.lit "a.b")) ∧
      backups bare (Text.lit "a") = .ok [] ∧
      (∀ r ∈ twice (Text.lit "a.b"), ¬ r.On (Text.lit "a")) ∧
      backups (afterTwice (Text.lit "a.b")) (Text.lit "a") =
        .ok [Text.lit ".mdrpy/backups/a.b.19700101-000001.bak"] ∧
      ∃ d', restoreLatest 0 ⟨Text.lit "19700101-000002", Text.lit "z"⟩ (Text.lit "a")
          (afterTwice (Text.lit "a.b")) = .ok (Text.lit ".mdrpy/backups/a.b.19700101-000001.bak") d' ∧
        d'.read (Text.lit "a") = .ok 1 := by
  have hfind : (afterTwice (Text.lit "a.b")).find (backupDirectory (directory (Text.lit "a"))) =
      .ok (.directory [(Text.lit "a.b.19700101-000001.bak", .file 1)]) := by rfl
  have hall : backups (afterTwice (Text.lit "a.b")) (Text.lit "a") =
      .ok [Text.lit ".mdrpy/backups/a.b.19700101-000001.bak"] :=
    backups_of_find hfind (by decide) (by decide)
  refine ⟨run_twice (.inr rfl), by rfl, ?_, hall, _,
    restoreLatest_eq_ok.2 ⟨_, 1, hall, rfl, by rfl, by rfl⟩, by rfl⟩
  have hbase : ∀ r ∈ twice (Text.lit "a.b"), base r.path = Text.lit "a.b" := by decide
  intro r hr hon
  exact absurd ((hbase r hr).symm.trans hon.2) (by decide)

end Replacement

end NovelScript.Files
