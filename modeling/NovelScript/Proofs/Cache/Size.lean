import Mathlib.Algebra.BigOperators.Group.Finset.Basic
import Mathlib.Algebra.Order.BigOperators.Group.Finset
import Mathlib.Data.List.TakeWhile
import NovelScript.Proofs.Build.Transparency
import NovelScript.Proofs.Cache.Refinement
import NovelScript.Proofs.Text.Utf8

/-!
# How large a cache says it is

The table sums up the lengths of its texts, and the length of a text is a number of characters: in a
file of those in front of a zero, on a server of all. How a server counts is assumed
(`Server.CountsCharacters`). Builds report numbers of bytes.

* From the bytes of a character (`Text.encodeChar_cases`) follow `Text.length_eq_encode_iff`, that
  there are as many characters as bytes only where all bytes are below 128, and
  `Table.lengthFrom_encode`, that a table counts characters.
* `sizes_of_records` brings this together with what a history leaves in the table.
* `Build.Builder.entry_of_produce` says which script a build leaves in the table.
* **`size_counts_characters`** says what the size of a cache is after any history, when it is the
  number of bytes, and what builds report.
-/

namespace NovelScript

/-! ## Characters and bytes -/

namespace Text

/-- The bytes below 128. -/
def isAscii (s : Text) : Prop :=
  ∀ b ∈ s, b < 0x80

/-- No text has more characters than bytes. -/
theorem length_le_encode (cs : List Char) : cs.length ≤ (encode cs).length := by
  induction cs with
  | nil => exact Nat.zero_le _
  | cons c cs ih =>
    have hcons : encode (c :: cs) = encodeChar c ++ encode cs := rfl
    have hpos : 0 < (encodeChar c).length := by
      rcases encodeChar_cases c with ⟨b, hb, -⟩ | ⟨b, rest, hb, -⟩
      · simp [hb]
      · simp [hb]
    rw [hcons, List.length_append, List.length_cons]
    omega

/-- As many characters as bytes are read only where every byte is one. The proof goes by the forms
of characters, of which only the first takes a single byte. -/
theorem length_eq_encode_iff (cs : List Char) :
    cs.length = (encode cs).length ↔ isAscii (encode cs) := by
  induction cs with
  | nil => simp [encode, isAscii]
  | cons c cs ih =>
    have hcons : encode (c :: cs) = encodeChar c ++ encode cs := rfl
    have hle := length_le_encode cs
    have hsplit : isAscii (encodeChar c ++ encode cs) ↔
        (∀ b ∈ encodeChar c, b < 0x80) ∧ isAscii (encode cs) := List.forall_mem_append
    rw [hcons, hsplit, ← ih, List.length_append, List.length_cons]
    rcases encodeChar_cases c with ⟨b, hb, hascii, -⟩ | ⟨b, rest, hb, hlead, hrest, -⟩
    · rw [hb]
      simp only [List.length_singleton, List.mem_singleton, forall_eq, hascii, true_and]
      omega
    · have hnot : ¬ b < 0x80 := by
        rw [UInt8.le_iff_toNat_le] at hlead
        rw [UInt8.lt_iff_toNat_lt]
        have h1 : (0xC0 : UInt8).toNat = 192 := rfl
        have h2 : (0x80 : UInt8).toNat = 128 := rfl
        omega
      have hpos := List.length_pos_iff.2 hrest
      rw [hb]
      simp only [List.length_cons, List.mem_cons, forall_eq_or_imp, hnot, false_and, iff_false]
      omega

/-- A byte of zero stands for the character of code zero and for no part of another one. -/
theorem mem_zero_encode (cs : List Char) : (0 : UInt8) ∈ encode cs ↔ ∃ c ∈ cs, c.toNat = 0 := by
  have hchar (c : Char) : (0 : UInt8) ∈ encodeChar c ↔ c.toNat = 0 :=
    mem_encodeChar_of_ascii (by decide)
  rw [encode, List.mem_flatMap]
  simp only [hchar]

end Text

namespace Cache.Table

open Text (encode encodeChar isContinuation)

/-- The characters in front of the first one of code zero. -/
def beforeZero (cs : List Char) : List Char :=
  cs.takeWhile fun c => c.toNat != 0

/-- Within a character the table does not count: bytes that continue it are passed over. -/
theorem lengthFrom_continues {rest : Text} (h : ∀ x ∈ rest, isContinuation x = true) (r : Text) :
    lengthFrom true (rest ++ r) = lengthFrom true r := by
  induction rest with
  | nil => rfl
  | cons b rest ih =>
    have hb := Text.isContinuation_iff.1 (h b List.mem_cons_self)
    have hinside : (true && decide (0x80 ≤ b) && decide (b < 0xC0)) = true := by
      simp only [Bool.true_and, Bool.and_eq_true, decide_eq_true_eq, UInt8.le_iff_toNat_le,
        UInt8.lt_iff_toNat_lt]
      have h1 : (0xC0 : UInt8).toNat = 192 := rfl
      have h2 : (0x80 : UInt8).toNat = 128 := rfl
      omega
    rw [List.cons_append, lengthFrom, if_pos hinside]
    exact ih fun x hx => h x (List.mem_cons_of_mem _ hx)

/-- A table counts the characters of a text up to the first zero, wherever it starts to count. The
induction is on the characters, for both cases of being within one, because a table counts bytes
that do not continue a character. -/
theorem lengthFrom_encode (inside : Bool) (cs : List Char) :
    lengthFrom inside (encode cs) = (beforeZero cs).length := by
  induction cs generalizing inside with
  | nil => simp [encode, beforeZero, lengthFrom]
  | cons c cs ih =>
    have hcons : encode (c :: cs) = encodeChar c ++ encode cs := rfl
    rw [hcons]
    rcases Text.encodeChar_cases c with ⟨b, hb, hascii, hcode⟩ |
      ⟨b, rest, hb, hlead, hrest, hcontinues, hcode⟩
    · have hnot : ¬ 0x80 ≤ b := by
        rw [UInt8.not_le]
        exact hascii
      have hnotlead : ¬ 0xC0 ≤ b := by
        intro hle
        apply hnot
        exact UInt8.le_trans (by decide) hle
      have hzero : b = 0 ↔ c.toNat = 0 := by
        rw [← hcode, ← UInt8.toNat_inj]
        rfl
      rw [hb, List.singleton_append, lengthFrom, if_neg (by simp [hnot])]
      by_cases hc : c.toNat = 0
      · rw [if_pos (hzero.2 hc)]
        simp [beforeZero, hc]
      · rw [if_neg (mt hzero.1 hc), ih]
        simp [beforeZero, hc]
        omega
    · have hnot : ¬ b < 0xC0 := UInt8.not_lt.2 hlead
      have hzero : b ≠ 0 := by
        rintro rfl
        exact absurd hlead (by decide)
      rw [hb, List.cons_append, lengthFrom, if_neg (by simp [hnot]), if_neg hzero,
        decide_eq_true hlead, lengthFrom_continues hcontinues, ih]
      have hnonzero : c.toNat ≠ 0 := by omega
      simp [beforeZero, hnonzero]
      omega

/-- The length that a file gives a text is the number of its characters in front of the first one of
code zero. -/
theorem textLength_eq {s : Text} (h : Text.isValid s = true) :
    textLength s = (beforeZero (Text.decode s)).length := by
  rw [textLength, ← lengthFrom_encode false, Text.encode_decode h]

end Cache.Table

namespace Cache

open Files (Disk)
open Table (beforeZero)

/-! ## What is counted -/

/-- How many characters of a text a file counts: those in front of the first zero. -/
def countInFile (s : Text) : Nat :=
  (beforeZero (Text.decode s)).length

/-- How many characters of a text a server counts. -/
def countOnServer (s : Text) : Nat :=
  (Text.decode s).length

/-- No text counts for more than its bytes on a server. -/
theorem countOnServer_le {s : Text} (h : Text.isValid s = true) : countOnServer s ≤ s.length := by
  have hle := Text.length_le_encode (Text.decode s)
  rwa [Text.encode_decode h] at hle

/-- A text counts for as many as it has bytes on a server only when all of its bytes are below 128.
This is the exact extent of the difference between the two ways to count. -/
theorem countOnServer_eq_iff {s : Text} (h : Text.isValid s = true) :
    countOnServer s = s.length ↔ Text.isAscii s := by
  have hiff := Text.length_eq_encode_iff (Text.decode s)
  rwa [Text.encode_decode h] at hiff

/-- A file counts no more characters than a server. -/
theorem countInFile_le (s : Text) : countInFile s ≤ countOnServer s :=
  (List.takeWhile_sublist _).length_le

/-- A file counts as many characters as a text has bytes only when all of its bytes are below 128
and, besides, none is zero. -/
theorem countInFile_eq_iff {s : Text} (h : Text.isValid s = true) :
    countInFile s = s.length ↔ Text.isAscii s ∧ (0 : UInt8) ∉ s := by
  have hle := countInFile_le s
  have hle' := countOnServer_le h
  have hzero : countInFile s = countOnServer s ↔ (0 : UInt8) ∉ s := by
    have hprefix : beforeZero (Text.decode s) <+: Text.decode s := List.takeWhile_prefix _
    have hsame : countInFile s = countOnServer s ↔ beforeZero (Text.decode s) = Text.decode s :=
      ⟨fun heq => hprefix.eq_of_length heq, fun heq => by rw [countInFile, heq, countOnServer]⟩
    have hmem := Text.mem_zero_encode (Text.decode s)
    rw [Text.encode_decode h] at hmem
    rw [hsame, hmem, beforeZero, List.takeWhile_eq_self_iff]
    simp
  rw [← countOnServer_eq_iff h, ← hzero]
  omega

/-- A cache that says how large it is says the sum of what it counts of each live script. That is the
number of their bytes when all of them are plain, and only then. It does say so where it is `sure`
to. -/
def Sizes {σ : Type} (c : Service σ) (sure : Prop) (history : List Step) (st : σ)
    (count : Text → Nat) (Plain : Text → Prop) : Prop :=
  ∃ live : Finset Entry, (∀ e, e ∈ live ↔ Live history e) ∧
    Answered sure c.stats st (fun s _ => s.size = (∑ e ∈ live, count e.output : Nat) ∧
      (s.size = (∑ e ∈ live, e.output.length : Nat) ↔ ∀ e ∈ live, Plain e.output)) fun _ => True

/-- All scripts of a history are texts of characters. -/
def Written (history : List Step) : Prop :=
  ∀ now o, .store now o ∈ history → Text.isValid o.output = true

/-- What is heard of texts are texts. -/
theorem Written.heard {σ : Type} {history : List Step} (h : Written history) (c : Service σ)
    (st : σ) : Written (c.heard st history) :=
  fun now o ho => h now o ((c.heard_sublist st history).subset ho)

/-- So a table that records the history has only texts. -/
theorem valid_of_records {t : Table} {history : List Step} (hwritten : Written history)
    (hrec : t.Records history) : ∀ e ∈ t, Text.isValid e.output = true := by
  intro e he
  obtain ⟨-, before, step, after, rfl, hkeeps, -⟩ := (hrec.2 e).1 he
  cases step with
  | store now o =>
    cases hkeeps
    exact hwritten now o (List.mem_append_right _ List.mem_cons_self)
  | prune cutoff => cases hkeeps
  | lookup path source options => cases hkeeps
  | stats => cases hkeeps

/-- A cache whose size is the sum over its table has a size in this sense, when no text counts for
more than its bytes: a sum of lesser numbers is as large as one of greater ones only when all of them
are equal. -/
theorem sizes_of_records {σ : Type} {c : Service σ} {sure : Prop} {history : List Step} {st : σ}
    {t : Table} {count : Text → Nat} {Plain : Text → Prop} (hwritten : Written history)
    (hrec : t.Records history)
    (hstats : Answered sure c.stats st
      (fun s _ => s.size = ((t.map fun e => count e.output).sum : Nat)) fun _ => True)
    (hle : ∀ x, Text.isValid x = true → count x ≤ x.length)
    (hiff : ∀ x, Text.isValid x = true → (count x = x.length ↔ Plain x)) :
    Sizes c sure history st count Plain := by
  have hnodup : t.Nodup := List.Nodup.of_map _ hrec.1
  have hlive (e : Entry) : e ∈ t.toFinset ↔ Live history e := by rw [List.mem_toFinset, hrec.2]
  have hvalid : ∀ e ∈ t.toFinset, Text.isValid e.output = true := fun e he =>
    valid_of_records hwritten hrec e (List.mem_toFinset.1 he)
  refine ⟨t.toFinset, hlive, hstats.imp fun s _ hsize => ?_⟩
  have hsum : s.size = (∑ e ∈ t.toFinset, count e.output : Nat) := by
    rw [List.sum_toFinset _ hnodup]
    exact hsize
  refine ⟨hsum, ?_⟩
  rw [hsum, Int.natCast_inj, Finset.sum_eq_sum_iff_of_le fun e he => hle _ (hvalid e he)]
  exact forall₂_congr fun e he => hiff _ (hvalid e he)

/-- What a cache in a file says about its size, in terms of its table. -/
theorem Handle.stats_size {h : Handle} {d : Disk Content} {t : Table} (ht : h.table? d = some t)
    (hvalid : ∀ e ∈ t, Text.isValid e.output = true) :
    h.service.stats d = .ok t.stats d ∧
      t.stats.size = ((t.map fun e => countInFile e.output).sum : Nat) := by
  have hstats := Handle.stats_of_builds? (Handle.table?_eq_some_iff.1 ht)
  constructor
  · simp only [Handle.service, hstats]
  · have hcount : t.map (fun e => countInFile e.output) = t.map fun e => Table.textLength e.output :=
      List.map_congr_left fun e he => (Table.textLength_eq (hvalid e he)).symm
    rw [hcount, Table.stats, List.sum_eq_foldl, List.foldl_map]

/-- The server counts the characters of each script when it sums up the table. -/
def Server.CountsCharacters {σ : Type} (s : Server σ) (table : σ → Table) : Prop :=
  ∀ st a st', s.call Step.stats.call st = (.ok a, st') → ∃ entries oldest newest, a.Brings
    [[entries, .int (((table st).map fun e => countOnServer e.output).sum : Nat), oldest, newest]]

/-- What the cache says of a server that counts is what the server has counted, read back as a
number. -/
theorem Server.stats_size {σ : Type} {s : Server σ} {table : σ → Table} {Sure : Step → Prop}
    (hs : s.KeepsTable table Sure) (hcounts : s.CountsCharacters table) (st : σ) :
    Answered (Sure .stats) s.service.stats st
      (fun x _ => x.size = (((table st).map fun e => countOnServer e.output).sum : Nat))
      fun _ => True := by
  refine answered_ask (T := (·.broken = none)) (fun f st' _ => trivial) (fun a st' hc => ?_)
    (hs.sure st .stats)
  obtain ⟨entries, oldest, newest, hbrings⟩ := hcounts st a st' hc
  cases hrows : a.rows with
  | nil =>
    cases hbroken : a.broken with
    | some f => exact .of_error rfl trivial (by simp)
    | none => exact absurd (hbrings.eq_nil hrows hbroken) (by simp)
  | cons row more =>
    obtain ⟨rest, hrow⟩ := hbrings.exists_eq_cons hrows
    cases hrow
    exact .of_ok rfl rfl

end Cache

/-! ## What a build reports -/

namespace Build.Builder

open Cache (Handle Table)

section

variable {b : Builder} {i : Instant} {source rel text script : Text} {cached : Bool} {h : Handle}
  {t : Table} {s s' : Site}

/-- A build asks the table for the script of the document as it is now. -/
theorem lookUp_of_table? (hcache : b.cache = some h) (ht : h.table? s.disk = some t) :
    b.lookUp source rel text s =
      .ok (t.lookup rel (sourceFingerprint text) (optionsFingerprint b.options)) s := by
  have hlookup : h.lookup false rel (sourceFingerprint text) (optionsFingerprint b.options) s.disk =
      .ok (t.lookup rel (sourceFingerprint text) (optionsFingerprint b.options)) :=
    Handle.lookup_eq_ok.2 ⟨_, Handle.table?_eq_some_iff.1 ht, rfl⟩
  unfold lookUp
  rw [hcache]
  refine Files.bind_eq_ok.2 ⟨s, s, rfl, ?_⟩
  rw [hlookup]
  rfl

/-- What a build has made is in the table afterwards, as the entry of the document. -/
theorem keep_of_table? (hcache : b.cache = some h) (ht : h.table? s.disk = some t)
    (hrel : Text.isBlank rel = false) :
    ∃ e : Cache.Entry, e.path = rel ∧ e.output = script ∧
      ∃ d, b.keep i source rel text script s = .ok () { s with disk := d } ∧
        h.table? d = some (t.store e) := by
  let o : Cache.Offer :=
    { path := rel, source := sourceFingerprint text, options := optionsFingerprint b.options
      output := script, run := b.run }
  obtain ⟨d, hstored, hafter⟩ := Handle.store_of_table? ht (e := o.entry i.now) hrel
  refine ⟨o.entry i.now, rfl, rfl, d, ?_, hafter⟩
  unfold keep
  rw [hcache]
  refine Files.bind_eq_ok.2 ⟨s, s, rfl, ?_⟩
  rw [Handle.keep, hstored]
  rfl

/-- When a script has been found or made, the table has an entry of the document with that
script. -/
theorem entry_of_produce (hcache : b.cache = some h) (ht : h.table? s.disk = some t)
    (hnodup : (t.map (·.path)).Nodup) (hrel : Text.isBlank rel = false)
    (hproduce : b.produce i source rel text s = .ok (script, cached) s') :
    ∃ t' e, h.table? s'.disk = some t' ∧ e ∈ t' ∧ e.path = rel ∧ e.output = script := by
  unfold produce at hproduce
  obtain ⟨found, s₁, hlook, hproduce⟩ := Files.bind_eq_ok.1 hproduce
  cases (lookUp_of_table? hcache ht).symm.trans hlook
  -- found in the table, the entry is there already; made anew, it is kept
  cases hhit : t.lookup rel (sourceFingerprint text) (optionsFingerprint b.options) with
  | some script' =>
    rw [hhit] at hproduce
    cases hproduce
    obtain ⟨e, he, hpath, -, -, houtput⟩ := Table.exists_of_lookup hhit
    exact ⟨t, e, ht, he, hpath, houtput⟩
  | none =>
    rw [hhit] at hproduce
    dsimp only at hproduce
    cases hscript : scriptOf b.options text with
    | error x =>
      rw [hscript] at hproduce
      cases hproduce
    | ok script' =>
      rw [hscript] at hproduce
      obtain ⟨u, s₂, hkeep, hproduce⟩ := Files.bind_eq_ok.1 hproduce
      cases hproduce
      obtain ⟨e, hpath, houtput, d, hkept, hafter⟩ := keep_of_table? hcache ht hrel
      cases hkept.symm.trans hkeep
      exact ⟨t.store e, e, hafter, (Table.mem_store_iff hnodup).2 (.inl rfl), hpath, houtput⟩

end

end Build.Builder

namespace Build.Job

/-- A build reports the length of the script that it has got when it comes to writing the file, from
the cache or made anew. This length is one of bytes. -/
theorem size_of_buildOne {j : Job} {cancelled : Bool} {s s' : Site} {r : Result}
    (h : j.builder.buildOne j.instant cancelled j.root j.source s = .ok r s') :
    ∃ text script s₁, j.builder.produce j.instant j.source j.rel text s = .ok (script, r.cached) s₁ ∧
      r.size = script.length := by
  rw [buildOne_eq] at h
  split at h
  · cases h
  split at h
  · cases h
  · obtain ⟨text, s₁, hread, h⟩ := Files.bind_eq_ok.1 h
    obtain ⟨⟨script, cached⟩, s₂, hproduce, h⟩ := Files.bind_eq_ok.1 h
    obtain ⟨written, s₃, -, h⟩ := Files.bind_eq_ok.1 h
    have hsame : s₁ = s := by
      rw [readSource_eq] at hread
      split at hread
      · cases hread
        rfl
      · cases hread
    cases h
    rw [hsame] at hproduce
    exact ⟨text, script, s₂, hproduce, rfl⟩

end Build.Job

namespace Cache

open Files (Disk)

/-- **The size of a cache is a number of characters.** After every history that starts with an empty
table the size is what is counted of the live scripts: in a file the characters in front of a zero,
on a server all characters. It is the number of their bytes only when all bytes are below 128 and, in
a file, none is zero. What builds report is the number of bytes: when a build comes to writing the
script, the table has an entry of the document whose script has as many bytes as the build
reports.

Of a server it is said for the requests that it has answered, and for the whole history where it is
sure to take all of it. -/
theorem size_counts_characters {history : List Step} (hwritten : Written history) :
    (∀ (h : Handle) (d : Disk Content), h.table? d = some [] →
      Sizes h.service True history (h.service.run d history) countInFile
        fun s => Text.isAscii s ∧ (0 : UInt8) ∉ s) ∧
    (∀ (σ : Type) (s : Server σ) (table : σ → Table) (Sure : Step → Prop),
      s.KeepsTable table Sure → s.CountsCharacters table → ∀ st, table st = [] →
        Sizes s.service (Sure .stats) (s.service.heard st history) (s.service.run st history)
            countOnServer Text.isAscii ∧
          ((∀ step ∈ history, Sure step) →
            Sizes s.service (Sure .stats) history (s.service.run st history) countOnServer
              Text.isAscii)) ∧
    ∀ (j : Build.Job) (h : Handle) (t : Table) (s s' : Build.Site) (r : Build.Result),
      j.builder.cache = some h → h.table? s.disk = some t → (t.map (·.path)).Nodup →
      Text.isBlank j.rel = false →
      j.builder.buildOne j.instant false j.root j.source s = .ok r s' →
      ∃ text script s₁ t' e,
        j.builder.produce j.instant j.source j.rel text s = .ok (script, r.cached) s₁ ∧
          h.table? s₁.disk = some t' ∧ e ∈ t' ∧ e.path = j.rel ∧ r.size = e.output.length := by
  refine ⟨?_, ?_, ?_⟩
  · intro h d hempty
    obtain ⟨t, ht, hrec⟩ :=
      (serves_handle h).run_of_sure hempty Table.Records.nil history fun _ _ => trivial
    rw [List.nil_append] at hrec
    obtain ⟨hstats, hsize⟩ := Handle.stats_size ht (valid_of_records hwritten hrec)
    refine sizes_of_records hwritten hrec (.of_ok hstats hsize) (fun x hx => ?_) fun x hx => ?_
    · exact (countInFile_le x).trans (countOnServer_le hx)
    · exact countInFile_eq_iff hx
  · intro σ s table Sure hs hcounts st hempty
    have hstart : some (table st) = some [] := by rw [hempty]
    -- both halves are about the table at the end; they differ in the history that it records
    have hsizes {past : List Step} {t : Table} (hpast : Written past)
        (ht : some (table (s.service.run st history)) = some t) (hrec : t.Records past) :
        Sizes s.service (Sure .stats) past (s.service.run st history) countOnServer
          Text.isAscii := by
      rw [Option.some_inj] at ht
      subst ht
      exact sizes_of_records hpast hrec (Server.stats_size hs hcounts _)
        (fun x hx => countOnServer_le hx) fun x hx => countOnServer_eq_iff hx
    constructor
    · obtain ⟨t, ht, hrec⟩ := (serves_server hs).run hstart Table.Records.nil history
      exact hsizes (hwritten.heard s.service st) ht hrec
    · intro hsure
      obtain ⟨t, ht, hrec⟩ := (serves_server hs).run_of_sure hstart Table.Records.nil history hsure
      exact hsizes hwritten ht hrec
  · intro j h t s s' r hcache ht hnodup hrel hbuild
    obtain ⟨text, script, s₁, hproduce, hsize⟩ := Build.Job.size_of_buildOne hbuild
    obtain ⟨t', e, ht', he, hpath, houtput⟩ :=
      Build.Builder.entry_of_produce hcache ht hnodup hrel hproduce
    exact ⟨text, script, s₁, t', e, hproduce, ht', he, hpath, by rw [hsize, houtput]⟩

namespace Sample

/-- A server that sums up the characters of the scripts. -/
def counting : Server Table where
  call c t :=
    if c = Step.stats.call then
      (.ok { rows := [[.int t.length, .int (t.map fun e => countOnServer e.output).sum,
        Server.timeCell t.stats.oldest, Server.timeCell t.stats.newest]] }, t)
    else server.call c t

/-- The counting server differs from the sample server in one answer alone. -/
theorem counting_call {c : Call} (h : c ≠ Step.stats.call) (t : Table) :
    counting.call c t = server.call c t := by
  simp only [counting, if_neg h]

/-- The one answer in which the counting server differs sums up characters. -/
theorem counting_stats (t : Table) : counting.call Step.stats.call t =
    (.ok { rows := [[.int t.length, .int (t.map fun e => countOnServer e.output).sum,
      Server.timeCell t.stats.oldest, Server.timeCell t.stats.newest]] }, t) := by
  simp only [counting, if_true]

/-- The counting server keeps a table as the sample server does: it answers one statement
differently, and that statement changes nothing. -/
theorem keepsTable_counting : counting.KeepsTable id Textual where
  select t path source options a t' h := by
    rw [counting_call (by simp [Step.call])] at h
    exact keepsTable_server.select t path source options a t' h
  upsert t now o a t' h := by
    rw [counting_call (by simp [Step.call])] at h
    exact keepsTable_server.upsert t now o a t' h
  delete t cutoff a t' h := by
    rw [counting_call (by simp [Step.call])] at h
    exact keepsTable_server.delete t cutoff a t' h
  sumUp t a t' h := by
    rw [counting_stats] at h
    cases h
    exact ⟨rfl, _, List.prefix_rfl, fun _ => rfl⟩
  refused t step f t' h := by
    by_cases hstats : step.call = Step.stats.call
    · rw [hstats, counting_stats] at h
      cases h
    · rw [counting_call hstats] at h
      exact keepsTable_server.refused t step f t' h
  sure t step hstep := by
    by_cases hstats : step.call = Step.stats.call
    · rw [hstats, counting_stats]
      exact ⟨_, _, rfl, rfl⟩
    · rw [counting_call hstats]
      exact keepsTable_server.sure t step hstep

/-- The counting server counts characters, so that the assumptions about servers that count can be
met, and the theorem about sizes is not an empty one. -/
theorem countsCharacters_counting : counting.CountsCharacters id := by
  intro t a t' h
  rw [counting_stats] at h
  cases h
  exact ⟨_, _, _, List.prefix_rfl, fun _ => rfl⟩

/-- A script with an accent is kept. -/
def accented : List Step :=
  [.store 0 (built "é" 1)]

/-- The script of the example is a text. -/
theorem written_accented : Written accented := by
  intro now o ho
  rw [accented, List.mem_singleton, Step.store.injEq] at ho
  rw [ho.2]
  decide

/-- A document that is built from the cache. -/
theorem buildOne_hit : ∃ s', Build.Sample.job.builder.buildOne Build.Sample.job.instant false
    Build.Sample.job.root Build.Sample.job.source Build.Sample.site =
      .ok (Build.Sample.job.result Build.Sample.script true true) s' := by
  obtain ⟨s', hwrite⟩ : ∃ s', Build.Sample.job.next {}
      (.differing Build.Sample.text Build.Sample.script true) Build.Sample.site =
        .ok (.done Build.Sample.text (Build.Sample.job.result Build.Sample.script true true)) s' :=
    ⟨_, rfl⟩
  have hdrive : Build.Sample.job.drive {} 7 .waiting Build.Sample.site =
      .ok (.done Build.Sample.text (Build.Sample.job.result Build.Sample.script true true)) s' := by
    rw [Build.Job.drive_ok Build.Sample.next_waiting, Build.Job.drive_ok Build.Sample.next_admitted,
      Build.Job.drive_ok Build.Sample.next_read, Build.Job.drive_ok Build.Sample.next_ready,
      Build.Job.drive_ok hwrite, Build.Job.drive_done]
  exact ⟨s', Build.Job.buildOne_eq_ok hdrive⟩

end Sample

/-- A script of one character that takes two bytes, on a file and on a server, and a build that
reports two. -/
theorem size_counts_characters_of_accent :
    Written Sample.accented ∧
    (Sample.opened.1.table? Sample.opened.2 = some [] ∧
      Sizes Sample.opened.1.service True Sample.accented
        (Sample.opened.1.service.run Sample.opened.2 Sample.accented) countInFile
        fun s => Text.isAscii s ∧ (0 : UInt8) ∉ s) ∧
    (Sample.counting.KeepsTable id Sample.Textual ∧ Sample.counting.CountsCharacters id ∧
      (∀ step ∈ Sample.accented, Sample.Textual step) ∧
      Sizes Sample.counting.service (Sample.Textual .stats) Sample.accented
        (Sample.counting.service.run [] Sample.accented) countOnServer Text.isAscii) ∧
    ∃ text script s₁ t' e,
      Build.Sample.job.builder.produce Build.Sample.job.instant Build.Sample.job.source
          Build.Sample.job.rel text Build.Sample.site = .ok (script, true) s₁ ∧
        Build.Sample.handle.table? s₁.disk = some t' ∧ e ∈ t' ∧ e.path = Build.Sample.job.rel ∧
          Build.Sample.script.length = e.output.length := by
  have hnew : Sample.opened.1.table? Sample.opened.2 = some [] := by rfl
  have htext : ∀ step ∈ Sample.accented, Sample.Textual step := by decide
  obtain ⟨s', hbuild⟩ := Sample.buildOne_hit
  obtain ⟨hfile, hserver, hbuilds⟩ := size_counts_characters Sample.written_accented
  refine ⟨Sample.written_accented, ⟨hnew, ?_⟩,
    ⟨Sample.keepsTable_counting, Sample.countsCharacters_counting, htext, ?_⟩, ?_⟩
  · exact hfile _ _ hnew
  · exact (hserver _ _ _ _ Sample.keepsTable_counting Sample.countsCharacters_counting [] rfl).2
      htext
  · exact hbuilds Build.Sample.job Build.Sample.handle
      [Build.Sample.job.entry Build.Sample.text Build.Sample.script] Build.Sample.site s' _ rfl rfl
      (by simp) rfl hbuild

/-- A script of one character that takes two bytes is counted as one. -/
theorem stats_of_accent :
    Live Sample.accented ((Sample.built "é" 1).entry 0) ∧
      (Sample.built "é" 1).output.length = 2 ∧
      (∀ e, Live Sample.accented e → e = (Sample.built "é" 1).entry 0) ∧
      ∃ s st', Sample.opened.1.service.stats
          (Sample.opened.1.service.run Sample.opened.2 Sample.accented) = .ok s st' ∧ s.size = 1 := by
  have hlive (e : Entry) : Live Sample.accented e ↔ (Sample.built "é" 1).entry 0 = e := by
    rw [Sample.accented, ← List.nil_append [Step.store 0 (Sample.built "é" 1)], live_concat]
    constructor
    · rintro (⟨hkeeps, -⟩ | ⟨hlive, -⟩)
      · exact hkeeps
      · exact absurd hlive (not_live_nil e)
    · rintro rfl
      exact .inl ⟨rfl, by decide⟩
  refine ⟨(hlive _).2 rfl, by decide, fun e he => ((hlive e).1 he).symm, ?_⟩
  exact ⟨_, _, rfl, rfl⟩

end Cache

end NovelScript
