import NovelScript.Config.Load
import NovelScript.Config.Save
import NovelScript.Proofs.Config.Schema
import NovelScript.Proofs.Files.Disk
import NovelScript.Proofs.Text.Space

/-!
# Settings that are saved and loaded

Settings in force are written to a file as a whole, and the file is laid over the same settings of
the user, or over none. What comes out depends on what a layer cannot say: an empty name and the
number zero leave what is under them as it is, names lose white space, and the environment has the
last word.

Loaded settings bear all this. They are `Tidy`: no name has white space around it, and there is a
cast. They are `Over` what they were loaded over: they already say what the environment says, and
where they say nothing, nothing under them does. Settings like that come out unchanged when they are
laid over the same again (`apply_layer`).

The order of a cast has no meaning and is not kept by a file, so that settings are compared by
`Alike`. That the writer and the reader of files fit together is assumed, `ReadsBack`, and so is that
the working directory is there; that the file is found again on the disk is proved (`read_save`).

* **`load_save`**: settings that were loaded and saved are loaded again as they were, with the same
  file of the user and the same environment or with neither.
-/

namespace NovelScript

/-! ## Layers over layers -/

namespace Layer

/-- A text that is not empty wins. -/
theorem upperOr_of_ne {upper : Text} (h : upper ≠ []) (lower : Text) :
    upperOr upper lower = upper := by
  unfold upperOr
  simp [h]

/-- An empty text below changes nothing. -/
theorem upperOr_nil (upper : Text) : upperOr upper [] = upper := by
  unfold upperOr
  split
  · rename_i hempty
    exact (List.isEmpty_iff.1 hempty).symm
  · rfl

/-- A zero below changes nothing. -/
theorem upperOrInt_zero (upper : Int) : upperOrInt upper 0 = upper := by
  unfold upperOrInt
  split <;> omega

/-- To lay the same text over what it was laid over before changes nothing. Saved settings are laid
over the very layers they came from, so this is what the round trip needs of each text. -/
theorem upperOr_again (upper lower : Text) :
    upperOr upper (upperOr upper lower) = upperOr upper lower := by
  unfold upperOr
  split <;> rfl

/-- A text that came out of three layers comes out again when it takes the place of the middle one. -/
theorem upperOr_between (upper middle lower : Text) :
    upperOr upper (upperOr (upperOr upper (upperOr middle lower)) lower) =
      upperOr upper (upperOr middle lower) := by
  by_cases hupper : upper = []
  · subst hupper
    by_cases hmiddle : middle = []
    · subst hmiddle
      simp [upperOr]
    · simp [upperOr, hmiddle]
  · simp [upperOr, hupper]

/-- The same for a number, with an override from the environment in front: the override wins, and
otherwise what was there once stays. -/
theorem upperOrInt_between (upper : Option Int) (middle lower : Int) :
    upper.getD (upperOrInt (upper.getD (upperOrInt middle lower)) lower) =
      upper.getD (upperOrInt middle lower) := by
  cases upper with
  | some n => rfl
  | none =>
    simp only [Option.getD_none]
    unfold upperOrInt
    split <;> simp_all

/-- The same for a switch. -/
theorem getD_again (upper : Option Bool) (lower : Bool) :
    upper.getD (upper.getD lower) = upper.getD lower := by
  cases upper <;> rfl

/-- Whatever wins is trimmed when both texts are. -/
theorem trim_upperOr {upper lower : Text} (hupper : Text.trim upper = upper)
    (hlower : Text.trim lower = lower) : Text.trim (upperOr upper lower) = upperOr upper lower := by
  unfold upperOr
  split
  · exact hlower
  · exact hupper

/-- A layer that says nothing changes nothing. -/
theorem apply_empty (c : Config) : ({} : Layer).apply c = c := rfl

end Layer

open Layer (upperOr upperOrInt)

namespace Config

/-! ## The same settings -/

/-- The same settings, perhaps with the cast in another order. -/
def Alike (c c' : Config) : Prop :=
  ∃ characters, Option.Rel (fun t t' : Cast => t.entries.Perm t'.entries) c.script.characters
    characters ∧ c' = { c with script := { c.script with characters } }

namespace Alike

variable {c c' : Config}

/-- Settings that are alike have the same entries in their casts. -/
theorem mem_cast (h : Alike c c') (e : Text × Text) :
    e ∈ c'.script.cast.entries ↔ e ∈ c.script.cast.entries := by
  obtain ⟨characters, hrel, rfl⟩ := h
  unfold Options.cast
  generalize c.script.characters = old at hrel ⊢
  cases hrel with
  | none => exact Iff.rfl
  | some hperm => exact hperm.mem_iff.symm

/-- Settings that are alike to ones that keep the rules keep them. -/
theorem keepsRules (h : Alike c c') (hc : KeepsRules c) : KeepsRules c' := by
  have hspeakers : ∀ e ∈ c'.script.cast.entries, isWord e.2 = true := by
    intro e he
    exact hc.speakers e ((h.mem_cast e).1 he)
  obtain ⟨characters, -, rfl⟩ := h
  exact { hc with speakers := hspeakers }

/-- Whether settings are accepted does not depend on the order of the cast. -/
theorem validate (h : Alike c c') (hc : c.validate = .ok ()) : c'.validate = .ok () := by
  rw [validate_eq_ok_iff, Options.validate_eq_ok_iff, Options.blankSide?_eq_none_iff] at hc ⊢
  obtain ⟨hrules, hempty, hoverlap, hblank⟩ := hc
  have hleads : c'.script.leads = c.script.leads := by
    obtain ⟨characters, -, rfl⟩ := h
    rfl
  refine ⟨h.keepsRules hrules, ?_, ?_, ?_⟩
  · rw [hleads]
    exact hempty
  · rw [hleads]
    exact hoverlap
  · intro e he
    exact hblank e ((h.mem_cast e).1 he)

end Alike

/-! ## Tidy settings -/

/-- Settings as they come out of layers: names have no white space around them, and there is a
cast. -/
structure Tidy (c : Config) : Prop where
  outDir : Text.trim c.build.outDir = c.build.outDir
  ext : Text.trim c.build.ext = c.build.ext
  dsn : Text.trim c.cache.dsn = c.cache.dsn
  file : Text.trim c.log.file = c.log.file
  cast : c.script.characters.isSome = true

namespace Tidy

variable {c : Config}

/-- The default settings are trimmed. -/
theorem default : Tidy {} :=
  ⟨rfl, by decide, rfl, rfl, rfl⟩

/-- A layer over trimmed settings gives trimmed ones, since it trims what it brings. -/
theorem layer (h : Tidy c) (l : Layer) : Tidy (l.apply c) where
  outDir := Layer.trim_upperOr (Text.trim_trim _) h.outDir
  ext := Layer.trim_upperOr (Text.trim_trim _) h.ext
  dsn := Layer.trim_upperOr (Text.trim_trim _) h.dsn
  file := Layer.trim_upperOr (Text.trim_trim _) h.file
  cast := by
    unfold Layer.apply
    simp [h.cast]

/-- The environment over trimmed settings gives trimmed ones: its texts are trimmed on their way in
as well. -/
theorem environment (h : Tidy c) (env : Environment) : Tidy (env.apply c) where
  outDir := Layer.trim_upperOr (Text.trim_trim _) h.outDir
  ext := h.ext
  dsn := Layer.trim_upperOr (Text.trim_trim _) h.dsn
  file := Layer.trim_upperOr (Text.trim_trim _) h.file
  cast := h.cast

/-- So does the user's file, whether it can be decoded or not. -/
theorem withUser (h : Tidy c) (user : Option Text) : Tidy (withUser user c) := by
  unfold Config.withUser
  split
  · exact h.layer _
  · exact h

/-- Settings that are alike to trimmed ones are trimmed. -/
theorem alike {c' : Config} (h : Tidy c) (hsame : Alike c c') : Tidy c' := by
  obtain ⟨characters, hrel, rfl⟩ := hsame
  have hcast : characters.isSome = true := by
    have hold := h.cast
    generalize c.script.characters = old at hold hrel
    cases hrel with
    | none => exact hold
    | some hperm => rfl
  exact { h with cast := hcast }

end Tidy

/-! ## Settings over others -/

/-- Settings that lie over `lower` and under an environment: they say what the environment says, and
where they say nothing, `lower` does not either. -/
structure Over (lower : Config) (env : Environment) (c : Config) : Prop where
  delimiter : upperOr (env.value (Text.lit "MDRPY_CHARACTER_DELIM")) c.script.delimiter =
    c.script.delimiter
  outDir : upperOr (env.trimmed (Text.lit "MDRPY_OUT_DIR"))
    (upperOr c.build.outDir lower.build.outDir) = c.build.outDir
  workers : (env.int? "MDRPY_WORKERS").getD (upperOrInt c.build.workers lower.build.workers) =
    c.build.workers
  dsn : upperOr (env.trimmed (Text.lit "MDRPY_CACHE_DSN")) (upperOr c.cache.dsn lower.cache.dsn) =
    c.cache.dsn
  disabled : (env.switch? "MDRPY_CACHE_DISABLED").getD c.cache.disabled = c.cache.disabled
  level : upperOr (Text.lower (env.trimmed (Text.lit "MDRPY_LOG_LEVEL"))) c.log.level = c.log.level
  format : upperOr (Text.lower (env.trimmed (Text.lit "MDRPY_LOG_FORMAT"))) c.log.format =
    c.log.format
  source : (env.switch? "MDRPY_LOG_SOURCE").getD c.log.source = c.log.source
  file : upperOr (env.trimmed (Text.lit "MDRPY_LOG_FILE")) (upperOr c.log.file lower.log.file) =
    c.log.file

namespace Over

variable {lower c : Config} {env : Environment}

/-- Whatever a layer says, the settings that come out lie over those that are under it. -/
theorem apply (lower : Config) (l : Layer) (env : Environment) :
    Over lower env (env.apply (l.apply lower)) := by
  unfold Environment.apply Layer.apply
  constructor <;> dsimp only
  case delimiter => apply Layer.upperOr_again
  case outDir => apply Layer.upperOr_between
  case workers => apply Layer.upperOrInt_between
  case dsn => apply Layer.upperOr_between
  case disabled => apply Layer.getD_again
  case level => apply Layer.upperOr_again
  case format => apply Layer.upperOr_again
  case source => apply Layer.getD_again
  case file => apply Layer.upperOr_between

/-- All settings lie over the usual ones, under an environment that says nothing. -/
theorem default (c : Config) : Over {} [] c where
  delimiter := rfl
  outDir := Layer.upperOr_nil c.build.outDir
  workers := Layer.upperOrInt_zero c.build.workers
  dsn := Layer.upperOr_nil c.cache.dsn
  disabled := rfl
  level := rfl
  format := rfl
  source := rfl
  file := Layer.upperOr_nil c.log.file

/-- Settings that are alike to ones that lie over others lie over them as well, since they differ in
the order of the cast at most, and `Over` says nothing about the cast. -/
theorem alike {c' : Config} (h : Over lower env c) (hsame : Alike c c') : Over lower env c' := by
  obtain ⟨characters, -, rfl⟩ := hsame
  exact { h with }

end Over

/-! ## Laying settings over what they came from -/

/-- A layer that says all that settings are. -/
def layer (c : Config) : Layer where
  version := c.version
  delimiter := c.script.delimiter
  marks := c.script.marks
  characters := c.script.characters
  outDir := c.build.outDir
  ext := c.build.ext
  workers := c.build.workers
  backup := some c.build.backup
  cacheDisabled := some c.cache.disabled
  dsn := c.cache.dsn
  level := c.log.level
  format := c.log.format
  source := some c.log.source
  logFile := c.log.file

/-- The words of the log are not changed by a layer. -/
theorem word_ne_nil_and_lower {s : Text} (h : ∃ word ∈ levels ++ formats, s = Text.lit word) :
    s ≠ [] ∧ Text.lower (Text.trim s) = s := by
  obtain ⟨word, hword, rfl⟩ := h
  have hall : ∀ word ∈ levels ++ formats,
      Text.lit word ≠ [] ∧ Text.lower (Text.trim (Text.lit word)) = Text.lit word := by decide
  exact hall word hword

/-- Settings that keep the rules have an ending for scripts. -/
theorem ext_ne_nil {c : Config} (h : KeepsRules c) : c.build.ext ≠ [] := by
  intro hnil
  have hext := h.ext
  rw [hnil] at hext
  cases hext

/-- Tidy settings that keep the rules come out unchanged when they are laid over settings that they
lie over. -/
theorem apply_layer {lower c : Config} {env : Environment} (htidy : Tidy c) (hrules : KeepsRules c)
    (hover : Over lower env c) : env.apply (c.layer.apply lower) = c := by
  have hversion : upperOrInt c.version lower.version = c.version := by
    unfold upperOrInt
    have := hrules.version
    split <;> omega
  have hcast : c.script.characters.or lower.script.characters = c.script.characters := by
    obtain ⟨t, ht⟩ := Option.isSome_iff_exists.1 htidy.cast
    rw [ht]
    rfl
  obtain ⟨hlevel, hlower⟩ := word_ne_nil_and_lower (s := c.log.level) (by
    obtain ⟨word, hword, heq⟩ := hrules.level
    exact ⟨word, List.mem_append_left _ hword, heq⟩)
  obtain ⟨hformat, hlower'⟩ := word_ne_nil_and_lower (s := c.log.format) (by
    obtain ⟨word, hword, heq⟩ := hrules.format
    exact ⟨word, List.mem_append_right _ hword, heq⟩)
  unfold Environment.apply Layer.apply layer
  simp only [hversion, hcast, Layer.upperOr_of_ne hrules.delimiter, Layer.upperOr_of_ne hrules.ignore,
    Layer.upperOr_of_ne hrules.call, Layer.upperOr_of_ne hrules.jump, htidy.outDir, htidy.ext,
    htidy.dsn, htidy.file, Layer.upperOr_of_ne (ext_ne_nil hrules), hlower, hlower',
    Layer.upperOr_of_ne hlevel, Layer.upperOr_of_ne hformat, Option.getD_some, hover.delimiter,
    hover.outDir, hover.workers, hover.dsn, hover.disabled, hover.level, hover.format, hover.source,
    hover.file]

/-! ## Loading -/

/-- What is loaded are the settings of the files with the environment on top, when these keep the
rules; otherwise nothing is. -/
theorem load_eq_ok_iff {user : Option Text} {read : Text → Except Files.DiskError Text} {path : Text}
    {env : Environment} {c : Config} :
    load user read path env = .ok c ↔
      (∃ b, withFile read path (withUser user {}) = .ok b ∧ env.apply b = c) ∧
        c.validate = .ok () := by
  unfold load
  cases withFile read path (withUser user {}) with
  | error e => simp [bind, Except.bind]
  | ok b =>
    simp only [bind, Except.bind, Except.ok.injEq, exists_eq_left']
    cases hvalid : (env.apply b).validate with
    | error r =>
      simp only [throw, throwThe, MonadExceptOf.throw, reduceCtorEq, false_iff, not_and]
      rintro rfl
      simp [hvalid]
    | ok u =>
      simp only [pure, Except.pure, Except.ok.injEq]
      constructor
      · rintro rfl
        exact ⟨rfl, hvalid⟩
      · exact fun h => h.1

/-- A file that was asked for is a layer; where none was asked for, it is the one that says
nothing. -/
theorem exists_layer_of_withFile {read : Text → Except Files.DiskError Text} {path : Text}
    {c b : Config} (h : withFile read path c = .ok b) : ∃ l : Layer, l.apply c = b := by
  unfold withFile at h
  split at h
  · cases h
    exact ⟨{}, Layer.apply_empty c⟩
  · split at h
    · cases h
    · split at h
      · cases h
      · rename_i l hl
        cases h
        exact ⟨l, rfl⟩

/-- What is known of loaded settings. -/
theorem of_load {user : Option Text} {read : Text → Except Files.DiskError Text} {path : Text}
    {env : Environment} {c : Config} (h : load user read path env = .ok c) :
    Tidy c ∧ Over (withUser user {}) env c ∧ c.validate = .ok () := by
  obtain ⟨⟨b, hb, rfl⟩, hvalid⟩ := load_eq_ok_iff.1 h
  obtain ⟨l, rfl⟩ := exists_layer_of_withFile hb
  exact ⟨((Tidy.default.withUser user).layer l).environment env, Over.apply _ l env, hvalid⟩

/-- What was written is read as a layer that says all of the settings. -/
def ReadsBack (c : Config) : Prop :=
  ∃ c', Alike c c' ∧ Layer.ofFile c.write = .ok c'.layer

/-- Settings that were written are loaded again as they were, from the file alone. What is asked of
them is what every load makes sure of: they are trimmed, they lie over the user's file and the
environment, and they keep the rules. -/
theorem load_write {user : Option Text} {read : Text → Except Files.DiskError Text} {path : Text}
    {env : Environment} {c : Config} (htidy : Tidy c) (hover : Over (withUser user {}) env c)
    (hvalid : c.validate = .ok ()) (hback : ReadsBack c) (hpath : Text.isBlank path = false)
    (hread : read path = .ok c.write) : ∃ c', load user read path env = .ok c' ∧ Alike c c' := by
  obtain ⟨c', hsame, hfile⟩ := hback
  have hvalid' := hsame.validate hvalid
  have hagain : env.apply (c'.layer.apply (withUser user {})) = c' :=
    apply_layer (htidy.alike hsame) (validate_eq_ok_iff.1 hvalid').1 (hover.alike hsame)
  refine ⟨c', load_eq_ok_iff.2 ⟨⟨_, ?_, hagain⟩, hvalid'⟩, hsame⟩
  simp [withFile, hpath, hread, hfile]

/-! ## Saving -/

open Files (Disk)

/-- Settings that were saved can be read, when the working directory is there. Saving is a
replacement, so this goes back to what replacements do. -/
theorem read_save {c : Config} {path : Text} {d d' : Disk Content}
    (hhome : d.look d.home = some none) (h : c.save path d = .ok () d') :
    Text.isBlank path = false ∧ d'.read path = .ok (.text c.write) := by
  unfold save at h
  cases hpath : Text.isBlank path with
  | true =>
    rw [hpath] at h
    cases h
  | false =>
    rw [hpath] at h
    obtain ⟨_, d₁, hmake, hwrite⟩ := Files.bind_eq_ok.1 h
    rw [Disk.change_eq_ok] at hmake hwrite
    have hhome₁ : d₁.look d₁.home = some none := by
      rw [(Disk.makeAll_ok hmake).1]
      exact Disk.look_makeAll hmake hhome
    exact ⟨rfl, Disk.read_write hhome₁ hwrite⟩

/-- **Saving settings is faithful.** Whatever the files and the environment were that settings were
loaded from: once the settings are saved, loading what was saved succeeds and gives them again, with
the same file of the user and the same environment, and with neither. -/
theorem load_save {user : Option Text} {read : Text → Except Files.DiskError Text}
    {path target : Text} {env : Environment} {c : Config} {d d' : Disk Content}
    (hload : load user read path env = .ok c) (hback : ReadsBack c)
    (hhome : d.look d.home = some none) (hsave : c.save target d = .ok () d') :
    (∃ c', load user (fun p => (d'.read p).map Content.asText) target env = .ok c' ∧ Alike c c') ∧
      ∃ c', load none (fun p => (d'.read p).map Content.asText) target [] = .ok c' ∧ Alike c c' := by
  obtain ⟨htidy, hover, hvalid⟩ := of_load hload
  obtain ⟨htarget, hread⟩ := read_save hhome hsave
  have hread : (d'.read target).map Content.asText = .ok c.write := by
    rw [hread]
    rfl
  constructor
  · exact load_write htidy hover hvalid hback htarget hread
  · exact load_write htidy (Over.default c) hvalid hback htarget hread

namespace Sample

/-- A file of the user that asks for four workers. -/
def user : Text := Text.lit "build:\n  workers: 4\n"

/-- A file with a cast of one. -/
def file : Text := Text.lit "script:\n  characters:\n    me: s\n"

/-- An environment that leaves the number of workers open. -/
def environment : Environment := [(Text.lit "MDRPY_WORKERS", Text.lit "0")]

/-- The settings in force. -/
def settings : Config where
  script := { Options.default with
    characters := some ⟨[(Text.lit "me", Text.lit "s")], by decide⟩ }

/-- A result that is there is a success. The examples are evaluated without their failures, which
cannot be compared. -/
theorem eq_ok_of_toOption {ε β : Type} {r : Except ε β} {b : β} (h : r.toOption = some b) :
    r = .ok b := by
  cases r with
  | error e => cases h
  | ok b' =>
    cases h
    rfl

/-- The settings of the example, loaded from both files and the environment. -/
theorem toOption_load :
    (load (some user) (fun _ => .ok file) (Text.lit "a") environment).toOption = some settings := by
  decide +kernel

/-- The file that they are saved to, decoded. -/
theorem toOption_ofFile : (Layer.ofFile settings.write).toOption = some settings.layer := by
  decide +kernel

/-- The example's settings are read back from what is written of them. So the assumption about the
form of the file can be met. -/
theorem readsBack_settings : ReadsBack settings :=
  ⟨settings, ⟨_, .some (.refl _), rfl⟩, eq_ok_of_toOption toOption_ofFile⟩

end Sample

/-- Settings with an override from the environment: saved and loaded again they are the same, with
the environment and without. -/
theorem load_save_of_workers : ∃ d',
    load (some Sample.user) (fun _ => .ok Sample.file) (Text.lit "a") Sample.environment =
      .ok Sample.settings ∧
    Sample.settings.save (Text.lit "b") {} = .ok () d' ∧
    (∃ c', load (some Sample.user) (fun p => (d'.read p).map Content.asText) (Text.lit "b")
      Sample.environment = .ok c' ∧ Alike Sample.settings c') ∧
    ∃ c', load none (fun p => (d'.read p).map Content.asText) (Text.lit "b") [] = .ok c' ∧
      Alike Sample.settings c' := by
  have hload := Sample.eq_ok_of_toOption Sample.toOption_load
  obtain ⟨d', hsave⟩ : ∃ d', Sample.settings.save (Text.lit "b") {} = .ok () d' := ⟨_, rfl⟩
  refine ⟨d', hload, hsave, ?_⟩
  exact load_save (d := {}) hload Sample.readsBack_settings rfl hsave

end Config

end NovelScript
