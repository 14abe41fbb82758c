import NovelScript.Config.Load
import NovelScript.Proofs.Config.Save
import NovelScript.Proofs.Yaml.Mapping

/-!
# Which file a setting comes from

A file of settings is looked at in two ways. As a document it has a value at the end of a path of
keys, or none (`Key.said?`): that follows references and merged mappings, and knows nothing of
records, fields and layers. As a layer it is what decoding makes of it. Decoding goes down the
document by records; what a reader does at a node is that it `Reads` the settings whose paths go on
from there, and leaves the others. Records are put together from their fields (`reads_record`), so
that the proof has the shape of a file: one lemma for each section.

A layer does not tell zero from no number, nor an empty text from none, and names are looked at
without the white space around them. So a file sets a value (`Key.stated?`) when it has one that says
something; truth values always do.

* **`load_precedence`**: with two files that can be read and no variable in the way, each setting
  with one value comes from the file that was asked for if that sets it, else from the file of the
  user if that does, else it has its usual value. Whatever comes out is what is checked.
* **`load_of_blank_ext`**: an empty ending that is written down does not win.
-/

namespace NovelScript

open Yaml Decoding

/-! ## Settings with one value -/

namespace Config

/-- The types of values. -/
inductive Kind : Type → Type where
  /-- A text. -/
  | text : Kind Text
  /-- A number. -/
  | int : Kind Int
  /-- A truth value. -/
  | bool : Kind Bool

namespace Kind

variable {α : Type}

/-- The name of the type. -/
def wanted : Kind α → String
  | text => "string"
  | int => "int"
  | bool => "bool"

/-- The value of a scalar. -/
def read : Kind α → Scalar → Text → Option α
  | text => textOf?
  | int => intOf?
  | bool => boolOf?

/-- Does a value say something? The empty text and zero do not. -/
def counts : Kind α → α → Bool
  | text, t => !t.isEmpty
  | int, n => n != 0
  | bool, _ => true

end Kind

/-- The settings that have one value; the cast is not among them. -/
inductive Key : Type → Type where
  | version : Key Int
  | delimiter : Key Text
  | ignore : Key Text
  | call : Key Text
  | jump : Key Text
  | outDir : Key Text
  | ext : Key Text
  | workers : Key Int
  | backup : Key Bool
  | disabled : Key Bool
  | dsn : Key Text
  | level : Key Text
  | format : Key Text
  | source : Key Bool
  | logFile : Key Text

namespace Key

variable {α : Type}

/-- The type of the value. -/
def kind : Key α → Kind α
  | version | workers => .int
  | backup | disabled | source => .bool
  | delimiter | ignore | call | jump | outDir | ext | dsn | level | format | logFile => .text

/-- Where the setting stands in a file: the keys that lead to it. -/
def path (k : Key α) : List Text :=
  (match k with
    | version => ["config_version"]
    | delimiter => ["script", "character_delim"]
    | ignore => ["script", "syntax", "ignore"]
    | call => ["script", "syntax", "call"]
    | jump => ["script", "syntax", "jump"]
    | outDir => ["build", "out_dir"]
    | ext => ["build", "ext"]
    | workers => ["build", "workers"]
    | backup => ["build", "backup"]
    | disabled => ["cache", "disabled"]
    | dsn => ["cache", "dsn"]
    | level => ["logging", "level"]
    | format => ["logging", "format"]
    | source => ["logging", "source"]
    | logFile => ["logging", "file"]).map Text.lit

/-- A value as it is kept: names and levels lose the white space around them, and words of the log
are in lower case. -/
def tidy : Key α → α → α
  | outDir | ext | dsn | logFile => Text.trim
  | level | format => fun t => Text.lower (Text.trim t)
  | version | delimiter | ignore | call | jump | workers | backup | disabled | source => id

/-- The setting among all of them. -/
def get : Key α → Config → α
  | version, c => c.version
  | delimiter, c => c.script.delimiter
  | ignore, c => c.script.marks.ignore
  | call, c => c.script.marks.call
  | jump, c => c.script.marks.jump
  | outDir, c => c.build.outDir
  | ext, c => c.build.ext
  | workers, c => c.build.workers
  | backup, c => c.build.backup
  | disabled, c => c.cache.disabled
  | dsn, c => c.cache.dsn
  | level, c => c.log.level
  | format, c => c.log.format
  | source, c => c.log.source
  | logFile, c => c.log.file

/-- The value that a layer holds. -/
def held : Key α → Layer → Option α
  | version, l => some l.version
  | delimiter, l => some l.delimiter
  | ignore, l => some l.marks.ignore
  | call, l => some l.marks.call
  | jump, l => some l.marks.jump
  | outDir, l => some l.outDir
  | ext, l => some l.ext
  | workers, l => some l.workers
  | backup, l => l.backup
  | disabled, l => l.cacheDisabled
  | dsn, l => some l.dsn
  | level, l => some l.level
  | format, l => some l.format
  | source, l => l.source
  | logFile, l => some l.logFile

/-- The layer with a value. -/
def set : Key α → α → Layer → Layer
  | version, n, l => { l with version := n }
  | delimiter, t, l => { l with delimiter := t }
  | ignore, t, l => { l with marks := { l.marks with ignore := t } }
  | call, t, l => { l with marks := { l.marks with call := t } }
  | jump, t, l => { l with marks := { l.marks with jump := t } }
  | outDir, t, l => { l with outDir := t }
  | ext, t, l => { l with ext := t }
  | workers, n, l => { l with workers := n }
  | backup, b, l => { l with backup := some b }
  | disabled, b, l => { l with cacheDisabled := some b }
  | dsn, t, l => { l with dsn := t }
  | level, t, l => { l with level := t }
  | format, t, l => { l with format := t }
  | source, b, l => { l with source := some b }
  | logFile, t, l => { l with logFile := t }

/-- What a file has for the setting: the value at the end of its path. -/
def said? (k : Key α) (content : Text) : Option α :=
  match Document.read content with
  | .ok (some d) => valueAt? d.named (2 * content.length + 2) k.kind.read k.path d.root []
  | _ => none

/-- The value that a file sets, if it has one that says something. -/
def stated? (k : Key α) (content : Text) : Option α :=
  ((k.said? content).map k.tidy).filter k.kind.counts

/-- Decoding the value. -/
def decode (k : Key α) (n : Node) (through : List Nat) : Layer.Fields :=
  Layer.put (scalar k.kind.wanted k.kind.read) k.set n through

/-- A layer holds at a key what was set there last. -/
theorem held_set (k : Key α) (a : α) (l : Layer) : k.held (k.set a l) = some a := by
  cases k <;> rfl

/-- Who speaks is no key: setting the cast leaves what a layer holds at every key. -/
theorem held_characters (k : Key α) (l : Layer) (cast : Option Cast) :
    k.held { l with characters := cast } = k.held l := by
  cases k <;> rfl

/-- Settings are apart: neither stands at the other's path, and setting one leaves the other. -/
theorem eq_or_apart {β : Type} (j : Key β) (k : Key α) :
    (∃ h : β = α, h ▸ j = k) ∨
      ¬ j.path <+: k.path ∧ ∀ a l, k.held (j.set a l) = k.held l := by
  cases j <;> cases k <;>
    first
    | exact .inl ⟨rfl, rfl⟩
    | exact .inr ⟨by decide, fun _ _ => rfl⟩

end Key

end Config

/-! ## What is read at which path -/

namespace Layer

open Config (Key)

variable {named : List (Nat × Node)} {fuel : Nat}

/-- At the node under a path, exactly the settings whose paths go on from there are read. -/
def Reads (named : List (Nat × Node)) (fuel : Nat) (p : List Text) (m : Node → List Nat → Fields) :
    Prop :=
  ∀ {α : Type} (k : Key α) (n : Node) (through : List Nat),
    Sets named (m n through) (fun d => k.held d.1)
      (if p <+: k.path then
        (valueAt? named fuel k.kind.read (k.path.drop p.length) n through).map some
      else none)

/-- A setting reads itself, whatever is under other paths. It is the leaf of the tree of settings,
where a text of the file becomes a value. -/
theorem reads_decode {β : Type} (j : Key β) : Reads named fuel j.path j.decode := by
  intro α k n through
  apply (meets_scalar j.kind.wanted j.kind.read n through).bind (Q := fun a s _ s' =>
    s'.1 = (a.map fun a => j.set a s.1).getD s.1)
  · intro a
    cases a with
    | none => exact (meets_pure ()).mono fun s _ s' h => by rw [h.2]; rfl
    | some a => exact (meets_update _).mono fun s _ s' h => by rw [h]; rfl
  · rintro s a s' _ s'' ⟨ha, rfl⟩ h
    dsimp only
    rw [h]
    obtain ⟨rfl, rfl⟩ | ⟨hpath, hset⟩ := j.eq_or_apart k
    · rw [if_pos (List.prefix_refl _), List.drop_length, valueAt?, ← ha]
      cases a with
      | none => rfl
      | some a => exact j.held_set a s'.1
    · rw [if_neg hpath]
      cases a with
      | none => rfl
      | some a => exact hset a s'.1

/-- A record reads under its path what its fields read under theirs. With it the paths of settings
are put together field by field, as deep as the sections go. -/
theorem reads_record {p : List Text} {wanted : String} {known : List String}
    {visit : Text → Node → List Nat → Fields}
    (hvisit : ∀ name ∈ known.map Text.lit, Reads named fuel (p ++ [name]) (visit name))
    (hword : ∀ name ∈ known.map Text.lit, Word name)
    (hknown : ∀ {α : Type} (k : Key α), p <+: k.path →
      ∃ name ∈ known.map Text.lit, p ++ [name] <+: k.path) :
    Reads named fuel p (record wanted fuel known visit) := by
  intro α k n through
  by_cases hp : p <+: k.path
  -- the key is below this record, by one of its fields
  · obtain ⟨name, hname, rest, hrest⟩ := hknown k hp
    rw [List.append_assoc, List.singleton_append] at hrest
    have hset : Sets named (record wanted fuel known visit n through) (fun d => k.held d.1)
        ((lookup? named fuel name n through).bind fun e =>
          (valueAt? named fuel k.kind.read rest e.value e.through).map some) := by
      apply sets_record (some name)
        (fun v through => (valueAt? named fuel k.kind.read rest v through).map some)
      · intro other h
        rw [← Option.some.inj h]
        exact ⟨hname, hword name hname⟩
      · intro other v through' hother
        have htakes := hvisit other hother k v through'
        rw [← hrest] at htakes
        by_cases hsame : name = other
        · subst hsame
          rw [List.append_cons p name rest, if_pos (List.prefix_append _ _), List.drop_left] at htakes
          rw [if_pos rfl]
          exact htakes
        · have hapart : ¬ p ++ [other] <+: p ++ name :: rest := by
            rw [List.prefix_append_right_inj, List.cons_prefix_cons]
            exact fun h => hsame h.1.symm
          rw [if_neg hapart] at htakes
          rw [if_neg fun h => hsame (Option.some.inj h)]
          exact htakes
    rw [if_pos hp, ← hrest, List.drop_left, valueAt?, Option.map_bind]
    exact hset
  -- the key is elsewhere, so no field touches it
  · rw [if_neg hp]
    refine sets_record none (fun _ _ => none) nofun (fun name v through hname => ?_) n through
    have hleaves := hvisit name hname k v through
    rw [if_neg fun h => hp ((List.prefix_append p [name]).trans h)] at hleaves
    exact hleaves

/-- The marks of the syntax are read from the record behind their section, each from its own field.
-/
theorem reads_marks :
    Reads named fuel [Text.lit "script", Text.lit "syntax"]
      (record "transpile.Syntax" fuel ["ignore", "call", "jump"] readMarks) := by
  apply reads_record
  · intro name hname
    simp only [List.map_cons, List.map_nil, List.mem_cons, List.not_mem_nil, or_false] at hname
    rcases hname with rfl | rfl | rfl
    · exact reads_decode .ignore
    · exact reads_decode .call
    · exact reads_decode .jump
  · decide
  · intro α k
    cases k <;> decide

/-- The watch on a setting that nothing may change. -/
def still {α : Type} (k : Key α) : Watch (Layer × List Text) (Option α) where
  key := none
  observe d := k.held d.1
  met _ := false
  taken _ _ := none

/-- Looking whether a value is nothing changes no setting. -/
theorem meets_isNothing (n : Node) (through : List Nat) :
    Meets named (isNothing n through) fun s _ s' => s' = s := by
  unfold isNothing
  apply ((meets_follow n through).mono fun _ _ _ h => h.2).bind_same
  intro r
  exact (meets_pure _).mono fun _ _ _ h => h.2

/-- One character of the cast changes no setting at any key. The cast is put together from the files
in a way of its own, so the keys are followed through it unchanged. -/
theorem sets_character {α : Type} (k : Key α) (fresh : Bool) (tag : Text) (n : Node)
    (through : List Nat) :
    Sets named (readCharacter fresh tag n through) (fun d => k.held d.1) none := by
  have hadd (speaker : Text) : Sets named
      (update fun d : Layer × List Text => ({ d.1 with
        characters := some ((d.1.characters.getD Cast.empty).insert tag speaker) }, d.2))
      (fun d => k.held d.1) none :=
    (meets_update _).mono fun s _ s' h => by
      rw [h]
      exact k.held_characters s.1 _
  have hskip : Sets named (pure () : Fields) (fun d => k.held d.1) none :=
    (meets_pure ()).mono fun s _ s' h => by
      rw [h.2]
      rfl
  unfold readCharacter
  apply ((meets_text n through).mono fun _ _ _ h => h.2).bind_same
  intro a
  cases a with
  | some speaker => exact hadd speaker
  | none =>
    apply (meets_get.mono fun _ _ _ h => h.2).bind_same
    intro d
    apply (meets_isNothing n through).bind_same
    intro b
    split
    · exact hadd []
    · exact hskip

/-- The cast is read apart from the settings with one value, because it is put together from all
files and not taken from one. -/
theorem reads_characters :
    Reads named fuel [Text.lit "script", Text.lit "characters"] (readCharacters fuel) := by
  intro α k n through
  have henter : (still k).Enters named (do
      let fresh := (← get).value.1.characters.isNone
      update fun d => ({ d.1 with characters := some (d.1.characters.getD Cast.empty) }, d.2)
      return fun _ tag v through => readCharacter fresh tag v through) := by
    intro d visit d' hrun
    cases hrun
    refine ⟨⟨rfl, k.held_characters d.value.1 _, rfl⟩, ?_⟩
    intro _ tag v through
    exact (sets_character k _ tag v through).mono fun s _ s' h => ⟨rfl, h⟩
  rw [if_neg (by cases k <;> decide)]
  exact (meets_mappingOf henter nofun "map[string]string" fuel n through).mono
    fun s _ s' h => h.observe_eq rfl

/-- The section about scripts reads its settings from its record, and marks and cast from the
records below. -/
theorem reads_script :
    Reads named fuel [Text.lit "script"]
      (record "transpile.Options" fuel ["character_delim", "syntax", "characters"]
        (readScript fuel)) := by
  apply reads_record
  · intro name hname
    simp only [List.map_cons, List.map_nil, List.mem_cons, List.not_mem_nil, or_false] at hname
    rcases hname with rfl | rfl | rfl
    · exact reads_decode .delimiter
    · exact reads_marks
    · exact reads_characters
  · decide
  · intro α k
    cases k <;> decide

/-- The section about builds reads its settings from its record. -/
theorem reads_build :
    Reads named fuel [Text.lit "build"]
      (record "config.BuildConfig" fuel ["out_dir", "ext", "workers", "backup"] readBuild) := by
  apply reads_record
  · intro name hname
    simp only [List.map_cons, List.map_nil, List.mem_cons, List.not_mem_nil, or_false] at hname
    rcases hname with rfl | rfl | rfl | rfl
    · exact reads_decode .outDir
    · exact reads_decode .ext
    · exact reads_decode .workers
    · exact reads_decode .backup
  · decide
  · intro α k
    cases k <;> decide

/-- The section about the cache reads its settings from its record. -/
theorem reads_cache :
    Reads named fuel [Text.lit "cache"]
      (record "config.CacheConfig" fuel ["disabled", "dsn"] readCache) := by
  apply reads_record
  · intro name hname
    simp only [List.map_cons, List.map_nil, List.mem_cons, List.not_mem_nil, or_false] at hname
    rcases hname with rfl | rfl
    · exact reads_decode .disabled
    · exact reads_decode .dsn
  · decide
  · intro α k
    cases k <;> decide

/-- The section about the log reads its settings from its record. -/
theorem reads_log :
    Reads named fuel [Text.lit "logging"]
      (record "config.LoggingConfig" fuel ["level", "format", "source", "file"] readLog) := by
  apply reads_record
  · intro name hname
    simp only [List.map_cons, List.map_nil, List.mem_cons, List.not_mem_nil, or_false] at hname
    rcases hname with rfl | rfl | rfl | rfl
    · exact reads_decode .level
    · exact reads_decode .format
    · exact reads_decode .source
    · exact reads_decode .logFile
  · decide
  · intro α k
    cases k <;> decide

/-- The whole document is a record of sections, each of which reads its own settings and leaves
those of the others. -/
theorem reads_sections :
    Reads named fuel []
      (record "config.AppConfig" fuel ["config_version", "script", "build", "cache", "logging"]
        (readSection fuel)) := by
  apply reads_record
  · intro name hname
    simp only [List.map_cons, List.map_nil, List.mem_cons, List.not_mem_nil, or_false] at hname
    rcases hname with rfl | rfl | rfl | rfl | rfl
    · exact reads_decode .version
    · exact reads_script
    · exact reads_build
    · exact reads_cache
    · exact reads_log
  · decide
  · intro α k
    cases k <;> decide

/-- A layer holds what its file has, and nothing that says something otherwise. A file that is not
there holds nothing, and one that cannot be decoded makes no layer. -/
theorem held_ofFile {α : Type} (k : Key α) {content : Text} {l : Layer}
    (h : ofFile content = .ok l) : k.held l = (k.said? content).or (k.held {}) := by
  unfold ofFile at h
  unfold Key.said?
  cases hread : Document.read content with
  | error e =>
    rw [hread] at h
    cases h
  | ok document =>
    rw [hread] at h
    cases document with
    | none =>
      cases h
      rfl
    | some d =>
      change (run d (({}, []) : Layer × List Text) _).bind (fun s => .ok s.1) = .ok l at h
      generalize hrun : run d (({}, []) : Layer × List Text) _ = r at h
      cases r with
      | error e => cases h
      | ok s =>
        cases h
        have hset := of_run hrun (reads_sections k d.root [])
        dsimp only at hset ⊢
        rw [hset, if_pos List.nil_prefix, List.length_nil, List.drop_zero]
        cases valueAt? d.named (2 * content.length + 2) k.kind.read k.path d.root [] <;> rfl

/-! ## Layers on top of each other -/

/-- A text of the upper layer counts when it is not empty. This is the form in which all kinds of
settings are compared. -/
theorem upperOr_eq (upper lower : Text) :
    upperOr upper lower = ((some upper).filter fun t => !t.isEmpty).getD lower := by
  cases upper <;> rfl

/-- A number of the upper layer counts when it is not zero. -/
theorem upperOrInt_eq (upper lower : Int) :
    upperOrInt upper lower = ((some upper).filter (· != 0)).getD lower := by
  unfold upperOrInt
  by_cases hzero : upper = 0
  · rw [if_pos hzero, hzero]
    rfl
  · rw [if_neg hzero, Option.filter_some_pos (by simpa using hzero)]
    rfl

/-- A switch of the upper layer counts when it is set at all, on or off. -/
theorem getD_eq (upper : Option Bool) (lower : Bool) :
    upper.getD lower = ((upper.map id).filter fun _ => true).getD lower := by
  cases upper <;> rfl

/-- A layer on top: what it holds counts if it says something. -/
theorem get_apply {α : Type} (k : Key α) (l : Layer) (c : Config) :
    k.get (l.apply c) = (((k.held l).map k.tidy).filter k.kind.counts).getD (k.get c) := by
  cases k with
  | version => exact upperOrInt_eq l.version c.version
  | workers => exact upperOrInt_eq l.workers c.build.workers
  | backup => exact getD_eq l.backup c.build.backup
  | disabled => exact getD_eq l.cacheDisabled c.cache.disabled
  | source => exact getD_eq l.source c.log.source
  | _ => exact upperOr_eq _ _

/-- What a file sets is what counts in its layer. -/
theorem stated?_ofFile {α : Type} (k : Key α) {content : Text} {l : Layer}
    (h : ofFile content = .ok l) :
    k.stated? content = ((k.held l).map k.tidy).filter k.kind.counts := by
  have hempty : ((k.held {}).map k.tidy).filter k.kind.counts = none := by
    cases k <;> rfl
  rw [held_ofFile k h]
  unfold Key.stated?
  cases k.said? content with
  | none => exact hempty.symm
  | some a => rfl

/-- **What a file says about a key is what counts**, and what was there before counts where the file
says nothing. The precedence of layers is this lemma, once for each layer. -/
theorem get_ofFile {α : Type} (k : Key α) {content : Text} {l : Layer}
    (h : ofFile content = .ok l) (c : Config) :
    k.get (l.apply c) = (k.stated? content).getD (k.get c) := by
  rw [get_apply, stated?_ofFile k h]

end Layer

/-- An environment without overrides leaves all settings. -/
theorem Environment.apply_of_no_override {env : Environment}
    (henv : ∀ key, env.override? key = none) (c : Config) : env.apply c = c := by
  have hvalue (key : String) {name : String} (hname : names.lookup key = some name) :
      env.value (Text.lit name) = [] := by
    have h := henv key
    unfold override? at h
    rw [hname] at h
    simpa using h
  unfold apply switch? int? trimmed
  dsimp only
  rw [hvalue "script.character_delim" rfl, hvalue "build.out_dir" rfl, hvalue "build.workers" rfl,
    hvalue "cache.dsn" rfl, hvalue "cache.disabled" rfl, hvalue "logging.level" rfl,
    hvalue "logging.format" rfl, hvalue "logging.source" rfl, hvalue "logging.file" rfl]
  rfl

namespace Config

open Files (DiskError)

/-- With both files decoded, the settings in force are the layers one over the other: the explicit
file over the user's. -/
theorem withFile_of_layers {user file path : Text} {lower upper : Layer}
    {read : Text → Except DiskError Text} (huser : Layer.ofFile user = .ok lower)
    (hfile : Layer.ofFile file = .ok upper) (hread : read path = .ok file)
    (hpath : Text.isBlank path = false) (c : Config) :
    withFile read path (withUser (some user) c) = .ok (upper.apply (lower.apply c)) := by
  unfold withFile withUser
  rw [if_neg (by simp [hpath]), hread, Option.map_some, huser]
  dsimp only
  rw [hfile]

/-- What is loaded are the merged settings with the environment on top, if they keep the rules. -/
theorem load_of_merged {user : Option Text} {read : Text → Except DiskError Text} {path : Text}
    {c : Config} (hmerged : withFile read path (withUser user {}) = .ok c) (env : Environment) :
    load user read path env = (match (env.apply c).validate with
      | .ok _ => .ok (env.apply c)
      | .error r => .error (.refused r)) := by
  unfold load
  rw [hmerged]
  dsimp only [bind, Except.bind]
  cases (env.apply c).validate <;> rfl

/-- The file that was asked for wins for the settings that it sets, then the file of the user. -/
theorem load_precedence {user file path : Text} {lower upper : Layer}
    {read : Text → Except DiskError Text} {env : Environment}
    (huser : Layer.ofFile user = .ok lower) (hfile : Layer.ofFile file = .ok upper)
    (hread : read path = .ok file) (hpath : Text.isBlank path = false)
    (henv : ∀ key, env.override? key = none) :
    ∃ c, withFile read path (withUser (some user) {}) = .ok c ∧
      load (some user) read path env = (match c.validate with
        | .ok _ => .ok c
        | .error r => .error (.refused r)) ∧
      ∀ {α : Type} (k : Key α),
        k.get c = ((k.stated? file).or (k.stated? user)).getD (k.get {}) := by
  have hmerged := withFile_of_layers huser hfile hread hpath {}
  refine ⟨_, hmerged, ?_, ?_⟩
  · rw [load_of_merged hmerged, Environment.apply_of_no_override henv]
  · intro α k
    rw [Layer.get_ofFile k hfile, Layer.get_ofFile k huser]
    cases k.stated? file <;> rfl

namespace Sample

/-- A file of the user with two settings of builds and a cast of one. -/
def lower : Text :=
  Text.lit "build:\n  workers: 4\n  ext: .txt\nscript:\n  characters:\n    me: s\n"

/-- What that file sets. -/
def lowerLayer : Layer where
  workers := 4
  ext := Text.lit ".txt"
  characters := some (Cast.ofList [(Text.lit "me", Text.lit "s")])

/-- A file with an ending of its own, and a level in capital letters. -/
def upper : Text := Text.lit "build:\n  ext: ' .rpy '\nlogging:\n  level: WARN\n"

/-- What that file sets. -/
def upperLayer : Layer where
  ext := Text.lit " .rpy "
  level := Text.lit "WARN"

/-- A file with an empty ending. -/
def blank : Text := Text.lit "build:\n  ext: ''\n"

/-- A disk with one content in all files. -/
def only (content : Text) (_ : Text) : Except DiskError Text := .ok content

/-- The user's file of the example, decoded. -/
theorem ofFile_lower : Layer.ofFile lower = .ok lowerLayer := by
  apply eq_ok_of_toOption
  decide +kernel

/-- The explicit file of the example, decoded. -/
theorem ofFile_upper : Layer.ofFile upper = .ok upperLayer := by
  apply eq_ok_of_toOption
  decide +kernel

/-- A blank file says nothing. -/
theorem ofFile_blank : Layer.ofFile blank = .ok {} := by
  apply eq_ok_of_toOption
  decide +kernel

/-- The example reads a single explicit file, whatever name it is asked for. -/
theorem merged_only {content : Text} {l : Layer} (h : Layer.ofFile content = .ok l) :
    withFile (only content) (Text.lit "a") (withUser (some lower) {}) =
      .ok (l.apply (lowerLayer.apply {})) := by
  have hread : only content (Text.lit "a") = .ok content := rfl
  exact withFile_of_layers ofFile_lower h hread (by decide) {}

end Sample

/-- Two files, where the upper one says nothing about some keys and zero about the workers: each key
has what the theorem says. -/
theorem load_precedence_of_pair : ∃ c,
    load (some Sample.lower) (Sample.only Sample.upper) (Text.lit "a") [] = .ok c ∧
    c.build.workers = 4 ∧ c.build.ext = Text.lit ".rpy" ∧ c.log.level = Text.lit "warn" ∧
    c.log.format = Text.lit "console" := by
  have hread : Sample.only Sample.upper (Text.lit "a") = .ok Sample.upper := rfl
  have henv (key : String) : Environment.override? [] key = none :=
    Option.filter_eq_none_iff.mpr fun _ _ => Bool.false_ne_true
  obtain ⟨c, hmerged, hload, hget⟩ :=
    load_precedence Sample.ofFile_lower Sample.ofFile_upper hread (by decide) henv
  have hvalid : c.validate = .ok () := by
    rw [Sample.merged_only Sample.ofFile_upper] at hmerged
    rw [← Except.ok.inj hmerged]
    apply Sample.eq_ok_of_toOption
    decide +kernel
  rw [hvalid] at hload
  simp only [Layer.stated?_ofFile _ Sample.ofFile_upper,
    Layer.stated?_ofFile _ Sample.ofFile_lower] at hget
  exact ⟨c, hload, hget .workers, hget .ext, hget .level, hget .format⟩

/-- An empty text says nothing, also where it is written. -/
theorem load_of_blank_ext :
    Key.ext.said? Sample.blank = some [] ∧
    ((load (some Sample.lower) (Sample.only Sample.blank) (Text.lit "a") []).toOption.map
      fun c => c.build.ext) = some (Text.lit ".txt") := by
  constructor
  · decide +kernel
  · rw [load_of_merged (Sample.merged_only Sample.ofFile_blank)]
    decide +kernel

end Config

end NovelScript
