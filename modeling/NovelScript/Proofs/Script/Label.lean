import Mathlib.Data.List.Basic
import NovelScript.Proofs.Script.Loop
import NovelScript.Proofs.Text.Space
import NovelScript.Proofs.Text.Utf8
import NovelScript.Script.Label

/-!
# Names of labels are closed

A name is made in three stages: Cyrillic is romanized, marks are folded away, and what is no letter,
digit, underscore or dot is replaced or dropped. The last stage leaves nothing else
(`Normalization.isName_name`). The first two leave ASCII alone, so all three leave a name alone
(`Normalization.name_encode`), and taking the name of a name changes nothing.

How characters are taken apart and put together again when marks are folded is a parameter here
(`Normalization`), of which only this is known: ASCII stays as it is. Putting together cannot bring
back what a name may contain, so `labelName` leaves it out (`labelName_eq`).

**`label_names_closed`** gathers this and says of every pass over any stream that the line of a label
is one line.
-/

namespace NovelScript.Script

open Text (encode decode newline)

/-! ## Characters of names -/

/-- A character that a name may contain. -/
def isNameChar (c : Char) : Bool :=
  c.isAlphanum || c = '_' || c = '.'

/-- A byte that a name may contain. -/
def isNameByte (b : UInt8) : Bool :=
  Text.isAlphanumeric b || b == Text.byte '_' || b == Text.byte '.'

/-- ASCII letters, digits, underscores and dots. -/
def IsName (s : Text) : Prop :=
  ∀ b ∈ s, isNameByte b = true

/-- What holds of the first 128 characters holds of every ASCII character. -/
theorem forall_ascii {p : Char → Bool} (h : ∀ n < 0x80, p (Char.ofNat n) = true) {c : Char}
    (hc : c.toNat < 0x80) : p c = true := by
  have hp := h c.toNat hc
  rwa [Char.ofNat_toNat] at hp

/-- What may stand in a name is below 128. -/
theorem ascii_of_isNameChar {c : Char} (h : isNameChar c = true) : c.toNat < 0x80 := by
  unfold isNameChar at h
  simp only [Bool.or_eq_true, decide_eq_true_eq] at h
  rcases h with (halnum | rfl) | rfl
  · delta Char.isAlphanum Char.isAlpha Char.isUpper Char.isLower Char.isDigit at halnum
    simp only [Bool.or_eq_true, Bool.and_eq_true, decide_eq_true_eq, ge_iff_le,
      UInt32.le_iff_toNat_le] at halnum
    change ((65 ≤ c.toNat ∧ c.toNat ≤ 90) ∨ (97 ≤ c.toNat ∧ c.toNat ≤ 122)) ∨
      (48 ≤ c.toNat ∧ c.toNat ≤ 57) at halnum
    omega
  · decide
  · decide

/-- What may stand in a name is taken over as it is. -/
theorem labelChar_of_isNameChar {c : Char} (h : isNameChar c = true) : labelChar c = some c :=
  if_pos h

/-- Only such characters are left by the last stage. -/
theorem isNameChar_of_labelChar {c d : Char} (h : labelChar c = some d) : isNameChar d = true := by
  unfold labelChar at h
  split at h
  · rename_i hplain
    cases h
    exact hplain
  · split at h
    · cases h
      decide
    · cases h

/-- They are one byte each. -/
theorem isName_encode {cs : List Char} (h : ∀ c ∈ cs, isNameChar c = true) : IsName (encode cs) := by
  intro b hb
  obtain ⟨c, hc, hb⟩ := List.mem_flatMap.mp hb
  have hbytes : (!isNameChar c || (Text.encodeChar c).all isNameByte) = true :=
    forall_ascii (p := fun c => !isNameChar c || (Text.encodeChar c).all isNameByte)
      (by decide +kernel) (ascii_of_isNameChar (h c hc))
  rw [h c hc] at hbytes
  exact List.all_eq_true.mp hbytes b hb

/-- A name has no line break. -/
theorem newline_not_mem_of_isName {s : Text} (h : IsName s) : newline ∉ s := by
  intro hmem
  exact absurd (h newline hmem) (by decide)

/-- There is no white space in a name. -/
theorem trim_of_isName {s : Text} (h : IsName s) : Text.trim s = s := by
  have hspace : ∀ w ∈ Text.spaces, ¬ w.Sublist s := by
    intro w hw hsub
    have hbytes : (Text.spaces.all fun w => w.all fun b => !isNameByte b) = true := rfl
    obtain ⟨b, hb⟩ := List.exists_mem_of_ne_nil w (Text.space_ne_nil hw)
    have hother := List.all_eq_true.mp (List.all_eq_true.mp hbytes w hw) b hb
    rw [h b (hsub.subset hb)] at hother
    cases hother
  rw [Text.trim, Text.trimLeft_of_front fun w hw hpre => hspace w hw hpre.sublist,
    Text.trimRight_of_end fun w hw hsuf => hspace w hw hsuf.sublist]

/-! ## The stages on ASCII -/

/-- Characters below 128 are not spelled otherwise. -/
theorem romanize_ascii {c : Char} (h : c.toNat < 0x80) : romanize c = [c] := by
  simpa using forall_ascii (p := fun c => romanize c == [c]) (by decide +kernel) h

/-- How characters are taken apart into letters and marks, and how letters and marks are put together
again. ASCII characters have no parts and are no marks. -/
structure Normalization where
  /-- Takes characters apart. -/
  decompose : List Char → List Char
  /-- Puts characters together. -/
  compose : List Char → List Char
  /-- ASCII is not taken apart. -/
  decompose_ascii : ∀ cs, (∀ c ∈ cs, c.toNat < 0x80) → decompose cs = cs
  /-- ASCII is not put together. -/
  compose_ascii : ∀ cs, (∀ c ∈ cs, c.toNat < 0x80) → compose cs = cs

/-- Characters taken apart by the table, and not put together. -/
def Normalization.apart : Normalization where
  decompose := fun cs => cs.flatMap Text.decompose
  compose := id
  decompose_ascii := by
    intro cs h
    have hparts : ∀ c ∈ cs, Text.decompose c = [c] := fun c hc => if_pos (h c hc)
    rw [List.flatMap_congr hparts, List.flatMap_singleton']
  compose_ascii := fun _ _ => rfl

namespace Normalization

variable (n : Normalization)

/-- The characters without their marks. -/
def fold (cs : List Char) : List Char :=
  n.compose ((n.decompose cs).filter fun c => !Text.isMark c)

/-- The name of the label for a heading. -/
def name (heading : Text) : Text :=
  encode ((n.fold ((decode (Text.trim heading)).flatMap romanize)).filterMap labelChar)

/-- Whatever normalization is used, it leaves text below 128 as it is. This is the only thing that
is asked of it. -/
theorem fold_ascii {cs : List Char} (h : ∀ c ∈ cs, c.toNat < 0x80) : n.fold cs = cs := by
  have hmarks : cs.filter (fun c => !Text.isMark c) = cs := by
    rw [List.filter_eq_self]
    intro c hc
    simp [Text.isMark, h c hc]
  rw [fold, n.decompose_ascii cs h, hmarks, n.compose_ascii cs h]

/-- **The label of any heading is a name.** -/
theorem isName_name (heading : Text) : IsName (n.name heading) := by
  apply isName_encode
  intro d hd
  obtain ⟨c, -, hc⟩ := List.mem_filterMap.mp hd
  exact isNameChar_of_labelChar hc

/-- Every stage leaves a name alone. -/
theorem name_encode {cs : List Char} (h : ∀ c ∈ cs, isNameChar c = true) :
    n.name (encode cs) = encode cs := by
  have hascii : ∀ c ∈ cs, c.toNat < 0x80 := fun c hc => ascii_of_isNameChar (h c hc)
  have hromanized : cs.flatMap romanize = cs := by
    rw [List.flatMap_congr fun c hc => romanize_ascii (hascii c hc), List.flatMap_singleton']
  have hkept : cs.filterMap labelChar = cs := by
    rw [List.filterMap_congr fun c hc => labelChar_of_isNameChar (h c hc), List.filterMap_some]
  rw [name, trim_of_isName (isName_encode h), Text.decode_encode, hromanized, n.fold_ascii hascii,
    hkept]

/-- **To make a label of a label changes nothing**, because a name is left as it is in each step. -/
theorem name_name (heading : Text) : n.name (n.name heading) = n.name heading := by
  apply n.name_encode
  intro d hd
  obtain ⟨c, -, hc⟩ := List.mem_filterMap.mp hd
  exact isNameChar_of_labelChar hc

end Normalization

/-- The program's labels are those of one such normalization. -/
theorem labelName_eq : labelName = Normalization.apart.name := rfl

/-! ## Lines of labels -/

/-- The line of a label without its end. -/
def labelHead (name : Text) : Text :=
  Text.lit "label " ++ name ++ Text.lit ":"

/-- The head of a label has no line break. -/
theorem newline_not_mem_labelHead {name : Text} (h : IsName name) : newline ∉ labelHead name := by
  have hlabel : newline ∉ Text.lit "label " := by decide
  have hcolon : newline ∉ Text.lit ":" := by decide
  simp [labelHead, hlabel, hcolon, newline_not_mem_of_isName h]

/-- **Names of labels are closed.** However ASCII-preserving normalization folds marks away, and
whatever bytes a heading has, its name has ASCII letters, digits, underscores and dots only, and the
name of a name is that name. `labelName` is one of these functions. So when a pass over any stream, in
any state, comes to a heading that is not escaped, it goes on behind the text of the heading, and all
it writes, but for an empty line before it, is one line: the word `label`, the name and a colon. -/
theorem label_names_closed (n : Normalization) :
    (∀ s, IsName (n.name s)) ∧ (∀ s, n.name (n.name s) = n.name s) ∧
      labelName = Normalization.apart.name ∧
      ∀ (o : Options) (tokens : List Markdown.Token) (index : Nat) p t content,
        (Cursor.mk tokens index).current? = some t → t.kind = .headingOpen →
        (Setting.of o n.name).escapes t = false →
        inlineAt? (tokens.drop (index + 1)) 0 = some content →
        ∃ q sep, Iterates (.of o n.name) tokens index p (index + 2) q ∧
          q.out = p.out ++ sep ++ labelHead (n.name content) ++ [newline] ∧
          (sep = [] ∨ sep = [newline]) ∧ newline ∉ labelHead (n.name content) := by
  refine ⟨n.isName_name, n.name_name, labelName_eq, ?_⟩
  intro o tokens index p t content ht hk he hn
  have hp : (Action.heading content).perform (.of o n.name) p =
      .ok (p.heading (.of o n.name) content) := rfl
  have hi := Iterates.of_asks ht (.heading he hk hn) hp
  refine ⟨_, if !p.out.isEmpty then [newline] else [], hi, ?_, ?_, ?_⟩
  · rw [Pass.out_heading]
    simp [Pass.labelLine, labelHead, Setting.of]
  · split
    · exact .inr rfl
    · exact .inl rfl
  · exact newline_not_mem_labelHead (n.isName_name content)

/-- A heading in Cyrillic behind another label: an empty line and the line of its label. -/
theorem label_names_closed_of_cyrillic :
    ∃ q sep, Iterates (.of Options.default Normalization.apart.name)
        [{ kind := .headingOpen }, { kind := .inline, content := Text.lit "Глава 1" }] 0
        { out := Text.lit "label a:\n", level := 1 } 2 q ∧
      q.out = Text.lit "label a:\n" ++ sep ++
        labelHead (Normalization.apart.name (Text.lit "Глава 1")) ++ [newline] ∧
      (sep = [] ∨ sep = [newline]) ∧
      newline ∉ labelHead (Normalization.apart.name (Text.lit "Глава 1")) := by
  have hescapes : (Setting.of Options.default Normalization.apart.name).escapes
      { kind := .headingOpen } = false := by decide
  exact (label_names_closed .apart).2.2.2 Options.default
    [{ kind := .headingOpen }, { kind := .inline, content := Text.lit "Глава 1" }] 0
    { out := Text.lit "label a:\n", level := 1 } { kind := .headingOpen } (Text.lit "Глава 1")
    rfl rfl hescapes rfl

end NovelScript.Script
