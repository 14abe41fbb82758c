import NovelScript.Proofs.Script.Code
import NovelScript.Proofs.Script.Lines
import NovelScript.Proofs.Text.Words

/-!
# Markup in a script

A block of markup becomes a remark: its words, without the marks of a comment, up to the first hash
sign. Whatever the markup is, its remark is one line that starts with a hash sign and has no other
one (**`remark_cases`**), so nothing of it can be taken for a statement of the script.

* **`markup_becomes_comment`** says this of the step over any block of markup that is not escaped,
  and what it rests on: putting single blanks between words keeps the words and no other white space.
-/

namespace NovelScript.Script

open Markdown
open Text (newline blank hash)

/-! ## Remarks -/

/-- **A remark** is a hash sign, alone or with a blank and a text that has no other one and no line
break behind it. -/
theorem remark_cases (content : Text) :
    remark content = [hash] ∨
      ∃ text, text ≠ [] ∧ newline ∉ text ∧ hash ∉ text ∧ remark content = hash :: blank :: text := by
  have hbreak : newline ∉ remark content := List.count_eq_zero.mp (count_remark content)
  unfold remark at hbreak ⊢
  generalize Text.replaceFirst (Text.lit "-->") []
    (Text.replaceFirst (Text.lit "<!--") [] (Text.collapse content)) = bare at hbreak ⊢
  dsimp only at hbreak ⊢
  split at hbreak
  · rename_i hempty
    rw [if_pos hempty]
    exact .inl rfl
  · rename_i hempty
    rw [if_neg hempty]
    refine .inr ⟨(splitComment bare).1, by simpa using hempty, ?_, hash_not_mem_splitComment bare, rfl⟩
    intro hmem
    exact hbreak (List.mem_append_right _ hmem)

/-! ## The step over markup -/

/-- Markup that is not escaped is written as its remark. -/
theorem step_of_markup (s : Setting) {t : Token} (hkind : t.kind = .htmlBlock)
    (he : s.escapes t = false) (index : Nat) (rest : List Token) {p : Pass} {k : Nat}
    (hl : p.level = k) :
    Pass.step s index t rest p = .ok (p.write (lineAt k (remark t.content)), 0) := by
  apply Pass.step_of_alone he (by rw [hkind]; rfl) index rest
  rw [Action.ofToken, hkind]
  exact Pass.line_of_level hl (remark t.content)

/-- **Markup can only become a comment.** The step over a block of markup that is not escaped
succeeds at every level, whatever the markup is. It leaves the state of the pass as it is and writes
one line: the blanks of the level and a hash sign, and behind it nothing, or a blank and a text that
is not empty and has neither a line break nor another hash sign. This rests on putting single blanks
between the words of a text: done twice it is done once, the words stay the same, and each white
space that is left is one of these blanks, with something before and behind it that has no white
space next to it. -/
theorem markup_becomes_comment (s : Setting) {t : Token} (hkind : t.kind = .htmlBlock)
    (he : s.escapes t = false) (index : Nat) (rest : List Token) {p : Pass} {k : Nat}
    (hl : p.level = k) :
    (∃ line, Pass.step s index t rest p = .ok ({ p with out := p.out ++ line ++ [newline] }, 0) ∧
      newline ∉ line ∧
      (line = margin k ++ [hash] ∨ ∃ text, text ≠ [] ∧ newline ∉ text ∧ hash ∉ text ∧
        line = margin k ++ [hash] ++ [blank] ++ text)) ∧
    ∀ content : Text,
      Text.collapse (Text.collapse content) = Text.collapse content ∧
      Text.words (Text.collapse content) = Text.words content ∧
      ∀ w ∈ Text.spaces, ∀ x y, Text.collapse content = x ++ w ++ y →
        w = [blank] ∧ x ≠ [] ∧ y ≠ [] ∧ ∀ v ∈ Text.spaces, ¬ v <:+ x ∧ ¬ v <+: y := by
  constructor
  · refine ⟨margin k ++ remark t.content, ?_, ?_, ?_⟩
    · rw [step_of_markup s hkind he index rest hl, Pass.write, lineAt, List.append_assoc p.out]
    · rw [← List.count_eq_zero, List.count_append, count_margin, count_remark]
    · rcases remark_cases t.content with h | ⟨text, hne, hbreak, hhash, h⟩
      · exact .inl (by rw [h])
      · exact .inr ⟨text, hne, hbreak, hhash, by simp [h]⟩
  · intro content
    exact ⟨Text.collapse_collapse content, Text.words_collapse content,
      fun _ hw _ _ h => Text.space_of_collapse hw h⟩

/-- A comment of two lines with a second mark and two hash signs in it. -/
def remarkable : Token :=
  { kind := .htmlBlock, content := Text.lit "<!-- one --> two\n--> #three # four <!--\n" }

/-- A piece of markup with the marks of comments in it, at level one: its line is one comment. -/
theorem markup_becomes_comment_of_marks :
    remarkable.kind = .htmlBlock ∧ Setting.escapes (.of Options.default labelName) remarkable = false ∧
      ∃ line, Pass.step (.of Options.default labelName) 0 remarkable [] { level := 1 } =
          .ok ({ out := line ++ [newline], level := 1 }, 0) ∧
        newline ∉ line ∧ line = Text.lit "    # one  two -->" := by
  have hescapes : Setting.escapes (.of Options.default labelName) remarkable = false := by decide
  obtain ⟨⟨line, hstep, hbreak, -⟩, -⟩ :=
    markup_becomes_comment (.of Options.default labelName) (t := remarkable) rfl hescapes 0 []
      (p := { level := 1 }) (k := 1) rfl
  refine ⟨rfl, hescapes, line, hstep, hbreak, ?_⟩
  rw [step_of_markup _ rfl hescapes 0 [] rfl] at hstep
  have hout : lineAt 1 (remark remarkable.content) = line ++ [newline] :=
    congrArg (fun q : Pass × Nat => q.1.out) (Except.ok.inj hstep)
  refine (List.append_left_inj [newline]).mp ?_
  rw [← hout]
  decide

end NovelScript.Script
