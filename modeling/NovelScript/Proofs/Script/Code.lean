import Mathlib
import NovelScript.Markdown.Document
import NovelScript.Proofs.Script.Comment
import NovelScript.Proofs.Script.Options
import NovelScript.Proofs.Script.Step
import NovelScript.Script.Label

/-!
# Inline code

A piece of inline code is a line of the script behind a dollar sign. Like any other line it is split
at its first hash sign, whatever the hash sign means in the code, and put together again with one
blank on either side of it.

* `codeShown_of_not_mem` and `codeShown_append_cons`: what is written for code without a hash sign,
  and for code with one.
* **`codeShown_eq_trim_iff`**: the code is left as it is exactly when it has no hash sign, or has
  something before and behind the first one with a single blank in between.
* **`code_line_unchanged_iff`** says this of the step over any inline token that is not escaped. A
  hash sign in a string literal of the code is not like this (`ofTokens_code_with_hash`).
-/

namespace NovelScript.Script

open Markdown
open Text (blank)

/-! ## Splitting -/

/-- Inline code as the script shows it behind the dollar sign. -/
def codeShown (content : Text) : Text :=
  (splitComment content).1 ++ commentSuffix (splitComment content).2

/-- Code without a hash is shown as it is, trimmed. -/
theorem codeShown_of_not_mem {content : Text} (h : Text.hash ∉ content) :
    codeShown content = Text.trim content := by
  rw [codeShown, splitComment_of_not_mem h]
  exact List.append_nil _

/-- Code with a hash is taken for code with a comment: both parts are trimmed, and the comment is
written behind ` # `. -/
theorem codeShown_append_cons {a : Text} (ha : Text.hash ∉ a) (b : Text) :
    codeShown (a ++ Text.hash :: b) = Text.trim a ++ commentSuffix (Text.trim b) := by
  rw [codeShown, splitComment_append_cons ha]

/-! ## What is left as it is -/

/-- Code with a hash sign that stays as it is shows both sides of it. Had one of them been empty,
the blank beside the sign would be missing. -/
theorem exists_sides_of_codeShown {content : Text} (hmem : Text.hash ∈ content)
    (h : codeShown content = Text.trim content) :
    ∃ a b, Text.hash ∉ a ∧ Text.trim a = a ∧ Text.trim b = b ∧
      Text.trim content = a ++ Text.lit " # " ++ b := by
  cases hsplit : splitComment content with
  | mk c m =>
    obtain ⟨hc, htc, htm, -⟩ := splitComment_eq_iff.mp hsplit
    rw [codeShown, hsplit] at h
    have hm : m ≠ [] := by
      rintro rfl
      apply hc
      rw [← List.append_nil c]
      exact h ▸ (Text.mem_trim_iff hash_not_mem_space).mpr hmem
    refine ⟨c, m, hc, Text.trim_eq_self_iff.mpr htc, Text.trim_eq_self_iff.mpr htm, ?_⟩
    rw [← h, commentSuffix_of_ne_nil hm, List.append_assoc]

/-- A trimmed text does not end in a blank, so something stands behind the blank. -/
theorem ne_nil_of_trim_eq {content a b : Text}
    (h : Text.trim content = a ++ Text.lit " # " ++ b) : b ≠ [] := by
  rintro rfl
  apply (Text.trimmed_trim content [blank] (by decide)).2
  rw [h, List.append_nil]
  exact ⟨a ++ [blank, Text.hash], List.append_assoc a _ _⟩

/-- Code whose hash sign has one blank on either side stays as it is. -/
theorem codeShown_of_sides {content a b : Text} (ha : Text.hash ∉ a) (hta : Text.trim a = a)
    (htb : Text.trim b = b) (h : Text.trim content = a ++ Text.lit " # " ++ b) :
    codeShown content = Text.trim content := by
  have hb := ne_nil_of_trim_eq h
  have hwritten : Text.trim content = a ++ commentSuffix b := by
    rw [h, commentSuffix_of_ne_nil hb, List.append_assoc]
  have hsplit : splitComment content = (a, b) := by
    rw [← splitComment_trim, hwritten]
    exact splitComment_append_commentSuffix ha (Text.trim_eq_self_iff.mp hta)
      (Text.trim_eq_self_iff.mp htb)
  rw [codeShown, hsplit, hwritten]

/-- **Code is left as it is exactly when** it has no hash, or what is around its first hash is
spelled the way it would be written anyway. -/
theorem codeShown_eq_trim_iff {content : Text} :
    codeShown content = Text.trim content ↔
      Text.hash ∉ content ∨ ∃ a b, Text.hash ∉ a ∧ Text.trim a = a ∧ Text.trim b = b ∧
        Text.trim content = a ++ Text.lit " # " ++ b := by
  constructor
  · intro h
    by_cases hmem : Text.hash ∈ content
    · exact .inr (exists_sides_of_codeShown hmem h)
    · exact .inl hmem
  · rintro (h | ⟨a, b, ha, hta, htb, h⟩)
    · exact codeShown_of_not_mem h
    · exact codeShown_of_sides ha hta htb h

/-! ## The step over running text -/

/-- The lines of pieces of running text at a level. -/
def pieceLines (s : Setting) (k : Nat) (ps : List Piece) : Text :=
  (ps.filterMap (Pass.pieceLine s)).flatMap (lineAt k)

/-- A code span is a line that starts with a dollar sign. -/
theorem pieceLine_of_code (s : Setting) {piece : Piece} (h : piece.kind = .codeInline) :
    Pass.pieceLine s piece = some (Text.lit "$ " ++ codeShown piece.content) := by
  simp [Pass.pieceLine, h, codeShown]

/-- The line of a code span stands between those of the pieces before it and behind it. -/
theorem pieceLines_append_code (s : Setting) (k : Nat) (before after : List Piece) {piece : Piece}
    (h : piece.kind = .codeInline) :
    pieceLines s k (before ++ piece :: after) =
      pieceLines s k before ++ lineAt k (Text.lit "$ " ++ codeShown piece.content) ++
        pieceLines s k after := by
  simp [pieceLines, pieceLine_of_code s h]

/-- Running text that is not escaped is written piece by piece. -/
theorem step_of_inline (s : Setting) {t : Token} (hkind : t.kind = .inline)
    (he : s.escapes t = false) (index : Nat) (rest : List Token) {p : Pass} {k : Nat}
    (hl : p.level = k) :
    Pass.step s index t rest p = .ok (p.write (pieceLines s k t.pieces), 0) := by
  apply Pass.step_of_alone he (by rw [hkind]; rfl) index rest
  rw [Action.ofToken, hkind]
  exact Pass.pieces_of_level hl s t.pieces

/-- Lines at one level differ when their texts do. -/
theorem lineAt_inj {k : Nat} {l l' : Text} : lineAt k l = lineAt k l' ↔ l = l' := by
  simp [lineAt]

/-- **When inline code reaches the script unchanged.** The step over an inline token that is not
escaped writes, at the current level and in its place among the lines of the other pieces, one line
for each piece of inline code. Without a hash sign in it this is the code behind a dollar sign,
without white space around it. With one, it is what stands before the first hash sign and, as a
comment, what stands behind it, both without white space around them. So the line is the code, with
nothing but white space around it taken away, exactly when there is no hash sign in it, or it is two
texts without white space around them that have the first hash sign and a blank on either side of it
in between. -/
theorem code_line_unchanged_iff (s : Setting) {t : Token} {before after : List Piece}
    {piece : Piece} (hkind : t.kind = .inline) (he : s.escapes t = false)
    (hpieces : t.pieces = before ++ piece :: after) (hcode : piece.kind = .codeInline) (index : Nat)
    (rest : List Token) {p : Pass} {k : Nat} (hl : p.level = k) :
    ∃ (q : Pass) (line : Text),
      Pass.step s index t rest p = .ok (q, 0) ∧
      q.out = p.out ++ pieceLines s k before ++ line ++ pieceLines s k after ∧
      (Text.hash ∉ piece.content → line = lineAt k (Text.lit "$ " ++ Text.trim piece.content)) ∧
      (∀ a b, Text.hash ∉ a → piece.content = a ++ Text.hash :: b →
        line = lineAt k (Text.lit "$ " ++ (Text.trim a ++ commentSuffix (Text.trim b)))) ∧
      (line = lineAt k (Text.lit "$ " ++ Text.trim piece.content) ↔
        Text.hash ∉ piece.content ∨ ∃ a b, Text.hash ∉ a ∧ Text.trim a = a ∧ Text.trim b = b ∧
          Text.trim piece.content = a ++ Text.lit " # " ++ b) := by
  refine ⟨_, lineAt k (Text.lit "$ " ++ codeShown piece.content),
    step_of_inline s hkind he index rest hl, ?_, ?_, ?_, ?_⟩
  · rw [Pass.out_write, hpieces, pieceLines_append_code s k before after hcode]
    simp only [List.append_assoc]
  · intro h
    rw [codeShown_of_not_mem h]
  · intro a b ha hcontent
    rw [hcontent, codeShown_append_cons ha]
  · rw [lineAt_inj, List.append_cancel_left_eq, codeShown_eq_trim_iff]

/-- Code with a comment behind it, and one blank on either side of the hash sign. -/
def commentedCode : Piece :=
  ⟨.codeInline, Text.lit " x = 1 # \"one\" "⟩

/-- A code span with a comment that is spelled the usual way. Its line is what it should be. -/
theorem code_line_unchanged_iff_of_comment :
    ∃ q : Pass,
      Pass.step (.of Options.default labelName) 0
        { kind := .inline, content := Text.lit "`x = 1 # \"one\"`", pieces := [commentedCode] } []
        { level := 1 } = .ok (q, 0) ∧
      q.out = Text.lit "    $ x = 1 # \"one\"\n" := by
  have hpieces : Token.pieces
      { kind := .inline, content := Text.lit "`x = 1 # \"one\"`", pieces := [commentedCode] } =
      [] ++ commentedCode :: [] := rfl
  have hlevel : Pass.level { level := 1 } = (1 : Nat) := rfl
  obtain ⟨q, line, hstep, hout, -, -, hsame⟩ :=
    code_line_unchanged_iff (.of Options.default labelName) rfl (by decide) hpieces rfl 0 [] hlevel
  have hline := hsame.mpr (.inr ⟨Text.lit "x = 1", Text.lit "\"one\"", by decide⟩)
  refine ⟨q, hstep, ?_⟩
  rw [hout, hline]
  decide

/-- A hash sign in a string literal is taken for the start of a comment: blanks get into the string.
Where nothing stands behind the hash sign it is lost. -/
theorem ofTokens_code_with_hash :
    Options.default.validate = .ok () ∧
      ofTokens (.of Options.default labelName) (tokensOf (Text.lit "`c = \"#fff\"`\n")) =
        .ok (Text.lit "$ c = \" # fff\"\n") ∧
      ofTokens (.of Options.default labelName) (tokensOf (Text.lit "`c = 1 #`\n")) =
        .ok (Text.lit "$ c = 1\n") := by
  refine ⟨Options.validate_default, ?_, ?_⟩
  · cbv
  · cbv

end NovelScript.Script
