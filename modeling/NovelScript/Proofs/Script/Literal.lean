import NovelScript.Proofs.Text.Newline
import NovelScript.Proofs.Text.Quoted
import NovelScript.Script.Statement

/-!
# String literals read back

A reader of scripts finds the end of a literal at the first quote that no backslash stands before.
`readLiteral?` is such a reader: it knows the three escapes that a literal is written with and no
others, and gives the text and what follows the literal.

* **What was written is read** (`readLiteral?_literal`): for every text and whatever follows, the
  reader gets the text back and stops right behind the literal. Nothing in a text can end its literal
  early or swallow what comes after it.
* **No literal starts another one** (`literal_append_inj`), which makes `literal` injective.
* **Headers of choices** (`literal_prefix_free`): the text of a choice and its condition can be told
  apart whatever quotes and backslashes the author wrote into them.
-/

namespace NovelScript.Script

open Text (quote backslash newline)

/-! ## Reading -/

/-- The byte that an escape stands for; `none` where the letter makes no escape. -/
def escapeMeaning? (kind : UInt8) : Option UInt8 :=
  if kind = backslash then some backslash
  else if kind = quote then some quote
  else if kind = Text.byte 'n' then some newline
  else none

/-- The text of a literal behind its opening quote, and what follows its closing quote. -/
def readInside? : Text → Option (Text × Text)
  | [] => none
  | b :: r =>
    if b = quote then some ([], r)
    else if b = backslash then
      match r with
      | [] => none
      | kind :: more =>
        (escapeMeaning? kind).bind fun meaning => (readInside? more).map (Text.prepend [meaning])
    else (readInside? r).map (Text.prepend [b])

/-- The text of the literal in front of a text, and what follows the literal. -/
def readLiteral? : Text → Option (Text × Text)
  | [] => none
  | b :: r => if b = quote then readInside? r else none

/-! ## What was written is read -/

/-- A literal ends at a quote. -/
theorem readInside?_quote (t : Text) : readInside? (quote :: t) = some ([], t) := by
  unfold readInside?
  exact if_pos rfl

/-- A byte that is neither a quote nor a backslash stands for itself. -/
theorem readInside?_plain {b : UInt8} (hquote : b ≠ quote) (hslash : b ≠ backslash) (t : Text) :
    readInside? (b :: t) = (readInside? t).map (Text.prepend [b]) := by
  rw [readInside?.eq_def]
  dsimp only
  rw [if_neg hquote, if_neg hslash]

/-- A backslash and a letter stand for what the letter means. -/
theorem readInside?_escape {kind b : UInt8} (h : escapeMeaning? kind = some b) (t : Text) :
    readInside? (backslash :: kind :: t) = (readInside? t).map (Text.prepend [b]) := by
  have hdiffer : backslash ≠ quote := by decide
  rw [readInside?.eq_def]
  dsimp only
  rw [if_neg hdiffer, if_pos rfl, h, Option.bind_some]

/-- Each byte is read back from what stands for it, whatever follows. The cases are the bytes with
an escape and all others. -/
theorem readInside?_escapeByte (b : UInt8) (t : Text) :
    readInside? (escapeByte b ++ t) = (readInside? t).map (Text.prepend [b]) := by
  by_cases hslash : b = backslash
  · subst hslash
    exact readInside?_escape (by decide) t
  by_cases hquote : b = quote
  · subst hquote
    exact readInside?_escape (by decide) t
  by_cases hbreak : b = newline
  · subst hbreak
    exact readInside?_escape (by decide) t
  · have hself : escapeByte b = [b] := by
      unfold escapeByte
      exact (if_neg hslash).trans ((if_neg hquote).trans (if_neg hbreak))
    rw [hself]
    exact readInside?_plain hquote hslash t

/-- **What was escaped is read back**, and what stands behind the quote is left over. By induction
on the bytes. -/
theorem readInside?_escaped (s t : Text) :
    readInside? (s.flatMap escapeByte ++ quote :: t) = some (s, t) := by
  induction s with
  | nil => exact readInside?_quote t
  | cons b s ih =>
    rw [List.flatMap_cons, List.append_assoc, readInside?_escapeByte, ih]
    rfl

/-- The reader gets back the text of a literal and all that follows it. -/
theorem readLiteral?_literal (s t : Text) : readLiteral? (literal s ++ t) = some (s, t) := by
  have hopen : literal s ++ t = quote :: (s.flatMap escapeByte ++ quote :: t) := by
    simp [literal, quote]
  rw [hopen, readLiteral?, if_pos rfl, readInside?_escaped]

/-- A literal can be told from what follows it, and its text from the literal. -/
theorem literal_append_inj {s t x y : Text} (h : literal s ++ x = literal t ++ y) :
    s = t ∧ x = y := by
  have hread := congrArg readLiteral? h
  rw [readLiteral?_literal, readLiteral?_literal] at hread
  simpa using hread

/-! ## Headers of choices -/

/-- A label that starts with no question mark is a choice. -/
theorem itemHeader_of_choice {label : Text} (h : label.head? ≠ some question) :
    itemHeader label = match Text.cut [bar] label with
      | some (choice, condition) =>
        literal (Text.trim choice) ++ Text.lit " if " ++ Text.trim condition ++ Text.lit ":"
      | none => literal label ++ Text.lit ":" := by
  have hstart (more : Text) : Text.startsWith (question :: more) label = false := by
    cases label with
    | nil => rfl
    | cons b label =>
      have hb : question ≠ b := fun hb => h (by rw [hb]; rfl)
      simp [Text.startsWith, List.isPrefixOf, hb]
  unfold itemHeader
  rw [hstart, hstart, hstart]
  rfl

/-- The header of an item without a condition is its literal and a colon. -/
theorem readLiteral?_itemHeader {label : Text} (h : label.head? ≠ some question)
    (hbar : bar ∉ label) : readLiteral? (itemHeader label) = some (label, Text.lit ":") := by
  rw [itemHeader_of_choice h, Text.cut_of_not_mem hbar]
  exact readLiteral?_literal label _

/-- With a condition the header is the literal of the choice, the condition behind `if` and a
colon. -/
theorem readLiteral?_itemHeader_bar {choice : Text} (condition : Text)
    (h : (choice ++ bar :: condition).head? ≠ some question) (hbar : bar ∉ choice) :
    readLiteral? (itemHeader (choice ++ bar :: condition)) =
      some (Text.trim choice, Text.lit " if " ++ Text.trim condition ++ Text.lit ":") := by
  rw [itemHeader_of_choice h, Text.cut_append_cons hbar]
  simp only [List.append_assoc]
  exact readLiteral?_literal _ _

/-- **Literals cannot be broken out of.** Whatever bytes a text has and whatever follows its literal,
the reader gets back both; a literal has no line break in it, no literal starts another one, and
different texts have different literals. Of a label that is no branch, the reader gets the whole label
and the colon behind it when there is no bar in it, and otherwise the text before the first bar and,
behind the literal, the condition after that bar, both without white space around them. -/
theorem literal_prefix_free :
    (∀ s t : Text, readLiteral? (literal s ++ t) = some (s, t)) ∧
      (∀ s : Text, newline ∉ literal s) ∧
      (∀ s t : Text, literal s <+: literal t → s = t) ∧
      Function.Injective literal ∧
      (∀ label : Text, label.head? ≠ some question → bar ∉ label →
        readLiteral? (itemHeader label) = some (label, Text.lit ":")) ∧
      ∀ choice condition : Text, (choice ++ bar :: condition).head? ≠ some question →
        bar ∉ choice →
        readLiteral? (itemHeader (choice ++ bar :: condition)) =
          some (Text.trim choice, Text.lit " if " ++ Text.trim condition ++ Text.lit ":") := by
  have hprefix : ∀ s t : Text, literal s <+: literal t → s = t := by
    rintro s t ⟨more, hmore⟩
    have happend : literal s ++ more = literal t ++ [] := by rw [hmore, List.append_nil]
    exact (literal_append_inj happend).1
  refine ⟨readLiteral?_literal, newline_not_mem_literal, hprefix, ?_, ?_, ?_⟩
  · intro s t hst
    exact hprefix s t (hst ▸ List.prefix_refl (literal s))
  · intro label hlabel hbar
    exact readLiteral?_itemHeader hlabel hbar
  · intro choice condition hlabel hbar
    exact readLiteral?_itemHeader_bar condition hlabel hbar

/-- A choice that ends in a backslash, with a quote in it and another bar in its condition. -/
theorem literal_prefix_free_of_guard :
    readLiteral? (itemHeader (Text.lit "say \"n\\")) = some (Text.lit "say \"n\\", Text.lit ":") ∧
      readLiteral? (itemHeader (Text.lit "say \"n\\ | x == \"|\" ")) =
        some (Text.lit "say \"n\\", Text.lit " if x == \"|\":") := by
  obtain ⟨-, -, -, -, hplain, hguard⟩ := literal_prefix_free
  constructor
  · exact hplain (Text.lit "say \"n\\") (by decide) (by decide)
  · exact hguard (Text.lit "say \"n\\ ") (Text.lit " x == \"|\" ") (by decide) (by decide)

end NovelScript.Script
