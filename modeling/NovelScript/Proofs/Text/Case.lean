import NovelScript.Proofs.Text.Space
import NovelScript.Proofs.Text.Utf8
import NovelScript.Text.Case

/-!
# Lower case

Lower case is taken character by character, so it can be taken of a text and of a character at
either end of it (`lower_encodeChar_append`, `lower_append_encodeChar`). White space has no case: it
is its own lower case, and no letter becomes white space (`lowerChar_eq_self_of_space`, which goes
through the table of letters). Therefore it does not matter whether a text is trimmed before or after
it is put in lower case (**`lower_trim`**), also where its bytes are no characters at all.
-/

namespace NovelScript.Text

/-! ## Character by character -/

/-- A text in small letters has the characters of the text, each in small letters. -/
theorem decode_lower (s : Text) : decode (lower s) = (decode s).map lowerChar :=
  decode_encode _

/-- The first character is made small by itself. -/
theorem lower_encodeChar_append (c : Char) (r : Text) :
    lower (encodeChar c ++ r) = encodeChar (lowerChar c) ++ lower r := by
  rw [lower, decode_encodeChar_append]
  rfl

/-- The last character is made small by itself. It is the statement for trimming at the end, where
the text is looked at backwards. -/
theorem lower_append_encodeChar (r : Text) (c : Char) :
    lower (r ++ encodeChar c) = lower r ++ encodeChar (lowerChar c) := by
  rw [lower, decode_append_encodeChar, List.map_append, encode_append]
  simp [lower, encode]

/-! ## White space has no case -/

/-- White space is one character, in lower case. -/
theorem exists_char_of_space {w : Text} (hw : w ∈ spaces) :
    ∃ c, encodeChar c = w ∧ c ≠ replacement ∧ lowerChar c = c := by
  have hall : ∀ w ∈ spaces, ((decode w).any fun c =>
      encodeChar c == w && c != replacement && lowerChar c == c) = true := by decide
  obtain ⟨c, -, hc⟩ := List.any_eq_true.mp (hall w hw)
  exact ⟨c, by simpa [and_assoc] using hc⟩

/-- The numbers of the white-space characters. -/
def spaceNumbers : List Nat :=
  (spaces.flatMap decode).map Char.toNat

/-- White space is one of a few characters, known by their numbers. -/
theorem toNat_mem_spaceNumbers {c : Char} (h : encodeChar c ∈ spaces) : c.toNat ∈ spaceNumbers := by
  apply List.mem_map_of_mem
  apply List.mem_flatMap_of_mem h
  rw [decode_encodeChar]
  exact List.mem_singleton_self c

/-- A number that is no character stands for the character of code zero. -/
theorem toNat_charOfNat_or (n : Nat) : (Char.ofNat n).toNat = n ∨ (Char.ofNat n).toNat = 0 := by
  by_cases h : n.isValidChar
  · exact .inl (toNat_charOfNat h)
  · rw [Char.ofNat, dif_neg h]
    exact .inr rfl

/-- No letter has white space as its lower case, and white space is no letter. The letters are given
by ranges with a shift each, so this is a matter of numbers. -/
theorem lowerChar_eq_self_of_space {c : Char} (h : encodeChar (lowerChar c) ∈ spaces) :
    lowerChar c = c := by
  have hletters : ∀ n ∈ spaceNumbers, n ≠ 0 ∧ (n < 97 ∨ 122 < n) := by decide
  have hruns : ∀ r ∈ caseRuns, ∀ n ∈ spaceNumbers,
      (n : Int) < r.first + r.shift ∨ r.last + r.shift < n := by decide +kernel
  have hmem := toNat_mem_spaceNumbers h
  have hnumber := hletters _ hmem
  unfold lowerChar at hmem hnumber ⊢
  split
  · rename_i hascii
    rw [if_pos hascii] at hnumber
    split
    · rename_i hcapital
      rw [if_pos hcapital] at hnumber
      have hrange : 65 ≤ c.toNat ∧ c.toNat ≤ 90 := hcapital
      rcases toNat_charOfNat_or (c.toNat + 32) with hn | hn
      · omega
      · omega
    · rfl
  · rename_i hascii
    rw [if_neg hascii] at hnumber hmem
    split
    · rename_i r hr
      rw [hr] at hnumber hmem
      dsimp only at hnumber hmem
      have hrange : r.first ≤ c.toNat ∧ c.toNat ≤ r.last := by
        have hfound := List.find?_some hr
        simp only [Bool.and_eq_true, decide_eq_true_eq] at hfound
        exact hfound.1
      have hclear := hruns r (List.mem_of_find?_eq_some hr) _ hmem
      rcases toNat_charOfNat_or (c.toNat + r.shift).toNat with hn | hn
      · omega
      · omega
    · rfl

/-! ## Trimming -/

/-- To trim at the front and to make letters small may change places, because no letter is white
space, before or after. -/
theorem lower_trimLeft (s : Text) : lower (trimLeft s) = trimLeft (lower s) := by
  induction s using front_induction with
  | space w hw r ih =>
    obtain ⟨c, rfl, -, hc⟩ := exists_char_of_space hw
    rw [trimLeft_append hw, lower_encodeChar_append, hc, trimLeft_append hw, ih]
  | rest s hs =>
    rw [trimLeft_of_front hs, trimLeft_of_front]
    rintro w hw ⟨r, hr⟩
    -- white space in front of the lower-case text was in front of the text already
    obtain ⟨c, rfl, hne, -⟩ := exists_char_of_space hw
    have hread : (decode s).map lowerChar = c :: decode r := by
      rw [← decode_lower, ← hr, decode_encodeChar_append]
    obtain ⟨d, cs, hs', hd, -⟩ := List.map_eq_cons_iff.mp hread
    have hsame : d = c := by
      rw [← hd, lowerChar_eq_self_of_space]
      rwa [hd]
    subst hsame
    exact hs _ hw (encodeChar_isPrefix hs' hne)

/-- To trim at the end and to make letters small may change places. The text is taken apart from
behind, one character at a time. -/
theorem lower_trimRight (s : Text) : lower (trimRight s) = trimRight (lower s) := by
  induction s using end_induction with
  | space w hw r ih =>
    obtain ⟨c, rfl, -, hc⟩ := exists_char_of_space hw
    rw [trimRight_append hw, lower_append_encodeChar, hc, trimRight_append hw, ih]
  | rest s hs =>
    rw [trimRight_of_end hs, trimRight_of_end]
    rintro w hw ⟨r, hr⟩
    obtain ⟨c, rfl, hne, -⟩ := exists_char_of_space hw
    have hread : (decode s).map lowerChar = decode r ++ [c] := by
      rw [← decode_lower, ← hr, decode_append_encodeChar]
    obtain ⟨cs, ds, hs', -, hd⟩ := List.map_eq_append_iff.mp hread
    obtain ⟨d, hd', hd⟩ := List.map_eq_singleton_iff.mp hd
    have hsame : d = c := by
      rw [← hd, lowerChar_eq_self_of_space]
      rwa [hd]
    subst hsame hd'
    exact hs _ hw (encodeChar_isSuffix hs' hne)

/-- **Lower case and trimming** can be taken in either order. -/
theorem lower_trim (s : Text) : lower (trim s) = trim (lower s) := by
  rw [trim, lower_trimRight, lower_trimLeft, trim]

end NovelScript.Text
