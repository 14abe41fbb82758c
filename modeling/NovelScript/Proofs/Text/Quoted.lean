import Mathlib.Algebra.Group.Nat.Defs
import NovelScript.Proofs.Text.Utf8
import NovelScript.Text.Quoted

/-!
# Quoted literals read back

`unescape` reads the escaped bytes of a literal up to its closing quote. It gets back the text that
was written and what follows the literal (**`unescape_escapeFrom`**). So a literal can be told from
what follows it, and different texts have different literals (**`quoted_append_inj`**). A literal
has no line break in it (`newline_not_mem_quoted`).
-/

namespace NovelScript.Text

/-! ## Reading -/

/-- The double quote. -/
def quote : UInt8 := 0x22

/-- The backslash. -/
def backslash : UInt8 := 0x5C

/-- The value of a digit of base sixteen in lower case. -/
def hexDigitValue (b : UInt8) : Nat :=
  if b.toNat < 0x3A then b.toNat - 0x30 else b.toNat - 0x57

/-- The number that digits of base sixteen stand for. -/
def hexNumber (digits : Text) : Nat :=
  digits.foldl (fun n b => 16 * n + hexDigitValue b) 0

/-- The bytes that the escape after a backslash stands for, and how long it is. -/
def escaped (kind : UInt8) (more : Text) : Text × Nat :=
  if kind = byte 'a' then ([0x07], 1)
  else if kind = byte 'b' then ([0x08], 1)
  else if kind = byte 'f' then ([0x0C], 1)
  else if kind = byte 'n' then ([0x0A], 1)
  else if kind = byte 'r' then ([0x0D], 1)
  else if kind = byte 't' then ([0x09], 1)
  else if kind = byte 'v' then ([0x0B], 1)
  else if kind = byte 'x' then ([(hexNumber (more.take 2)).toUInt8], 3)
  else if kind = byte 'u' then (encodeChar (Char.ofNat (hexNumber (more.take 4))), 5)
  else if kind = byte 'U' then (encodeChar (Char.ofNat (hexNumber (more.take 8))), 9)
  else ([kind], 1)

/-- The text of a literal up to its closing quote, after `skip` bytes that were read already, and
what follows the literal. -/
def unescape : (skip : Nat) → Text → Option (Text × Text)
  | _, [] => none
  | skip + 1, _ :: r => unescape skip r
  | 0, b :: r =>
    if b = quote then some ([], r)
    else if b = backslash then
      match r with
      | [] => none
      | kind :: more =>
        let (bytes, width) := escaped kind more
        (unescape width r).map fun (s, rest) => (bytes ++ s, rest)
    else (unescape 0 r).map fun (s, rest) => (b :: s, rest)

/-- A text that was read with bytes in front. -/
def prepend (bytes : Text) (read : Text × Text) : Text × Text :=
  (bytes ++ read.1, read.2)

/-! ## Escapes of base sixteen -/

/-- A number in hexadecimal digits of fixed width has that width. -/
theorem length_hexPadded (width n : Nat) : (hexPadded width n).length = width := by
  induction width generalizing n with
  | zero => rfl
  | succ width ih => rw [hexPadded, List.length_append, ih]; rfl

/-- A hexadecimal digit is read as what it was written for. -/
theorem hexDigitValue_hexChar {n : Nat} (h : n < 16) : hexDigitValue (hexChar n) = n := by
  rw [hexChar, hexDigitValue]
  split
  · rw [show (0x30 + n).toUInt8.toNat = 0x30 + n by rw [UInt8.toNat_ofNat']; omega]
    rw [if_pos (by omega)]
    omega
  · rw [show (0x57 + n).toUInt8.toNat = 0x57 + n by rw [UInt8.toNat_ofNat']; omega]
    rw [if_neg (by omega)]
    omega

/-- A number in fixed width is read as itself, as far as the width goes. -/
theorem hexNumber_hexPadded (width n : Nat) : hexNumber (hexPadded width n) = n % 16 ^ width := by
  induction width generalizing n with
  | zero => rw [Nat.pow_zero, Nat.mod_one]; rfl
  | succ width ih =>
    have hlow : n % 16 < 16 := Nat.mod_lt n (by decide)
    rw [hexPadded, hexNumber, List.foldl_append, ← hexNumber, ih, List.foldl_cons, List.foldl_nil,
      hexDigitValue_hexChar hlow, Nat.pow_succ', Nat.mod_mul]
    omega

/-! ## Escapes read back -/

/-- Bytes that belong to an escape are passed over. -/
theorem unescape_skip (bytes t : Text) : unescape bytes.length (bytes ++ t) = unescape 0 t := by
  induction bytes with
  | nil => rfl
  | cons b bytes ih => exact ih

/-- An escape is read as the bytes it stands for. -/
theorem unescape_escaped (kind : UInt8) (more : Text) {bytes : Text} (t : Text)
    (h : escaped kind (more ++ t) = (bytes, (kind :: more).length)) :
    unescape 0 (backslash :: kind :: more ++ t) = (unescape 0 t).map (prepend bytes) := by
  have hread (more : Text) : unescape 0 (backslash :: kind :: more) =
      (unescape (escaped kind more).2 (kind :: more)).map (prepend (escaped kind more).1) := rfl
  rw [List.cons_append, List.cons_append, hread, h, ← List.cons_append, unescape_skip]

/-- Bytes that are neither a quote nor a backslash are read as they are, one by one. -/
theorem unescape_plain {bytes : Text} (h : ∀ b ∈ bytes, b ≠ quote ∧ b ≠ backslash) (t : Text) :
    unescape 0 (bytes ++ t) = (unescape 0 t).map (prepend bytes) := by
  induction bytes with
  | nil =>
    change unescape 0 t = (unescape 0 t).map id
    rw [Option.map_id, id]
  | cons b bytes ih =>
    obtain ⟨hq, hb⟩ := h b List.mem_cons_self
    have hread (r : Text) : unescape 0 (b :: r) = (unescape 0 r).map (prepend [b]) := by
      rw [unescape.eq_def]
      dsimp only
      rw [if_neg hq, if_neg hb]
      rfl
    rw [List.cons_append, hread, ih fun x hx => h x (List.mem_cons_of_mem _ hx), Option.map_map]
    rfl

/-- An escaped byte is read as that byte. -/
theorem unescape_hexByte {n : Nat} (h : n < 256) (t : Text) :
    unescape 0 (lit "\\x" ++ hexPadded 2 n ++ t) = (unescape 0 t).map (prepend [n.toUInt8]) := by
  refine unescape_escaped (byte 'x') (hexPadded 2 n) t ?_
  have htake : (hexPadded 2 n ++ t).take 2 = hexPadded 2 n := List.take_left' (length_hexPadded 2 n)
  rw [List.length_cons, length_hexPadded]
  simp only [escaped, htake, hexNumber_hexPadded, Nat.mod_eq_of_lt (show n < 16 ^ 2 from h)]
  rfl

/-- There are no characters from 0x110000 on. -/
theorem charToNat_lt (c : Char) : c.toNat < 0x110000 := by
  rcases c.valid with h | h
  · exact Nat.lt_trans h (by decide)
  · exact h.2

/-- The bytes of a character are a quote or a backslash only for these characters. -/
theorem encodeChar_plain {c : Char} (hquote : c ≠ '"') (hback : c ≠ '\\') :
    ∀ b ∈ encodeChar c, b ≠ quote ∧ b ≠ backslash := by
  intro b hb
  refine ⟨?_, ?_⟩
  · rintro rfl
    exact hquote (Char.toNat_inj.mp ((mem_encodeChar_of_ascii (by decide)).mp hb))
  · rintro rfl
    exact hback (Char.toNat_inj.mp ((mem_encodeChar_of_ascii (by decide)).mp hb))

/-- An escaped character is read as that character, when the digits of its escape are enough for
it. -/
theorem unescape_hexChar {kind : UInt8} {width : Nat} (c : Char) (t : Text)
    (hkind : ∀ more, escaped kind more =
      (encodeChar (Char.ofNat (hexNumber (more.take width))), width + 1))
    (hwidth : c.toNat < 16 ^ width) :
    unescape 0 (backslash :: kind :: hexPadded width c.toNat ++ t) =
      (unescape 0 t).map (prepend (encodeChar c)) := by
  refine unescape_escaped _ _ t ?_
  have htake : (hexPadded width c.toNat ++ t).take width = hexPadded width c.toNat :=
    List.take_left' (length_hexPadded width c.toNat)
  rw [hkind, htake, hexNumber_hexPadded, Nat.mod_eq_of_lt hwidth, Char.ofNat_toNat,
    List.length_cons, length_hexPadded]

/-- Every character is read back from its escape. The cases are those of escaping: a letter of its
own, the character as it is, and two, four or eight hexadecimal digits. -/
theorem unescape_escapeChar (c : Char) (t : Text) :
    unescape 0 (escapeChar c ++ t) = (unescape 0 t).map (prepend (encodeChar c)) := by
  have hmax := charToNat_lt c
  -- an escape of one character, or one of those that come after it
  have hshort (d : Char) (kind : UInt8) (other : Text)
      (hd : ∀ more, escaped kind more = (encodeChar d, 1))
      (hother : c ≠ d → unescape 0 (other ++ t) = (unescape 0 t).map (prepend (encodeChar c))) :
      unescape 0 ((if c = d then [backslash, kind] else other) ++ t) =
        (unescape 0 t).map (prepend (encodeChar c)) := by
    by_cases h : c = d
    · subst h
      rw [if_pos rfl]
      exact unescape_escaped _ [] t (hd _)
    · rw [if_neg h]
      exact hother h
  refine hshort '"' quote _ (fun _ => rfl) fun hquote => ?_
  refine hshort '\\' backslash _ (fun _ => rfl) fun hback => ?_
  by_cases hg : isGraphic c = true
  · rw [if_pos hg]
    exact unescape_plain (encodeChar_plain hquote hback) t
  rw [if_neg hg]
  refine hshort '\x07' (byte 'a') _ (fun _ => rfl) fun _ => ?_
  refine hshort '\x08' (byte 'b') _ (fun _ => rfl) fun _ => ?_
  refine hshort '\x0c' (byte 'f') _ (fun _ => rfl) fun _ => ?_
  refine hshort '\n' (byte 'n') _ (fun _ => rfl) fun _ => ?_
  refine hshort '\r' (byte 'r') _ (fun _ => rfl) fun _ => ?_
  refine hshort '\t' (byte 't') _ (fun _ => rfl) fun _ => ?_
  refine hshort '\x0b' (byte 'v') _ (fun _ => rfl) fun _ => ?_
  by_cases hx : c.toNat < 0x20 ∨ c.toNat = 0x7F
  · rw [if_pos hx, unescape_hexByte (by omega), encodeChar, if_pos (by omega)]
  rw [if_neg hx]
  by_cases hu : c.toNat < 0x10000
  · rw [if_pos hu]
    exact unescape_hexChar c t (fun _ => rfl) hu
  · rw [if_neg hu]
    exact unescape_hexChar c t (fun _ => rfl) (Nat.lt_trans hmax (by decide))

/-- **What was escaped is read back**, up to the quote at its end. By induction on the bytes, with
those passed over that belong to a character which was written as a whole. -/
theorem unescape_escapeFrom (skip : Nat) (s rest : Text) :
    unescape 0 (escapeFrom skip s ++ quote :: rest) = some (s.drop skip, rest) := by
  fun_induction escapeFrom skip s with
  | case1 skip => simp [unescape]
  | case2 skip b r ih => simpa using ih
  | case3 b r c width h ih =>
    rw [List.append_assoc, unescape_escapeChar, ih, Option.map_some, prepend,
      ← encodeChar_of_wellFormed? h]
    rfl
  | case4 b r h ih =>
    rw [List.append_assoc, unescape_hexByte b.toNat_lt, ih, Option.map_some, prepend,
      toUInt8_eq rfl]
    rfl

/-- A quoted literal can be told from what follows it, and its text from the literal. -/
theorem quoted_append_inj {s t x y : Text} (h : quoted s ++ x = quoted t ++ y) : s = t ∧ x = y := by
  have hopen (u z : Text) : quoted u ++ z = quote :: (escapeFrom 0 u ++ quote :: z) := by
    have hlit : lit "\"" = [quote] := rfl
    simp [quoted, hlit]
  rw [hopen, hopen, List.cons.injEq] at h
  have hread := congrArg (unescape 0) h.2
  rw [unescape_escapeFrom, unescape_escapeFrom] at hread
  simpa using hread

/-! ## A literal is one line -/

/-- Hexadecimal digits have no line break. -/
theorem newline_not_mem_hexPadded (width n : Nat) : newline ∉ hexPadded width n := by
  have hdigit {d : Nat} (h : d < 16) : newline ≠ hexChar d := by
    intro heq
    have hvalue := hexDigitValue_hexChar h
    rw [← heq] at hvalue
    have hnewline : hexDigitValue newline = 0 := rfl
    rw [← hvalue, hnewline] at heq
    exact absurd heq (by decide)
  induction width generalizing n with
  | zero => exact List.not_mem_nil
  | succ width ih =>
    have hlow : n % 16 < 16 := Nat.mod_lt n (by decide)
    exact List.not_mem_append (ih _) (mt List.mem_singleton.mp (hdigit hlow))

/-- An escaped character has no line break; the line break itself is written as a letter behind a
backslash. -/
theorem newline_not_mem_escapeChar (c : Char) : newline ∉ escapeChar c := by
  have hshort (d : Char) {short other : Text} (hd : newline ∉ short) (hother : newline ∉ other) :
      newline ∉ if c = d then short else other := by
    split
    · exact hd
    · exact hother
  have hnumeric {front : Text} (hfront : newline ∉ front) (width : Nat) :
      newline ∉ front ++ hexPadded width c.toNat :=
    List.not_mem_append hfront (newline_not_mem_hexPadded width _)
  refine hshort '"' (by decide) (hshort '\\' (by decide) ?_)
  by_cases hg : isGraphic c = true
  · rw [if_pos hg]
    intro hmem
    have hc : c = '\n' := Char.toNat_inj.mp ((mem_encodeChar_of_ascii (by decide)).mp hmem)
    rw [hc] at hg
    exact absurd hg (by decide)
  rw [if_neg hg]
  refine hshort '\x07' (by decide) (hshort '\x08' (by decide) (hshort '\x0c' (by decide) ?_))
  refine hshort '\n' (by decide) (hshort '\r' (by decide) (hshort '\t' (by decide) ?_))
  refine hshort '\x0b' (by decide) ?_
  split
  · exact hnumeric (by decide) 2
  split
  · exact hnumeric (by decide) 4
  · exact hnumeric (by decide) 8

/-- **A literal is one line**, whatever is quoted. -/
theorem newline_not_mem_quoted (s : Text) : newline ∉ quoted s := by
  have hescaped (skip : Nat) : newline ∉ escapeFrom skip s := by
    fun_induction escapeFrom skip s with
    | case1 skip => exact List.not_mem_nil
    | case2 skip b r ih => exact ih
    | case3 b r c width h ih => exact List.not_mem_append (newline_not_mem_escapeChar c) ih
    | case4 b r h ih =>
      exact List.not_mem_append (List.not_mem_append (by decide) (newline_not_mem_hexPadded 2 _)) ih
  exact List.not_mem_append (List.not_mem_append (by decide) (hescaped 0)) (by decide)

end NovelScript.Text
