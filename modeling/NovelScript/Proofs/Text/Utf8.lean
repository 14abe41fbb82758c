import NovelScript.Text.Utf8

/-!
# Characters read and written

A well-formed character has one of four forms (`Form`), by the number of its bytes. The forms are
what is read (`wellFormed?_eq_some_iff`), and they are what is written (`Form.encodeChar_eq`,
`exists_form`). This is where overlong forms and surrogates being refused matters, for a character
has only one written form. A well-formed text is therefore written as it was read
(**`encode_decode`**), and what was written is read again (**`decode_encode`**).

Characters can be told apart from either end of a text. A text is read in two parts whenever the
second one does not start inside a character (`decode_append`), and a character that is read first
or last, unless it stands for ill-formed bytes, is there with its bytes (`encodeChar_isPrefix`,
`encodeChar_isSuffix`).
-/

namespace NovelScript.Text

/-- A number that is a character stands for it. -/
theorem toNat_charOfNat {n : Nat} (h : n.isValidChar) : (Char.ofNat n).toNat = n := by
  rw [Char.ofNat, dif_pos h]
  rfl

/-- A number below 256 that is the value of a byte is the byte. -/
theorem toUInt8_eq {b : UInt8} {n : Nat} (h : n = b.toNat) : n.toUInt8 = b := by
  subst h
  exact UInt8.ofNat_toNat

/-- A number below 256 is the value of its byte. -/
theorem toNat_toUInt8 {n : Nat} (h : n < 256) : n.toUInt8.toNat = n := by
  rw [Nat.toUInt8, UInt8.toNat_ofNat', Nat.mod_eq_of_lt (by omega)]

/-- The bytes that continue a character, as a range of numbers. -/
theorem isContinuation_iff {b : UInt8} : isContinuation b = true ↔ 0x80 ≤ b.toNat ∧ b.toNat ≤ 0xBF := by
  simp [isContinuation, UInt8.le_iff_toNat_le]

/-! ## Well-formed characters -/

/-- The bytes `b :: more` are a well-formed character with the number `n`: they are not more than the
number needs, they do not stand for a surrogate, and for nothing above U+10FFFF. -/
inductive Form (b : UInt8) : (more : Text) → (n : Nat) → Prop
  | one (hb : b.toNat < 0x80) : Form b [] b.toNat
  | two {x : UInt8} (hb : 0xC2 ≤ b.toNat ∧ b.toNat ≤ 0xDF) (hx : isContinuation x = true) :
      Form b [x] (payload (b.toNat - 0xC0) [x])
  | three {x y : UInt8} (hb : 0xE0 ≤ b.toNat ∧ b.toNat ≤ 0xEF) (hx : isContinuation x = true)
      (hy : isContinuation y = true) (hlong : b.toNat = 0xE0 → 0xA0 ≤ x.toNat)
      (hsurrogate : b.toNat = 0xED → x.toNat < 0xA0) :
      Form b [x, y] (payload (b.toNat - 0xE0) [x, y])
  | four {x y z : UInt8} (hb : 0xF0 ≤ b.toNat ∧ b.toNat ≤ 0xF4) (hx : isContinuation x = true)
      (hy : isContinuation y = true) (hz : isContinuation z = true)
      (hlong : b.toNat = 0xF0 → 0x90 ≤ x.toNat) (hlarge : b.toNat = 0xF4 → x.toNat < 0x90) :
      Form b [x, y, z] (payload (b.toNat - 0xF0) [x, y, z])

/-- The condition on the bytes of a character of three bytes, as ranges of numbers. The two
exceptions are too long spellings and surrogates. -/
theorem threeBytes_iff {b x y : UInt8} :
    (isContinuation x && isContinuation y && !(b == 0xE0 && x < 0xA0) &&
        !(b == 0xED && 0xA0 ≤ x)) = true ↔
      isContinuation x = true ∧ isContinuation y = true ∧ (b.toNat = 0xE0 → 0xA0 ≤ x.toNat) ∧
        (b.toNat = 0xED → x.toNat < 0xA0) := by
  simp [UInt8.le_iff_toNat_le, UInt8.lt_iff_toNat_lt, ← UInt8.toNat_inj, and_assoc,
    Decidable.imp_iff_not_or]

/-- The condition on the bytes of a character of four bytes, as ranges of numbers. The two
exceptions are too long spellings and numbers past the last character. -/
theorem fourBytes_iff {b x y z : UInt8} :
    (isContinuation x && isContinuation y && isContinuation z && !(b == 0xF0 && x < 0x90) &&
        !(b == 0xF4 && 0x90 ≤ x)) = true ↔
      isContinuation x = true ∧ isContinuation y = true ∧ isContinuation z = true ∧
        (b.toNat = 0xF0 → 0x90 ≤ x.toNat) ∧ (b.toNat = 0xF4 → x.toNat < 0x90) := by
  simp [UInt8.le_iff_toNat_le, UInt8.lt_iff_toNat_lt, ← UInt8.toNat_inj, and_assoc,
    Decidable.imp_iff_not_or]

/-- What is read has a form: a character of one, two, three or four bytes within their ranges. The
first byte tells how many there are, and for some of them narrows the range of the second. -/
theorem exists_form_of_wellFormed? {b : UInt8} {r : Text} {c : Char} {width : Nat}
    (h : wellFormed? b r = some (c, width)) :
    ∃ more rest n, Form b more n ∧ r = more ++ rest ∧ c = Char.ofNat n ∧ width = more.length + 1 := by
  unfold wellFormed? at h
  split at h
  · rename_i hb
    cases h
    exact ⟨[], r, _, .one (UInt8.lt_iff_toNat_lt.mp hb), rfl, rfl, rfl⟩
  split at h
  · rename_i hb
    split at h
    · rename_i x rest
      obtain ⟨hx, hread⟩ := Option.ite_none_right_eq_some.mp h
      obtain ⟨rfl, rfl⟩ := Prod.mk.inj (Option.some.inj hread)
      exact ⟨[x], rest, _, .two (by simpa [UInt8.le_iff_toNat_le] using hb) hx, rfl, rfl, rfl⟩
    · cases h
  split at h
  · rename_i hb
    split at h
    · rename_i x y rest
      obtain ⟨hrest, hread⟩ := Option.ite_none_right_eq_some.mp h
      obtain ⟨rfl, rfl⟩ := Prod.mk.inj (Option.some.inj hread)
      obtain ⟨hx, hy, hlong, hsurrogate⟩ := threeBytes_iff.mp hrest
      exact ⟨[x, y], rest, _,
        .three (by simpa [UInt8.le_iff_toNat_le] using hb) hx hy hlong hsurrogate, rfl, rfl, rfl⟩
    · cases h
  split at h
  · rename_i hb
    split at h
    · rename_i x y z rest
      obtain ⟨hrest, hread⟩ := Option.ite_none_right_eq_some.mp h
      obtain ⟨rfl, rfl⟩ := Prod.mk.inj (Option.some.inj hread)
      obtain ⟨hx, hy, hz, hlong, hlarge⟩ := fourBytes_iff.mp hrest
      exact ⟨[x, y, z], rest, _,
        .four (by simpa [UInt8.le_iff_toNat_le] using hb) hx hy hz hlong hlarge, rfl, rfl, rfl⟩
    · cases h
  · cases h

namespace Form

variable {b : UInt8} {more : Text} {n : Nat}

/-- The first byte can only stand at the start of a character. -/
theorem not_isContinuation (h : Form b more n) : isContinuation b = false := by
  rw [Bool.eq_false_iff, Ne, isContinuation_iff]
  cases h <;> omega

/-- The others can only stand inside of one. -/
theorem isContinuation_of_mem (h : Form b more n) : ∀ x ∈ more, isContinuation x = true := by
  cases h with
  | one => nofun
  | two hb hx => simpa using hx
  | three hb hx hy => simp [hx, hy]
  | four hb hx hy hz => simp [hx, hy, hz]

/-- A character of several bytes starts with a lead byte, and has a number above 127. -/
theorem of_ne_nil (h : Form b more n) (hmore : more ≠ []) : 0xC0 ≤ b.toNat ∧ 0x80 ≤ n := by
  cases h with
  | one => exact absurd rfl hmore
  | two hb =>
    simp only [payload, List.foldl_cons, List.foldl_nil]
    omega
  | three hb hx =>
    rw [isContinuation_iff] at hx
    simp only [payload, List.foldl_cons, List.foldl_nil]
    omega
  | four hb hx =>
    rw [isContinuation_iff] at hx
    simp only [payload, List.foldl_cons, List.foldl_nil]
    omega

/-- A form is read, whatever follows. With `exists_form_of_wellFormed?` reading and forms are two
views of one thing. -/
theorem wellFormed?_eq (h : Form b more n) (rest : Text) :
    wellFormed? b (more ++ rest) = some (Char.ofNat n, more.length + 1) := by
  unfold wellFormed?
  cases h with
  | one hb =>
    rw [if_pos (UInt8.lt_iff_toNat_lt.mpr hb)]
    rfl
  | two hb hx =>
    have hone : ¬ b < 0x80 := by
      simp [UInt8.lt_iff_toNat_lt]
      omega
    rw [if_neg hone, if_pos (by simpa [UInt8.le_iff_toNat_le] using hb)]
    exact if_pos hx
  | three hb hx hy hlong hsurrogate =>
    have hone : ¬ b < 0x80 := by
      simp [UInt8.lt_iff_toNat_lt]
      omega
    have htwo : ¬ (0xC2 ≤ b && b ≤ 0xDF) = true := by
      simp [UInt8.le_iff_toNat_le]
      omega
    rw [if_neg hone, if_neg htwo, if_pos (by simpa [UInt8.le_iff_toNat_le] using hb)]
    exact if_pos (threeBytes_iff.mpr ⟨hx, hy, hlong, hsurrogate⟩)
  | four hb hx hy hz hlong hlarge =>
    have hone : ¬ b < 0x80 := by
      simp [UInt8.lt_iff_toNat_lt]
      omega
    have htwo : ¬ (0xC2 ≤ b && b ≤ 0xDF) = true := by
      simp [UInt8.le_iff_toNat_le]
      omega
    have hthree : ¬ (0xE0 ≤ b && b ≤ 0xEF) = true := by
      simp [UInt8.le_iff_toNat_le]
      omega
    rw [if_neg hone, if_neg htwo, if_neg hthree, if_pos (by simpa [UInt8.le_iff_toNat_le] using hb)]
    exact if_pos (fourBytes_iff.mpr ⟨hx, hy, hz, hlong, hlarge⟩)

/-- The bytes that a character was read from are the bytes it is written with. There is one spelling
for each character, as too long ones have no form. -/
theorem encodeChar_eq (h : Form b more n) : encodeChar (Char.ofNat n) = b :: more := by
  cases h with
  | one hb => rw [encodeChar, toNat_charOfNat (.inl (by omega)), if_pos hb, toUInt8_eq rfl]
  | @two x hb hx =>
    rw [isContinuation_iff] at hx
    have hn : payload (b.toNat - 0xC0) [x] = 64 * (b.toNat - 0xC0) + (x.toNat - 0x80) := rfl
    rw [encodeChar, hn, toNat_charOfNat (.inl (by omega)), if_neg (by omega), if_pos (by omega),
      toUInt8_eq (b := b) (by omega), toUInt8_eq (b := x) (by omega)]
  | @three x y hb hx hy hlong hsurrogate =>
    rw [isContinuation_iff] at hx hy
    have hn : payload (b.toNat - 0xE0) [x, y] =
        64 * (64 * (b.toNat - 0xE0) + (x.toNat - 0x80)) + (y.toNat - 0x80) := rfl
    have hvalid : (payload (b.toNat - 0xE0) [x, y]).isValidChar := by
      unfold Nat.isValidChar
      omega
    rw [encodeChar, toNat_charOfNat hvalid, hn, if_neg (by omega), if_neg (by omega),
      if_pos (by omega), toUInt8_eq (b := b) (by omega), toUInt8_eq (b := x) (by omega),
      toUInt8_eq (b := y) (by omega)]
  | @four x y z hb hx hy hz hlong hlarge =>
    rw [isContinuation_iff] at hx hy hz
    have hn : payload (b.toNat - 0xF0) [x, y, z] =
        64 * (64 * (64 * (b.toNat - 0xF0) + (x.toNat - 0x80)) + (y.toNat - 0x80)) +
          (z.toNat - 0x80) := rfl
    have hvalid : (payload (b.toNat - 0xF0) [x, y, z]).isValidChar := by
      unfold Nat.isValidChar
      omega
    rw [encodeChar, toNat_charOfNat hvalid, hn, if_neg (by omega), if_neg (by omega),
      if_neg (by omega), toUInt8_eq (b := b) (by omega), toUInt8_eq (b := x) (by omega),
      toUInt8_eq (b := y) (by omega), toUInt8_eq (b := z) (by omega)]

end Form

/-- Every character is written in a form. The cases are those of the number of bytes, and in each
the ranges follow by arithmetic. -/
theorem exists_form (c : Char) : ∃ b more, encodeChar c = b :: more ∧ Form b more c.toNat := by
  have hvalid : c.toNat < 0xD800 ∨ 0xDFFF < c.toNat ∧ c.toNat < 0x110000 := c.valid
  unfold encodeChar
  dsimp only
  generalize c.toNat = n at hvalid ⊢
  split
  · have hb := toNat_toUInt8 (n := n) (by omega)
    refine ⟨_, _, rfl, ?_⟩
    have hform := Form.one (b := n.toUInt8) (by omega)
    rwa [hb] at hform
  split
  · have hb := toNat_toUInt8 (n := 0xC0 + n / 64) (by omega)
    have hx := toNat_toUInt8 (n := 0x80 + n % 64) (by omega)
    -- with the bytes as numbers the rest is arithmetic
    generalize (0xC0 + n / 64).toUInt8 = b at hb ⊢
    generalize (0x80 + n % 64).toUInt8 = x at hx ⊢
    have hn : payload (b.toNat - 0xC0) [x] = n := by
      change 64 * (b.toNat - 0xC0) + (x.toNat - 0x80) = n
      omega
    refine ⟨b, [x], rfl, ?_⟩
    rw [← hn]
    exact .two (by omega) (isContinuation_iff.mpr (by omega))
  split
  · have hb := toNat_toUInt8 (n := 0xE0 + n / 4096) (by omega)
    have hx := toNat_toUInt8 (n := 0x80 + n / 64 % 64) (by omega)
    have hy := toNat_toUInt8 (n := 0x80 + n % 64) (by omega)
    generalize (0xE0 + n / 4096).toUInt8 = b at hb ⊢
    generalize (0x80 + n / 64 % 64).toUInt8 = x at hx ⊢
    generalize (0x80 + n % 64).toUInt8 = y at hy ⊢
    have hn : payload (b.toNat - 0xE0) [x, y] = n := by
      change 64 * (64 * (b.toNat - 0xE0) + (x.toNat - 0x80)) + (y.toNat - 0x80) = n
      omega
    refine ⟨b, [x, y], rfl, ?_⟩
    rw [← hn]
    exact .three (by omega) (isContinuation_iff.mpr (by omega)) (isContinuation_iff.mpr (by omega))
      (by omega) (by omega)
  · have hb := toNat_toUInt8 (n := 0xF0 + n / 262144) (by omega)
    have hx := toNat_toUInt8 (n := 0x80 + n / 4096 % 64) (by omega)
    have hy := toNat_toUInt8 (n := 0x80 + n / 64 % 64) (by omega)
    have hz := toNat_toUInt8 (n := 0x80 + n % 64) (by omega)
    generalize (0xF0 + n / 262144).toUInt8 = b at hb ⊢
    generalize (0x80 + n / 4096 % 64).toUInt8 = x at hx ⊢
    generalize (0x80 + n / 64 % 64).toUInt8 = y at hy ⊢
    generalize (0x80 + n % 64).toUInt8 = z at hz ⊢
    have hn : payload (b.toNat - 0xF0) [x, y, z] = n := by
      change 64 * (64 * (64 * (b.toNat - 0xF0) + (x.toNat - 0x80)) + (y.toNat - 0x80)) +
        (z.toNat - 0x80) = n
      omega
    refine ⟨b, [x, y, z], rfl, ?_⟩
    rw [← hn]
    exact .four (by omega) (isContinuation_iff.mpr (by omega)) (isContinuation_iff.mpr (by omega))
      (isContinuation_iff.mpr (by omega)) (by omega) (by omega)

/-- **What is read** are the forms. -/
theorem wellFormed?_eq_some_iff {b : UInt8} {r : Text} {c : Char} {width : Nat} :
    wellFormed? b r = some (c, width) ↔
      ∃ more rest n, Form b more n ∧ r = more ++ rest ∧ c = Char.ofNat n ∧ width = more.length + 1 := by
  refine ⟨exists_form_of_wellFormed?, ?_⟩
  rintro ⟨more, rest, n, hform, rfl, rfl, rfl⟩
  exact hform.wellFormed?_eq rest

/-- The bytes that a character was read from are the bytes it is written with. -/
theorem encodeChar_of_wellFormed? {b : UInt8} {rest : Text} {c : Char} {width : Nat}
    (h : wellFormed? b rest = some (c, width)) :
    b :: rest = encodeChar c ++ rest.drop (width - 1) := by
  obtain ⟨more, rest, n, hform, rfl, rfl, rfl⟩ := wellFormed?_eq_some_iff.mp h
  rw [hform.encodeChar_eq, Nat.add_sub_cancel, List.drop_left, List.cons_append]

/-- A character is not wider than the text it is read from. -/
theorem width_le_of_wellFormed? {b : UInt8} {r : Text} {c : Char} {width : Nat}
    (h : wellFormed? b r = some (c, width)) : width - 1 ≤ r.length := by
  obtain ⟨more, rest, n, -, rfl, -, rfl⟩ := wellFormed?_eq_some_iff.mp h
  rw [Nat.add_sub_cancel, List.length_append]
  exact Nat.le_add_right _ _

/-- What follows a text does not change how its first character is read, unless it goes on with
bytes that can only stand inside a character. -/
theorem wellFormed?_append (b : UInt8) (r : Text) {t : Text}
    (ht : ∀ x ∈ t.head?, isContinuation x = false) :
    wellFormed? b (r ++ t) = wellFormed? b r := by
  apply Option.ext
  rintro ⟨c, width⟩
  rw [wellFormed?_eq_some_iff, wellFormed?_eq_some_iff]
  constructor
  · rintro ⟨more, rest, n, hform, hsplit, hread⟩
    rcases List.append_eq_append_iff.mp hsplit with ⟨more', rfl, rfl⟩ | ⟨rest', rfl, -⟩
    · -- the character ends where `t` starts
      cases more' with
      | nil => exact ⟨r, [], n, by simpa using hform, by simp, by simpa using hread⟩
      | cons x more' =>
        have hx : isContinuation x = true := hform.isContinuation_of_mem x (by simp)
        rw [ht x rfl] at hx
        cases hx
    · exact ⟨more, rest', n, hform, rfl, hread⟩
  · rintro ⟨more, rest, n, hform, rfl, hread⟩
    exact ⟨more, rest ++ t, n, hform, List.append_assoc more rest t, hread⟩

/-- The bytes of a character: one below 128, or a lead byte and bytes that continue it. -/
theorem encodeChar_cases (c : Char) :
    (∃ b, encodeChar c = [b] ∧ b < 0x80 ∧ b.toNat = c.toNat) ∨
      ∃ b rest, encodeChar c = b :: rest ∧ 0xC0 ≤ b ∧ rest ≠ [] ∧
        (∀ x ∈ rest, isContinuation x = true) ∧ 0x80 ≤ c.toNat := by
  obtain ⟨b, more, hc, hform⟩ := exists_form c
  rw [hc]
  by_cases hmore : more = []
  · subst hmore
    generalize c.toNat = n at hform ⊢
    cases hform with
    | one hb => exact .inl ⟨b, rfl, UInt8.lt_iff_toNat_lt.mpr hb, rfl⟩
  · obtain ⟨hlead, hn⟩ := hform.of_ne_nil hmore
    exact .inr ⟨b, more, rfl, UInt8.le_iff_toNat_le.mpr hlead, hmore, hform.isContinuation_of_mem, hn⟩

/-- A byte below 128 is only among the bytes of its own character. So a line break or a slash can be
looked for in the bytes of a text. -/
theorem mem_encodeChar_of_ascii {b : UInt8} (h : b < 0x80) {c : Char} :
    b ∈ encodeChar c ↔ c.toNat = b.toNat := by
  have hb : b.toNat < 128 := UInt8.lt_iff_toNat_lt.mp h
  rcases encodeChar_cases c with ⟨x, hx, -, hcode⟩ | ⟨x, rest, hx, hlead, -, hrest, hcode⟩
  · rw [hx, List.mem_singleton, ← hcode, ← UInt8.toNat_inj]
    exact eq_comm
  · have hlead : 192 ≤ x.toNat := UInt8.le_iff_toNat_le.mp hlead
    have hnot : b ∉ x :: rest := by
      rw [List.mem_cons, not_or]
      refine ⟨fun hbx => ?_, fun hmem => ?_⟩
      · rw [hbx] at hb
        omega
      · have hcontinues := isContinuation_iff.mp (hrest b hmem)
        omega
    rw [hx, iff_false_intro hnot, false_iff]
    omega

/-! ## Written again -/

/-- Characters are encoded one after the other. -/
theorem encode_append (cs ds : List Char) : encode (cs ++ ds) = encode cs ++ encode ds :=
  List.flatMap_append

/-- The characters of a well-formed text have the bytes of the text. -/
theorem encode_charsFrom {skip : Nat} {s : Text} (h : validFrom skip s = true) :
    encode ((charsFrom skip s).map (·.1)) = s.drop skip := by
  fun_induction validFrom skip s with
  | case1 skip => simp [charsFrom, encode]
  | case2 skip b r ih => simpa [charsFrom] using ih h
  | case3 b r c width hread ih =>
    have hfirst : firstChar b r = (c, width) := by simp [firstChar, hread]
    have hrest := ih h
    rw [encode] at hrest ⊢
    rw [charsFrom, hfirst, List.map_cons, List.flatMap_cons, hrest, List.drop_zero,
      encodeChar_of_wellFormed? hread]
  | case4 b r hread => cases h

/-- Valid text is encoded to itself after it was decoded. -/
theorem encode_decode {s : Text} (h : isValid s = true) : encode (decode s) = s :=
  encode_charsFrom h

/-! ## Texts one behind the other -/

/-- The first character takes no more bytes than there are. -/
theorem width_firstChar_le (b : UInt8) (r : Text) : (firstChar b r).2 - 1 ≤ r.length := by
  unfold firstChar
  cases h : wellFormed? b r with
  | none => exact Nat.zero_le _
  | some read =>
    obtain ⟨c, width⟩ := read
    exact width_le_of_wellFormed? h

/-- **Texts are decoded by themselves** when the second one does not start in the middle of a
character. By induction on the bytes of the first. -/
theorem charsFrom_append {skip : Nat} {s t : Text} (hskip : skip ≤ s.length)
    (ht : ∀ x ∈ t.head?, isContinuation x = false) :
    charsFrom skip (s ++ t) = charsFrom skip s ++ charsFrom 0 t := by
  fun_induction charsFrom skip s with
  | case1 skip =>
    obtain rfl : skip = 0 := Nat.le_zero.mp hskip
    rfl
  | case2 skip b r ih =>
    rw [List.cons_append, charsFrom]
    exact ih (Nat.le_of_succ_le_succ hskip)
  | case3 b r ih =>
    have hfirst : firstChar b (r ++ t) = firstChar b r := by
      rw [firstChar, firstChar, wellFormed?_append b r ht]
    rw [List.cons_append, charsFrom, hfirst, ih (width_firstChar_le b r), List.cons_append]

/-- **The characters of two texts** are those of the first and those of the second, when the second
one does not start inside a character. -/
theorem decode_append (s : Text) {t : Text} (ht : ∀ x ∈ t.head?, isContinuation x = false) :
    decode (s ++ t) = decode s ++ decode t := by
  unfold decode chars
  rw [charsFrom_append (Nat.zero_le _) ht, List.map_append]

/-! ## Written characters are read -/

/-- Bytes that are passed over are not decoded. -/
theorem charsFrom_length (s t : Text) : charsFrom s.length (s ++ t) = charsFrom 0 t := by
  induction s with
  | nil => rfl
  | cons b s ih => rwa [List.length_cons, List.cons_append, charsFrom]

/-- A character that was encoded is decoded again, whatever follows. -/
theorem decode_encodeChar_append (c : Char) (r : Text) :
    decode (encodeChar c ++ r) = c :: decode r := by
  obtain ⟨b, more, hc, hform⟩ := exists_form c
  have hfirst : firstChar b (more ++ r) = (c, more.length + 1) := by
    rw [firstChar, hform.wellFormed?_eq, Char.ofNat_toNat, Option.getD_some]
  unfold decode chars
  rw [hc, List.cons_append, charsFrom, hfirst, List.map_cons, Nat.add_sub_cancel, charsFrom_length]

/-- A character that was encoded is decoded again. -/
theorem decode_encodeChar (c : Char) : decode (encodeChar c) = [c] := by
  have hread := decode_encodeChar_append c []
  rwa [List.append_nil] at hread

/-- A character at the end is decoded by itself, whatever bytes are in front: it does not complete a
broken one. -/
theorem decode_append_encodeChar (s : Text) (c : Char) :
    decode (s ++ encodeChar c) = decode s ++ [c] := by
  obtain ⟨b, more, hc, hform⟩ := exists_form c
  have hstart : ∀ x ∈ (encodeChar c).head?, isContinuation x = false := by
    rw [hc]
    rintro x ⟨⟩
    exact hform.not_isContinuation
  rw [decode_append s hstart, decode_encodeChar]

/-- What is written is read. -/
theorem decode_encode (cs : List Char) : decode (encode cs) = cs := by
  induction cs with
  | nil => rfl
  | cons c cs ih =>
    rw [encode, List.flatMap_cons, decode_encodeChar_append, ← encode, ih]

/-! ## Characters at the ends of a text -/

/-- A text that starts with a character, other than the one that stands for ill-formed bytes, starts
with its bytes. -/
theorem encodeChar_isPrefix {s : Text} {c : Char} {cs : List Char} (h : decode s = c :: cs)
    (hc : c ≠ replacement) : encodeChar c <+: s := by
  cases s with
  | nil => cases h
  | cons b r =>
    unfold decode chars at h
    rw [charsFrom, List.map_cons, List.cons.injEq] at h
    cases hread : wellFormed? b r with
    | none =>
      rw [firstChar, hread] at h
      exact absurd h.1.symm hc
    | some read =>
      obtain ⟨d, width⟩ := read
      rw [firstChar, hread] at h
      obtain rfl : d = c := h.1
      rw [encodeChar_of_wellFormed? hread]
      exact List.prefix_append _ _

/-- Where no characters are decoded all bytes are passed over. -/
theorem length_le_of_charsFrom_eq_nil {skip : Nat} {s : Text} (h : charsFrom skip s = []) :
    s.length ≤ skip := by
  fun_induction charsFrom skip s with
  | case1 skip => exact Nat.zero_le _
  | case2 skip b r ih => exact Nat.succ_le_succ (ih h)
  | case3 b r ih => cases h

/-- The last character, unless it stands for a broken one, is spelled at the end of the text. The
induction is that of decoding. It is needed where text is trimmed at its end. -/
theorem encodeChar_isSuffix_of_charsFrom {skip : Nat} {s : Text} {c : Char} {cs : List Char}
    (h : (charsFrom skip s).map (·.1) = cs ++ [c]) (hc : c ≠ replacement) : encodeChar c <:+ s := by
  fun_induction charsFrom skip s generalizing cs with
  | case1 skip => simp at h
  | case2 skip b r ih => exact (ih h).trans (List.suffix_cons b r)
  | case3 b r ih =>
    cases cs with
    | cons d cs =>
      rw [List.map_cons, List.cons_append, List.cons.injEq] at h
      exact (ih h.2).trans (List.suffix_cons b r)
    | nil =>
      -- the first character is the last one, so that no byte is left behind it
      rw [List.map_cons, List.nil_append, List.cons.injEq, List.map_eq_nil_iff] at h
      obtain ⟨hfirst, hnone⟩ := h
      have hlength := length_le_of_charsFrom_eq_nil hnone
      cases hread : wellFormed? b r with
      | none =>
        rw [firstChar, hread] at hfirst
        exact absurd hfirst.symm hc
      | some read =>
        obtain ⟨d, width⟩ := read
        rw [firstChar, hread, Option.getD_some] at hfirst hlength
        obtain rfl : d = c := hfirst
        have hall : b :: r = encodeChar d := by
          rw [encodeChar_of_wellFormed? hread, List.drop_eq_nil_of_le hlength, List.append_nil]
        exact ⟨[], hall.symm⟩

/-- The same for a text that ends with a character. -/
theorem encodeChar_isSuffix {s : Text} {c : Char} {cs : List Char} (h : decode s = cs ++ [c])
    (hc : c ≠ replacement) : encodeChar c <:+ s :=
  encodeChar_isSuffix_of_charsFrom h hc

end NovelScript.Text
