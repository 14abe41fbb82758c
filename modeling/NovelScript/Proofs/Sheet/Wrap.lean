import NovelScript.Proofs.Loop
import NovelScript.Proofs.Text.Utf8
import NovelScript.Sheet.Wrap

/-!
# Wrapped lines put together again

Wrapping cuts a line and writes blanks in front of the rows after the first. Without these blanks
the rows are the line again, character by character: **`unwrapped_wrap`**. A line that fits keeps its
bytes; a line that is cut goes through its characters, so bytes that belong to no character come
back as the replacement character, and a well-formed line comes back as it was
(`unwrapped_wrap_of_isValid`).

**`wrap_keeps_line`** says what the rows are, in characters: none is wider than the column, only the
last may be narrower, and a further row is its padding and at least one character of the line. The
padding is narrower than the column, so each turn of the loop that cuts a line takes characters from
it, and the loop ends.
-/

namespace NovelScript.Sheet

open Text (blank encode decode)

/-- The pieces of a line make up the line. -/
theorem flatten_pieces (width : Nat) (cs : List Char) : (pieces width cs).flatten = cs := by
  fun_induction pieces width cs with
  | case1 => rfl
  | case2 c r ih => rw [List.flatten_cons, ih, List.cons_append, List.take_append_drop]

/-- Text may be encoded piece by piece. -/
theorem encode_flatten (ps : List (List Char)) : encode ps.flatten = (ps.map encode).flatten := by
  induction ps with
  | nil => rfl
  | cons p ps ih => rw [List.flatten_cons, Text.encode_append, ih, List.map_cons, List.flatten_cons]

/-- A further row. -/
def furtherRow (blanks : Nat) (shown : List Char) : Text :=
  encode (List.replicate blanks ' ' ++ shown)

/-- A line that fits is one row. -/
theorem wrap_of_le {columns : Nat} {line : Text} (h : (decode line).length ≤ columns) :
    wrap columns line = [line] :=
  if_pos h

/-- A line that does not fit is cut: its first row takes what fits, and the others start behind the
blanks that the line starts with. -/
theorem wrap_of_lt {columns : Nat} {line : Text} (h : columns < (decode line).length) :
    wrap columns line = encode ((decode line).take columns) ::
      (pieces (columns - lead columns (decode line)) ((decode line).drop columns)).map
        (furtherRow (lead columns (decode line))) :=
  if_neg (Nat.not_le_of_lt h)

/-- A line has at least one row, also when it is empty. -/
theorem wrap_ne_nil (columns : Nat) (line : Text) : wrap columns line ≠ [] := by
  rcases Nat.lt_or_ge columns (decode line).length with hcut | hfits
  · rw [wrap_of_lt hcut]
    exact List.cons_ne_nil _ _
  · rw [wrap_of_le hfits]
    exact List.cons_ne_nil _ _

/-- Blanks are encoded as blanks. -/
theorem encode_blanks (n : Nat) : encode (List.replicate n ' ') = List.replicate n blank := by
  induction n with
  | zero => rfl
  | succ n ih =>
    rw [List.replicate_succ, List.replicate_succ, ← ih]
    rfl

/-- A further row is its padding and what it shows. -/
theorem furtherRow_eq (blanks : Nat) (shown : List Char) :
    furtherRow blanks shown = List.replicate blanks blank ++ encode shown := by
  rw [furtherRow, Text.encode_append, encode_blanks]

/-! ## Rows without their padding -/

/-- The rows of a line in one, with `blanks` bytes taken from the front of each row but the first. -/
def unwrapped (blanks : Nat) : List Text → Text
  | [] => []
  | first :: more => first ++ (more.map (·.drop blanks)).flatten

/-- What is taken from the rows after the first is blanks. -/
theorem isPrefix_of_mem_tail_wrap {columns : Nat} {line row : Text}
    (h : row ∈ (wrap columns line).tail) :
    List.replicate (lead columns (decode line)) blank <+: row := by
  rcases Nat.lt_or_ge columns (decode line).length with hcut | hfits
  · rw [wrap_of_lt hcut] at h
    obtain ⟨p, -, rfl⟩ := List.mem_map.mp h
    rw [furtherRow_eq]
    exact List.prefix_append _ _
  · rw [wrap_of_le hfits] at h
    cases h

/-- Without their padding the rows of a line are the line, a line that was cut by its characters.
Each character may have been replaced on the way when it was broken. -/
theorem unwrapped_wrap (columns : Nat) (line : Text) :
    unwrapped (lead columns (decode line)) (wrap columns line) =
      if (decode line).length ≤ columns then line else encode (decode line) := by
  by_cases hfits : (decode line).length ≤ columns
  · rw [if_pos hfits, wrap_of_le hfits, unwrapped, List.map_nil, List.flatten_nil, List.append_nil]
  · rw [if_neg hfits, wrap_of_lt (Nat.lt_of_not_le hfits)]
    generalize lead columns (decode line) = n
    have hdrop : (fun row : Text => row.drop n) ∘ furtherRow n = encode := by
      funext p
      rw [Function.comp_apply, furtherRow_eq, List.drop_left' List.length_replicate]
    calc unwrapped n (encode ((decode line).take columns) ::
          (pieces (columns - n) ((decode line).drop columns)).map (furtherRow n))
        = encode ((decode line).take columns) ++
            ((pieces (columns - n) ((decode line).drop columns)).map encode).flatten := by
          rw [unwrapped, List.map_map, hdrop]
      _ = encode ((decode line).take columns) ++ encode ((decode line).drop columns) := by
          rw [← encode_flatten, flatten_pieces]
      _ = encode (decode line) := by
          rw [← Text.encode_append, List.take_append_drop]

/-- **A line of valid text is put together again from its rows.** Other bytes are replaced when the
line is cut, so they are not. -/
theorem unwrapped_wrap_of_isValid (columns : Nat) {line : Text} (h : Text.isValid line = true) :
    unwrapped (lead columns (decode line)) (wrap columns line) = line := by
  rw [unwrapped_wrap, Text.encode_decode h, ite_self]

/-! ## The pieces of a line -/

/-- Pieces are taken from the front, each as long as it may be. -/
theorem pieces_eq_cons {width : Nat} (h : 1 ≤ width) {cs : List Char} (hcs : cs ≠ []) :
    pieces width cs = cs.take width :: pieces width (cs.drop width) := by
  cases cs with
  | nil => exact absurd rfl hcs
  | cons c r =>
    obtain ⟨w, rfl⟩ := Nat.exists_eq_add_of_le' h
    rw [pieces, Nat.add_sub_cancel, List.take_succ_cons, List.drop_succ_cons]

/-- A piece has at least one character and at most `width`. -/
theorem length_of_mem_pieces {width : Nat} (h : 1 ≤ width) {cs p : List Char}
    (hp : p ∈ pieces width cs) : p ≠ [] ∧ p.length ≤ width := by
  fun_induction pieces width cs with
  | case1 => cases hp
  | case2 c r ih =>
    rcases List.mem_cons.mp hp with rfl | hp
    · refine ⟨List.cons_ne_nil _ _, ?_⟩
      rw [List.length_cons, List.length_take]
      omega
    · exact ih hp

/-- Only the last piece may be shorter; all others have the full width. -/
theorem length_of_mem_dropLast_pieces {width : Nat} (h : 1 ≤ width) {cs p : List Char}
    (hp : p ∈ (pieces width cs).dropLast) : p.length = width := by
  fun_induction pieces width cs with
  | case1 => cases hp
  | case2 c r ih =>
    by_cases hlast : pieces width (r.drop (width - 1)) = []
    · rw [hlast] at hp
      cases hp
    · rw [List.dropLast_cons_of_ne_nil hlast] at hp
      rcases List.mem_cons.mp hp with rfl | hp
      · have hmore : r.drop (width - 1) ≠ [] := by
          intro hnil
          rw [hnil, pieces] at hlast
          exact hlast rfl
        have hlength := List.length_pos_iff.mpr hmore
        rw [List.length_drop] at hlength
        rw [List.length_cons, List.length_take]
        omega
      · exact ih hp

/-! ## The padding -/

/-- The characters of a line start with as many blanks as its bytes do. A blank is one byte, and no
other character starts with it. -/
theorem length_takeWhile_decode (line : Text) :
    ((decode line).takeWhile (· == ' ')).length = (line.takeWhile (· == blank)).length := by
  induction line with
  | nil => rfl
  | cons b r ih =>
    by_cases hb : b = blank
    · subst hb
      have hdecode : decode (blank :: r) = ' ' :: decode r := Text.decode_encodeChar_append ' ' r
      rw [hdecode, List.takeWhile_cons_of_pos (by decide), List.takeWhile_cons_of_pos (by decide),
        List.length_cons, List.length_cons, ih]
    · have hchars : (decode (b :: r)).takeWhile (· == ' ') = [] := by
        cases hdecode : decode (b :: r) with
        | nil => rfl
        | cons c cs =>
          refine List.takeWhile_cons_of_neg ?_
          intro hc
          obtain rfl : c = ' ' := by simpa using hc
          obtain ⟨t, ht⟩ := Text.encodeChar_isPrefix hdecode (by decide)
          exact hb (List.cons.inj ht).1.symm
      rw [hchars, List.takeWhile_cons_of_neg (by simpa using hb)]
      rfl

/-- How many blanks are in front of a further row, by the bytes of the line. -/
def leadBlanks (columns : Nat) (line : Text) : Nat :=
  min (line.takeWhile (· == blank)).length (columns / 2)

/-- The padding leaves room for a character. -/
theorem leadBlanks_lt {columns : Nat} (h : 1 ≤ columns) (line : Text) :
    leadBlanks columns line < columns := by
  unfold leadBlanks
  omega

/-- The blanks that a line starts with can be counted in its characters or in its bytes. -/
theorem lead_decode (columns : Nat) (line : Text) :
    lead columns (decode line) = leadBlanks columns line := by
  rw [lead, leadBlanks, length_takeWhile_decode]

/-! ## The loop that cuts a line -/

/-- One turn of the loop, before the characters that are left and behind the rows there are: the
next row takes the characters that have room beside the padding. -/
def cutTurn (columns blanks : Nat) :
    List Char × List Text → (List Char × List Text) ⊕ List Text
  | (left, rows) =>
    if left = [] then .inr rows
    else
      let room := min (columns - blanks) left.length
      .inl (left.drop room, rows ++ [furtherRow blanks (left.take room)])

/-- What the loop is to give. -/
def cutRows (columns blanks : Nat) : List Char × List Text → List Text
  | (left, rows) => rows ++ (pieces (columns - blanks) left).map (furtherRow blanks)

/-- A turn that leaves, leaves with what the loop is to give. -/
theorem eq_cutRows_of_cutTurn {columns blanks : Nat} {state : List Char × List Text}
    {rows : List Text} (hturn : cutTurn columns blanks state = .inr rows) :
    rows = cutRows columns blanks state := by
  obtain ⟨left, before⟩ := state
  by_cases hleft : left = []
  · subst hleft
    cases hturn
    rw [cutRows, pieces, List.map_nil, List.append_nil]
  · rw [cutTurn, if_neg hleft] at hturn
    cases hturn

/-- A turn that goes on takes a character at least, and keeps what the loop is to give. The first
part bounds the loop, and the second is its invariant. -/
theorem cutRows_of_cutTurn {columns blanks : Nat} (h : blanks < columns)
    {state next : List Char × List Text} (hturn : cutTurn columns blanks state = .inl next) :
    cutRows columns blanks next = cutRows columns blanks state ∧
      next.1.length < state.1.length := by
  obtain ⟨left, rows⟩ := state
  by_cases hleft : left = []
  · rw [cutTurn, if_pos hleft] at hturn
    cases hturn
  · rw [cutTurn, if_neg hleft] at hturn
    cases hturn
    have hlength := List.length_pos_iff.mpr hleft
    have htake : left.take (min (columns - blanks) left.length) = left.take (columns - blanks) := by
      rw [List.take_eq_take_iff]
      omega
    have hdrop : left.drop (min (columns - blanks) left.length) = left.drop (columns - blanks) := by
      rw [List.drop_eq_drop_iff]
      omega
    constructor
    · rw [cutRows, cutRows, htake, hdrop, pieces_eq_cons (by omega) hleft, List.map_cons,
        List.append_assoc, List.singleton_append]
    · show (left.drop (min (columns - blanks) left.length)).length < left.length
      rw [hdrop, List.length_drop]
      omega

/-- The loop ends, with all pieces as rows. -/
theorem exits_cutTurn {columns blanks : Nat} (h : blanks < columns) (left : List Char)
    (rows : List Text) :
    ∃ n ≤ left.length + 1, Exits (cutTurn columns blanks) n (left, rows)
      (cutRows columns blanks (left, rows)) :=
  exists_exits (cutRows columns blanks) (fun state => state.1.length)
    (fun _ _ => eq_cutRows_of_cutTurn) (fun _ _ => cutRows_of_cutTurn h) (left, rows)

/-! ## Rows in characters -/

/-- A further row has its blanks and what it shows. -/
theorem decode_furtherRow (blanks : Nat) (shown : List Char) :
    decode (furtherRow blanks shown) = List.replicate blanks ' ' ++ shown :=
  Text.decode_encode _

/-- A further row is as long as its blanks and what it shows together. -/
theorem length_decode_furtherRow (blanks : Nat) (shown : List Char) :
    (decode (furtherRow blanks shown)).length = blanks + shown.length := by
  rw [decode_furtherRow, List.length_append, List.length_replicate]

/-- What the rows of a line are. -/
structure RowsOf (columns : Nat) (line : Text) (rows : List Text) : Prop where
  /-- A line that fits is its row. -/
  fits : (decode line).length ≤ columns → rows = [line]
  /-- No row is wider than the column. -/
  narrow : ∀ row ∈ rows, (decode row).length ≤ columns
  /-- Rows of a line that is cut fill the column, but for the last. -/
  full : columns < (decode line).length → ∀ row ∈ rows.dropLast, (decode row).length = columns
  /-- A further row is its padding and at least one character. -/
  further : ∀ row ∈ rows.tail, ∃ shown, shown ≠ [] ∧
    row = List.replicate (leadBlanks columns line) blank ++ encode shown ∧
    decode row = List.replicate (leadBlanks columns line) ' ' ++ shown
  /-- The characters of all rows, but for the padding, are the characters of the line. -/
  whole : ∃ first more, rows = first :: more ∧
    decode first ++ more.flatMap (fun row => (decode row).drop (leadBlanks columns line)) =
      decode line

/-- The row of a line that fits. -/
theorem rowsOf_of_le {columns : Nat} {line : Text} (h : (decode line).length ≤ columns) :
    RowsOf columns line [line] where
  fits _ := rfl
  narrow row hrow := by
    obtain rfl := List.mem_singleton.mp hrow
    exact h
  full hcut := absurd hcut (by omega)
  further _ hrow := by cases hrow
  whole := ⟨line, [], rfl, List.append_nil _⟩

/-- The rows of a line that is cut: each fits the column, all but the first start with the same
blanks, and together they show the line. -/
theorem rowsOf_of_lt {columns : Nat} (h : 1 ≤ columns) {line : Text}
    (hcut : columns < (decode line).length) : RowsOf columns line (wrap columns line) := by
  have hroom := leadBlanks_lt h line
  have hfirst : (decode (encode ((decode line).take columns))).length = columns := by
    rw [Text.decode_encode, List.length_take]
    omega
  rw [wrap_of_lt hcut, lead_decode]
  constructor
  case fits =>
    intro hfits
    omega
  case narrow =>
    intro row hrow
    rcases List.mem_cons.mp hrow with rfl | hrow
    · exact Nat.le_of_eq hfirst
    · obtain ⟨p, hp, rfl⟩ := List.mem_map.mp hrow
      have hlength := (length_of_mem_pieces (by omega) hp).2
      rw [length_decode_furtherRow]
      omega
  case full =>
    intro _ row hrow
    -- the first row is not the last one, so it is among those that are full
    have hleft : (decode line).drop columns ≠ [] := by
      rw [Ne, List.drop_eq_nil_iff]
      omega
    rw [List.dropLast_cons_of_ne_nil (by simp [pieces_eq_cons (Nat.sub_pos_of_lt hroom) hleft]),
      ← List.map_dropLast] at hrow
    rcases List.mem_cons.mp hrow with rfl | hrow
    · exact hfirst
    · obtain ⟨p, hp, rfl⟩ := List.mem_map.mp hrow
      have hlength := length_of_mem_dropLast_pieces (by omega) hp
      rw [length_decode_furtherRow]
      omega
  case further =>
    intro row hrow
    obtain ⟨p, hp, rfl⟩ := List.mem_map.mp hrow
    exact ⟨p, (length_of_mem_pieces (by omega) hp).1, furtherRow_eq _ p, decode_furtherRow _ p⟩
  case whole =>
    refine ⟨_, _, rfl, ?_⟩
    -- taking the padding off gives the pieces, and the pieces give the line
    have hshown : ∀ p, (decode (furtherRow (leadBlanks columns line) p)).drop
        (leadBlanks columns line) = p := by
      intro p
      rw [decode_furtherRow, List.drop_left' List.length_replicate]
    rw [Text.decode_encode, List.flatMap_map]
    simp only [hshown]
    rw [List.flatMap_id', flatten_pieces, List.take_append_drop]

/-- **Wrapping loses nothing and keeps within the column.** Every line, cut for a column of at least
one character, gives rows as `RowsOf` says. The loop that cuts what does not fit on the first row
ends, within as many turns as the line has characters, and gives these rows. -/
theorem wrap_keeps_line {columns : Nat} (h : 1 ≤ columns) (line : Text) :
    RowsOf columns line (wrap columns line) ∧
      (columns < (decode line).length →
        ∃ n ≤ (decode line).length, Exits (cutTurn columns (leadBlanks columns line)) n
          ((decode line).drop columns, [encode ((decode line).take columns)])
          (wrap columns line)) := by
  constructor
  · rcases Nat.lt_or_ge columns (decode line).length with hcut | hfits
    · exact rowsOf_of_lt h hcut
    · rw [wrap_of_le hfits]
      exact rowsOf_of_le hfits
  · intro hcut
    obtain ⟨n, hn, hexits⟩ := exits_cutTurn (leadBlanks_lt h line) ((decode line).drop columns)
      [encode ((decode line).take columns)]
    rw [List.length_drop] at hn
    refine ⟨n, by omega, ?_⟩
    rw [wrap_of_lt hcut, lead_decode]
    exact hexits

/-- A line with an indentation of more than half a column, and letters of two bytes. -/
theorem wrap_keeps_line_of_indented :
    1 ≤ 5 ∧ RowsOf 5 (Text.lit "    ночь ") (wrap 5 (Text.lit "    ночь ")) ∧
      ∃ n ≤ 9, Exits (cutTurn 5 2) n
        ((decode (Text.lit "    ночь ")).drop 5, [encode ((decode (Text.lit "    ночь ")).take 5)])
        (wrap 5 (Text.lit "    ночь ")) :=
  have hrows := wrap_keeps_line (by decide : 1 ≤ 5) (Text.lit "    ночь ")
  ⟨by decide, hrows.1, hrows.2 (by decide)⟩

end NovelScript.Sheet
