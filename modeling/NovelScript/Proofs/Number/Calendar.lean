import NovelScript.Number.Calendar
import NovelScript.Proofs.Text.Decimal
import NovelScript.Proofs.Text.Order
import NovelScript.Proofs.Text.Split
import Mathlib.Tactic.Ring

/-!
# Stamps sort in the order of time

A stamp is the date and the time of day in digits, each part with as many digits as it can need.

* **`yearOf_spec`**: the year that a day is counted into begins on or before that day, and ends
  after it. `daysBefore` counts the days before a year without a loop.
* **`Written`**: digits of one width are ordered as their numbers, and pieces of known width make
  one number.
* **`stamp_lt`**: as long as years have four digits, the stamp of a later second sorts behind that
  of an earlier one; **`stamp_inj`**: stamps of different seconds differ in any year.
* **`mem_stamp`**: a stamp is made of digits and a hyphen.
-/

namespace NovelScript

/-! ## Digits -/

namespace Text

/-- The number that digits make, the first one counting most. -/
def valueOf (s : Text) : Nat :=
  s.foldl (fun n b => 10 * n + (b.toNat - 0x30)) 0

/-- Reading digits from left to right adds what they stand for to what was read before. -/
theorem foldl_digits (s : Text) (start : Nat) :
    s.foldl (fun n b => 10 * n + (b.toNat - 0x30)) start = start * 10 ^ s.length + valueOf s := by
  rw [valueOf]
  induction s generalizing start with
  | nil => simp
  | cons b s ih =>
    rw [List.foldl_cons, List.foldl_cons, ih, ih (10 * 0 + _), List.length_cons, Nat.pow_succ]
    ring

/-- The first digit counts by the number of those behind it. -/
theorem valueOf_cons (b : UInt8) (s : Text) :
    valueOf (b :: s) = (b.toNat - 0x30) * 10 ^ s.length + valueOf s := by
  rw [valueOf, List.foldl_cons, foldl_digits, Nat.mul_zero, Nat.zero_add]

/-- Digits that are put together count by their places. -/
theorem valueOf_append (s t : Text) : valueOf (s ++ t) = valueOf s * 10 ^ t.length + valueOf t := by
  rw [valueOf, List.foldl_append, foldl_digits, ← valueOf]

/-- A digit is one of ten bytes. -/
theorem toNat_of_isDigit {b : UInt8} (h : isDigit b = true) : 48 ≤ b.toNat ∧ b.toNat ≤ 57 := by
  simpa [isDigit, UInt8.le_iff_toNat_le] using h

/-- Digits stand for a number below the power of ten of their number. -/
theorem valueOf_lt {s : Text} (h : ∀ b ∈ s, isDigit b = true) : valueOf s < 10 ^ s.length := by
  induction s with
  | nil => simp [valueOf]
  | cons b s ih =>
    have hs := ih fun c hc => h c (List.mem_cons_of_mem _ hc)
    have hb : b.toNat - 0x30 ≤ 9 := by
      have := toNat_of_isDigit (h b List.mem_cons_self)
      omega
    have := Nat.mul_le_mul_right (10 ^ s.length) hb
    rw [valueOf_cons, List.length_cons, Nat.pow_succ]
    omega

/-- The text is `n` in base ten, written with `width` digits. -/
structure Written (width n : Nat) (s : Text) : Prop where
  length : s.length = width
  digits : ∀ b ∈ s, isDigit b = true
  value : valueOf s = n

/-- Two numbers of fixed widths, written one after the other, are one number of fixed width. -/
theorem Written.append {width width' n n' : Nat} {s t : Text} (hs : Written width n s)
    (ht : Written width' n' t) : Written (width + width') (n * 10 ^ width' + n') (s ++ t) := by
  refine ⟨by rw [List.length_append, hs.length, ht.length], fun b hb => ?_, ?_⟩
  · exact (List.mem_append.1 hb).elim (hs.digits b) (ht.digits b)
  · rw [valueOf_append, hs.value, ht.value, ht.length]

/-- **Texts of digits of one length are ordered as their numbers.** It is what lets the names of
copies be sorted by time. -/
theorem le_iff_valueOf_le {s t : Text} (hlen : s.length = t.length)
    (hs : ∀ b ∈ s, isDigit b = true) (ht : ∀ b ∈ t, isDigit b = true) :
    le s t = true ↔ valueOf s ≤ valueOf t := by
  induction s generalizing t with
  | nil => cases t with
    | nil => simp [le]
    | cons c t => simp at hlen
  | cons b s ih => cases t with
    | nil => simp at hlen
    | cons c t =>
      have hlen : s.length = t.length := by simpa using hlen
      have ih := ih hlen (fun d hd => hs d (List.mem_cons_of_mem _ hd))
        fun d hd => ht d (List.mem_cons_of_mem _ hd)
      have hb := toNat_of_isDigit (hs b List.mem_cons_self)
      have hc := toNat_of_isDigit (ht c List.mem_cons_self)
      have hvs := valueOf_lt fun d hd => hs d (List.mem_cons_of_mem _ hd)
      have hvt := valueOf_lt fun d hd => ht d (List.mem_cons_of_mem _ hd)
      rw [← hlen] at hvt
      rw [le, valueOf_cons, valueOf_cons, ← hlen, Bool.or_eq_true, Bool.and_eq_true,
        decide_eq_true_eq, beq_iff_eq, UInt8.lt_iff_toNat_lt, ih]
      -- the first digits decide unless they are the same
      rcases Nat.lt_trichotomy b.toNat c.toNat with h | h | h
      · have := Nat.mul_le_mul_right (10 ^ s.length)
          (show b.toNat - 0x30 + 1 ≤ c.toNat - 0x30 by omega)
        rw [Nat.add_mul] at this
        exact ⟨fun _ => by omega, fun _ => .inl h⟩
      · obtain rfl := UInt8.toNat_inj.mp h
        simp
      · have := Nat.mul_le_mul_right (10 ^ s.length)
          (show c.toNat - 0x30 + 1 ≤ b.toNat - 0x30 by omega)
        rw [Nat.add_mul] at this
        refine ⟨fun hle => ?_, fun hle => by omega⟩
        rcases hle with hle | ⟨rfl, -⟩ <;> omega

/-- Digits of one width are ordered as their numbers. -/
theorem Written.le_iff {width n n' : Nat} {s t : Text} (hs : Written width n s)
    (ht : Written width n' t) : le s t = true ↔ n ≤ n' := by
  rw [le_iff_valueOf_le (hs.length.trans ht.length.symm) hs.digits ht.digits, hs.value, ht.value]

/-- A number is written with digits that stand for it. -/
theorem ofNat_digits (n : Nat) : (∀ b ∈ ofNat n, isDigit b = true) ∧ valueOf (ofNat n) = n := by
  have h := digits?_ofNat n
  rw [digits?] at h
  split at h
  · cases h
  · rename_i hall
    rw [Bool.or_eq_true, not_or, Bool.not_eq_true', Bool.not_eq_false, List.all_eq_true] at hall
    exact ⟨hall.2, Option.some.inj h⟩

end Text

/-- With zeros in front there are still only digits. -/
theorem Decimal.padded_digits (width n : Nat) : ∀ b ∈ Decimal.padded width n, Text.isDigit b = true := by
  intro b hb
  unfold padded at hb
  rcases List.mem_append.1 hb with hb | hb
  · rw [List.eq_of_mem_replicate hb]
    rfl
  · exact (Text.ofNat_digits n).1 b hb

/-- Zeros in front do not change the number. -/
theorem Decimal.valueOf_padded (width n : Nat) : Text.valueOf (Decimal.padded width n) = n := by
  have hzeros (k : Nat) : Text.valueOf (List.replicate k 0x30) = 0 := by
    induction k with
    | zero => rfl
    | succ k ih => simp [List.replicate_succ, Text.valueOf_cons, ih]
  simp [padded, Text.valueOf_append, hzeros, (Text.ofNat_digits n).2]

/-- A number that fits is padded to its width. -/
theorem Decimal.written_padded {width n : Nat} (hwidth : 0 < width) (h : n < 10 ^ width) :
    Text.Written width n (Decimal.padded width n) := by
  have hlen : (Text.ofNat n).length ≤ width := by
    rw [Text.length_ofNat]
    exact (Nat.length_toDigits_le_iff (by decide) hwidth).2 h
  refine ⟨?_, padded_digits width n, valueOf_padded width n⟩
  simp [padded, hlen]

namespace DateTime

/-! ## Days -/

/-- The days from the start of year one to the start of a year. -/
def daysBefore (year : Nat) : Nat :=
  365 * (year - 1) + (year - 1) / 4 - (year - 1) / 100 + (year - 1) / 400

/-- The days before a year are those before the last one and those of the last one. The cases are
those of leap years: a century is none, unless it is a fourth one. -/
theorem daysBefore_succ {year : Nat} (h : 0 < year) :
    daysBefore (year + 1) = daysBefore year + yearDays year := by
  obtain ⟨k, rfl⟩ : ∃ k, year = k + 1 := ⟨year - 1, by omega⟩
  have hstep (n : Nat) : (k + 1) / n = k / n + if (k + 1) % n = 0 then 1 else 0 := by
    simp only [Nat.succ_div, Nat.dvd_iff_mod_eq_zero]
  have hless : k / 100 ≤ k := Nat.div_le_self k 100
  unfold daysBefore yearDays isLeap
  simp only [Nat.add_sub_cancel, hstep 4, hstep 100, hstep 400]
  -- what four hundred divides, a hundred divides, and what that divides, four divides
  by_cases h4 : (k + 1) % 4 = 0
  · by_cases h100 : (k + 1) % 100 = 0
    · by_cases h400 : (k + 1) % 400 = 0
      · simp [h4, h100, h400]
        omega
      · simp [h4, h100, h400]
        omega
    · have h400 : (k + 1) % 400 ≠ 0 := by omega
      simp [h4, h100, h400]
      omega
  · have h100 : (k + 1) % 100 ≠ 0 := by omega
    have h400 : (k + 1) % 400 ≠ 0 := by omega
    simp [h4, h100, h400]
    omega

/-- Later years have no fewer days in front of them. -/
theorem daysBefore_mono {y y' : Nat} (h : y ≤ y') : daysBefore y ≤ daysBefore y' := by
  apply monotone_nat_of_le_succ ?_ h
  intro y
  rcases Nat.eq_zero_or_pos y with rfl | hy
  · decide
  · rw [daysBefore_succ hy]
    exact Nat.le_add_right _ _

/-- The year of a day is the one in which the day lies: what is left of the days is less than the
year has. -/
theorem yearOf_spec {fuel year n : Nat} (hyear : 0 < year) (hfuel : n ≤ fuel) :
    daysBefore (yearOf fuel year n).1 + (yearOf fuel year n).2 = daysBefore year + n ∧
      (yearOf fuel year n).2 < yearDays (yearOf fuel year n).1 := by
  have hpos (y : Nat) : 365 ≤ yearDays y := by
    unfold yearDays
    split <;> omega
  induction fuel generalizing year n with
  | zero =>
    have := hpos year
    unfold yearOf
    dsimp only
    omega
  | succ fuel ih =>
    unfold yearOf
    split
    · rename_i h
      exact ⟨rfl, h⟩
    · rename_i h
      have := hpos year
      have ih := @ih (year + 1) (n - yearDays year) (by omega) (by omega)
      rw [daysBefore_succ hyear] at ih
      exact ⟨by omega, ih.2⟩

/-- The year of a day, counted from the start of 1970. -/
theorem yearOf_day (n : Nat) :
    daysBefore (yearOf n 1970 n).1 + (yearOf n 1970 n).2 = daysBefore 1970 + n ∧
      (yearOf n 1970 n).2 < yearDays (yearOf n 1970 n).1 :=
  yearOf_spec (by decide) (Nat.le_refl n)

/-- A later day of a year lies in a later month, or in the same month on a later day. The induction
is on the months that are left. -/
theorem monthOf_lt (month : Nat) (days : List Nat) {n n' : Nat} (h : n < n') :
    (monthOf month days n).1 < (monthOf month days n').1 ∨
      (monthOf month days n).1 = (monthOf month days n').1 ∧
        (monthOf month days n).2 < (monthOf month days n').2 := by
  have hfrom (month : Nat) (days : List Nat) (n : Nat) : month ≤ (monthOf month days n).1 := by
    induction days generalizing month n with
    | nil => exact Nat.le_refl month
    | cons d days ih =>
      unfold monthOf
      split
      · exact Nat.le_refl month
      · exact Nat.le_trans (Nat.le_succ month) (ih _ _)
  induction days generalizing month n n' with
  | nil => exact .inr ⟨rfl, Nat.succ_lt_succ h⟩
  | cons d days ih =>
    unfold monthOf
    by_cases hn' : n' < d
    · rw [if_pos hn', if_pos (Nat.lt_trans h hn')]
      exact .inr ⟨rfl, Nat.succ_lt_succ h⟩
    · rw [if_neg hn']
      by_cases hn : n < d
      · rw [if_pos hn]
        exact .inl (hfrom (month + 1) days (n' - d))
      · rw [if_neg hn]
        exact ih (month + 1) (by omega)

/-- A day of a year lies in one of its months, within the days that a month can have. -/
theorem monthOf_bounds (month : Nat) {days : List Nat} {n : Nat} (h : n < days.sum)
    (hdays : ∀ d ∈ days, d ≤ 31) :
    (monthOf month days n).1 < month + days.length ∧ (monthOf month days n).2 ≤ 31 := by
  induction days generalizing month n with
  | nil => simp at h
  | cons d days ih =>
    unfold monthOf
    rw [List.sum_cons] at h
    rw [List.length_cons]
    split
    · have := hdays d List.mem_cons_self
      exact ⟨by dsimp only; omega, by dsimp only; omega⟩
    · have := ih (month + 1) (n := n - d) (by omega) fun d hd => hdays d (List.mem_cons_of_mem _ hd)
      omega

/-- The months of a year have the days of the year. -/
theorem sum_monthDays (year : Nat) : (monthDays year).sum = yearDays year := by
  unfold monthDays yearDays
  split <;> rfl

/-- No month has more than 31 days. -/
theorem monthDays_le {year d : Nat} (h : d ∈ monthDays year) : d ≤ 31 := by
  unfold monthDays at h
  cases hleap : isLeap year <;> simp [hleap] at h <;> omega

/-! ## Dates and times of day -/

/-- The date and time of a number of seconds, part by part. -/
theorem ofSeconds_eq (n : Nat) :
    ofSeconds n =
      let year := yearOf (n / 86400) 1970 (n / 86400)
      let month := monthOf 1 (monthDays year.1) year.2
      ⟨year.1, month.1, month.2, n % 86400⟩ :=
  rfl

/-- The parts of a date and of a time of day have their widths. -/
structure Fits (t : DateTime) : Prop where
  year : t.year < 10 ^ 4
  month : t.month < 10 ^ 2
  day : t.day < 10 ^ 2
  second : t.second < 86400

/-- The date as one number. -/
def dateNumber (t : DateTime) : Nat :=
  t.year * 10 ^ 4 + (t.month * 10 ^ 2 + t.day)

/-- The time of day as one number. -/
def timeNumber (t : DateTime) : Nat :=
  t.second / 3600 * 10 ^ 4 + (t.second / 60 % 60 * 10 ^ 2 + t.second % 60)

/-- All parts but the year have their widths at any time. -/
theorem parts_ofSeconds (n : Nat) : (ofSeconds n).month < 10 ^ 2 ∧ (ofSeconds n).day < 10 ^ 2 ∧
    (ofSeconds n).second < 86400 := by
  rw [ofSeconds_eq]
  obtain ⟨-, hrest⟩ := yearOf_day (n / 86400)
  have hdays : ∀ d ∈ monthDays (yearOf (n / 86400) 1970 (n / 86400)).1, d ≤ 31 := fun d hd =>
    monthDays_le hd
  obtain ⟨hmonth, hday⟩ := monthOf_bounds 1 (by rwa [sum_monthDays]) hdays
  have hlen (year : Nat) : (monthDays year).length = 12 := rfl
  rw [hlen] at hmonth
  exact ⟨by dsimp only; omega, by dsimp only; omega, Nat.mod_lt n (by decide)⟩

/-- Before the year 10000 all parts of a date fit their widths. -/
theorem fits_ofSeconds {n : Nat} (h : n < 253402300800) : Fits (ofSeconds n) := by
  obtain ⟨hmonth, hday, hsecond⟩ := parts_ofSeconds n
  refine ⟨?_, hmonth, hday, hsecond⟩
  obtain ⟨hstart, -⟩ := yearOf_day (n / 86400)
  change (yearOf (n / 86400) 1970 (n / 86400)).1 < 10 ^ 4
  -- the year 10000 begins too late
  by_contra hlarge
  have hmono := daysBefore_mono (Nat.le_of_not_lt hlarge)
  have h1970 : daysBefore 1970 = 719162 := by decide
  have h10000 : daysBefore (10 ^ 4) = 3652059 := by decide
  omega

/-- A date is written as year, month and day, each of fixed width. -/
theorem dateText_eq (t : DateTime) : t.dateText "" =
    Decimal.padded 4 t.year ++ (Decimal.padded 2 t.month ++ Decimal.padded 2 t.day) := by
  simp [dateText, Text.join, Text.lit, Text.encode, List.intercalate]

/-- A time of day is written as hour, minute and second, each of fixed width. -/
theorem timeText_eq (t : DateTime) : t.timeText "" = Decimal.padded 2 (t.second / 3600) ++
    (Decimal.padded 2 (t.second / 60 % 60) ++ Decimal.padded 2 (t.second % 60)) := by
  simp [timeText, Text.join, Text.lit, Text.encode, List.intercalate]

/-- A date that fits is written in eight digits. -/
theorem written_dateText {t : DateTime} (h : Fits t) :
    Text.Written 8 (dateNumber t) (t.dateText "") := by
  have hyear := Decimal.written_padded (by decide) h.year
  have hmonth := Decimal.written_padded (by decide) h.month
  have hday := Decimal.written_padded (by decide) h.day
  rw [dateText_eq]
  exact hyear.append (hmonth.append hday)

/-- A time of day is written in six digits. -/
theorem written_timeText {t : DateTime} (hsecond : t.second < 86400) :
    Text.Written 6 (timeNumber t) (t.timeText "") := by
  have htwo {n : Nat} (hn : n < 100) : Text.Written 2 n (Decimal.padded 2 n) :=
    Decimal.written_padded (by decide) hn
  have hhour := htwo (show t.second / 3600 < 100 by omega)
  have hminute := htwo (show t.second / 60 % 60 < 100 by omega)
  have hrest := htwo (show t.second % 60 < 100 by omega)
  rw [timeText_eq]
  exact hhour.append (hminute.append hrest)

/-- A later day has a greater date. Either its year is later, or it is the same year and
`monthOf_lt` decides. -/
theorem dateNumber_lt {n m : Nat} (h : n / 86400 < m / 86400) :
    dateNumber (ofSeconds n) < dateNumber (ofSeconds m) := by
  have hparts := parts_ofSeconds n
  have hparts' := parts_ofSeconds m
  rw [ofSeconds_eq] at hparts hparts'
  obtain ⟨hday, hrest⟩ := yearOf_day (n / 86400)
  obtain ⟨hday', hrest'⟩ := yearOf_day (m / 86400)
  unfold dateNumber
  rw [ofSeconds_eq, ofSeconds_eq]
  obtain ⟨hmonth, hdate, -⟩ := hparts
  generalize yearOf (n / 86400) 1970 (n / 86400) = x at *
  generalize yearOf (m / 86400) 1970 (m / 86400) = y at *
  obtain ⟨year, r⟩ := x
  obtain ⟨year', r'⟩ := y
  dsimp only at *
  rcases Nat.lt_trichotomy year year' with hlt | rfl | hgt
  · omega
  · rcases monthOf_lt 1 (monthDays year) (show r < r' by omega) with hlt | ⟨heq, hlt⟩
    · omega
    · omega
  · -- the later day would lie before the start of its year
    have hend := daysBefore_mono (Nat.succ_le_of_lt hgt)
    have hpos : 0 < year' := by
      rcases Nat.eq_zero_or_pos year' with rfl | hpos
      · have hzero : daysBefore 0 = 0 := by decide
        have hdays : yearDays 0 = 366 := by decide
        have h1970 : daysBefore 1970 = 719162 := by decide
        omega
      · exact hpos
    rw [Nat.succ_eq_add_one, daysBefore_succ hpos] at hend
    omega

/-- A later second of a day gives a greater number. -/
theorem timeNumber_lt {t u : DateTime} (h : t.second < u.second) : timeNumber t < timeNumber u := by
  have hhours (n : Nat) : n / 3600 = n / 60 / 60 := (Nat.div_div_eq_div_mul n 60 60).symm
  unfold timeNumber
  rw [hhours, hhours]
  omega

/-- **The stamp of a later second sorts behind**, as long as years have four digits. Within a day
the times of day decide, and otherwise the dates; both are digits of fixed width, so texts are
compared as numbers. -/
theorem stamp_lt {n m : Nat} (h : n < m) (hm : m < 253402300800) :
    Text.le (ofSeconds m).stamp (ofSeconds n).stamp = false := by
  have hfits : Fits (ofSeconds n) := fits_ofSeconds (by omega)
  have hfits' := fits_ofSeconds hm
  have hdate := written_dateText hfits
  have hdate' := written_dateText hfits'
  have htime := written_timeText hfits.second
  have htime' := written_timeText hfits'.second
  have hbehind {width a b : Nat} {s t : Text} (hs : Text.Written width a s)
      (ht : Text.Written width b t) (hlt : a < b) : Text.le t s = false := by
    rw [Bool.eq_false_iff, Ne, ht.le_iff hs]
    omega
  unfold stamp
  rw [List.append_assoc, List.append_assoc]
  by_cases hday : n / 86400 < m / 86400
  · have hle := hbehind hdate hdate' (dateNumber_lt hday)
    rw [Text.le_append_of_ne (hdate'.length.trans hdate.length.symm) ?_, hle]
    intro heq
    rw [heq, Text.le_refl] at hle
    cases hle
  · have hsame : n / 86400 = m / 86400 := by omega
    have htext : (ofSeconds n).dateText "" = (ofSeconds m).dateText "" := by
      simp only [dateText, ofSeconds_eq, hsame]
    rw [htext, Text.le_append_left, Text.le_append_left]
    apply hbehind htime htime'
    apply timeNumber_lt
    simp only [ofSeconds_eq]
    omega

/-- A date is written in digits alone, also when it does not fit. -/
theorem digits_dateText (t : DateTime) : ∀ b ∈ t.dateText "", Text.isDigit b = true := by
  intro b hb
  simp only [dateText_eq, List.mem_append] at hb
  rcases hb with hb | hb | hb <;> exact Decimal.padded_digits _ _ b hb

/-- There is no dash in a date, so that the dash of a stamp can be found again. -/
theorem not_mem_dateText (t : DateTime) : (0x2D : UInt8) ∉ t.dateText "" :=
  fun h => absurd (digits_dateText t _ h) (by decide)

/-- A time of day is written in digits alone. -/
theorem digits_timeText (t : DateTime) : ∀ b ∈ t.timeText "", Text.isDigit b = true := by
  intro b hb
  simp only [timeText_eq, List.mem_append] at hb
  rcases hb with hb | hb | hb <;> exact Decimal.padded_digits _ _ b hb

/-- A stamp is a date, a dash and a time of day. -/
theorem stamp_eq (t : DateTime) : t.stamp = t.dateText "" ++ 0x2D :: t.timeText "" := by
  have hhyphen : Text.lit "-" = [0x2D] := by decide
  rw [stamp, hhyphen, List.append_assoc, List.singleton_append]

/-- Besides digits there is only a hyphen in a stamp. -/
theorem mem_stamp (t : DateTime) : ∀ b ∈ t.stamp, Text.isDigit b = true ∨ b = 0x2D := by
  intro b hb
  rw [stamp_eq, List.mem_append, List.mem_cons] at hb
  rcases hb with hb | rfl | hb
  · exact .inl (digits_dateText t b hb)
  · exact .inr rfl
  · exact .inl (digits_timeText t b hb)

/-- What one stamp has behind another one begins with a digit, since both have their one hyphen
before. -/
theorem isDigit_of_stamp_append {t u : DateTime} {b : UInt8} {rest : Text}
    (h : u.stamp = t.stamp ++ b :: rest) : Text.isDigit b = true := by
  rw [stamp_eq, stamp_eq, List.append_assoc, List.cons_append] at h
  obtain ⟨-, htime⟩ := Text.append_cons_inj (not_mem_dateText u) (not_mem_dateText t) h
  apply digits_timeText u
  rw [htime]
  simp

/-- With a point and an ending behind them stamps are ordered as they are without: a point is below
all digits, so that a stamp that goes on behind another one stays behind it. -/
theorem le_stamp_append (t u : DateTime) (ending : Text) :
    Text.le (t.stamp ++ 0x2E :: ending) (u.stamp ++ 0x2E :: ending) = Text.le t.stamp u.stamp := by
  have hkeeps {t u : DateTime} (h : Text.le t.stamp u.stamp = true) :
      Text.le (t.stamp ++ 0x2E :: ending) (u.stamp ++ 0x2E :: ending) = true := by
    apply Text.le_append_of_le h
    intro c rest hc
    have hdigit := (Text.toNat_of_isDigit (isDigit_of_stamp_append hc)).1
    have hpoint : (0x2E : UInt8).toNat = 46 := rfl
    rw [UInt8.lt_iff_toNat_lt]
    omega
  cases hle : Text.le t.stamp u.stamp with
  | true => exact hkeeps hle
  | false =>
    -- otherwise the two would come before each other, and be the same
    have hback : Text.le u.stamp t.stamp = true := by
      have htotal := Text.le_total t.stamp u.stamp
      rwa [hle, Bool.false_or] at htotal
    rw [Bool.eq_false_iff]
    intro hforth
    have hsame := Text.le_antisymm hforth (hkeeps hback)
    rw [List.append_cancel_right hsame, Text.le_refl] at hle
    cases hle

/-- The stamps of two seconds are different, in years of any length. The dash between date and time
makes it so where the widths do not. -/
theorem stamp_inj {n m : Nat} (h : (ofSeconds n).stamp = (ofSeconds m).stamp) : n = m := by
  -- the parts behind the year have their widths, and the year is all that is left
  have hvalue (n : Nat) : Text.valueOf ((ofSeconds n).dateText "") = dateNumber (ofSeconds n) := by
    obtain ⟨hmonth, hday, -⟩ := parts_ofSeconds n
    have hrest := (Decimal.written_padded (by decide) hmonth).append
      (Decimal.written_padded (by decide) hday)
    rw [dateText_eq, Text.valueOf_append, Decimal.valueOf_padded, hrest.length, hrest.value]
    rfl
  have hhyphen : Text.lit "-" = [0x2D] := by decide
  simp only [stamp, hhyphen, List.append_assoc, List.singleton_append] at h
  obtain ⟨hdate, htime⟩ := Text.append_cons_inj (not_mem_dateText _) (not_mem_dateText _) h
  have hdays : n / 86400 = m / 86400 := by
    have hnumber : dateNumber (ofSeconds n) = dateNumber (ofSeconds m) := by
      rw [← hvalue, ← hvalue, hdate]
    rcases Nat.lt_trichotomy (n / 86400) (m / 86400) with hlt | heq | hgt
    · exact absurd hnumber (dateNumber_lt hlt).ne
    · exact heq
    · exact absurd hnumber (dateNumber_lt hgt).ne'
  have hseconds : (ofSeconds n).second = (ofSeconds m).second := by
    have hnumber : timeNumber (ofSeconds n) = timeNumber (ofSeconds m) := by
      rw [← (written_timeText (parts_ofSeconds n).2.2).value, htime,
        (written_timeText (parts_ofSeconds m).2.2).value]
    rcases Nat.lt_trichotomy (ofSeconds n).second (ofSeconds m).second with hlt | heq | hgt
    · exact absurd hnumber (timeNumber_lt hlt).ne
    · exact heq
    · exact absurd hnumber (timeNumber_lt hgt).ne'
  simp only [ofSeconds_eq] at hseconds
  omega

/-- A stamp begins with a digit. -/
theorem exists_stamp_eq (t : DateTime) : ∃ b s, t.stamp = b :: s ∧ Text.isDigit b = true := by
  have hlen : 4 ≤ (Decimal.padded 4 t.year).length := by
    rw [Decimal.padded, List.length_append, List.length_replicate]
    omega
  have hne : Decimal.padded 4 t.year ≠ [] := by
    apply List.ne_nil_of_length_pos
    omega
  obtain ⟨b, s, hb⟩ := List.exists_cons_of_ne_nil hne
  have hdigit : Text.isDigit b = true :=
    Decimal.padded_digits 4 t.year b (hb ▸ List.mem_cons_self)
  rw [stamp, dateText_eq, hb]
  exact ⟨b, _, rfl, hdigit⟩

end DateTime

end NovelScript
