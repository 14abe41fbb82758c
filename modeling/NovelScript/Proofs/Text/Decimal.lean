import NovelScript.Text.Decimal

/-!
# Decimal numbers read back

`Text.ofNat` writes a number in base ten, and `Text.digits?` reads decimal digits. What is written
is read back (`digits?_ofNat`).
-/

namespace NovelScript.Text

/-- A decimal digit is one byte, which has the value of the character. -/
theorem encodeChar_of_isDigit {c : Char} (h : c.isDigit = true) :
    encodeChar c = [c.toNat.toUInt8] ∧ isDigit c.toNat.toUInt8 = true ∧
      c.toNat.toUInt8.toNat = c.toNat := by
  obtain ⟨hlow, hhigh⟩ := Char.isDigit_iff_toNat.mp h
  have hlow : 48 ≤ c.toNat := hlow
  have hhigh : c.toNat ≤ 57 := hhigh
  have hbyte : c.toNat.toUInt8.toNat = c.toNat := by
    rw [UInt8.toNat_ofNat']
    omega
  refine ⟨?_, ?_, hbyte⟩
  · unfold encodeChar
    rw [if_pos (by omega)]
  · simp only [isDigit, Bool.and_eq_true, decide_eq_true_eq, UInt8.le_iff_toNat_le, hbyte]
    exact ⟨hlow, hhigh⟩

/-- Decimal digits are a byte each. -/
theorem encode_of_isDigit {cs : List Char} (hd : ∀ c ∈ cs, c.isDigit = true) :
    encode cs = cs.map fun c => c.toNat.toUInt8 := by
  induction cs with
  | nil => rfl
  | cons c cs ih =>
    have hc := (encodeChar_of_isDigit (hd c List.mem_cons_self)).1
    have hcs := ih fun d hd' => hd d (List.mem_cons_of_mem _ hd')
    rw [encode] at hcs
    rw [encode, List.flatMap_cons, hc, hcs]
    rfl

/-- The bytes of decimal digits are read as their number. The induction is on the digits, with the
number that was read before them. -/
theorem digits?_encode {cs : List Char} (hne : cs ≠ []) (hd : ∀ c ∈ cs, c.isDigit = true) :
    digits? (encode cs) = some (Nat.ofDigitChars 10 cs 0) := by
  have hbytes := encode_of_isDigit hd
  have hall : (encode cs).all isDigit = true := by
    rw [hbytes, List.all_map, List.all_eq_true]
    intro c hc
    exact (encodeChar_of_isDigit (hd c hc)).2.1
  have hempty : (encode cs).isEmpty = false := by
    rw [hbytes]
    simpa using hne
  have hvalue : ∀ init, (cs.map fun c => c.toNat.toUInt8).foldl
      (fun n b => 10 * n + (b.toNat - 0x30)) init = Nat.ofDigitChars 10 cs init := by
    clear hne hbytes hall hempty
    induction cs with
    | nil => intro init; rfl
    | cons c cs ih =>
      intro init
      rw [List.map_cons, List.foldl_cons, (encodeChar_of_isDigit (hd c List.mem_cons_self)).2.2,
        ih fun d hd' => hd d (List.mem_cons_of_mem _ hd'), Nat.ofDigitChars_cons]
      rfl
  rw [digits?, hempty, hall, hbytes, hvalue]
  rfl

/-- A number is written with the digits of the standard library. -/
theorem ofNat_eq_encode (n : Nat) : ofNat n = encode (Nat.toDigits 10 n) := by
  rw [ofNat, lit, Nat.toString_eq_ofList_toDigits, String.toList_ofList]

/-- All of them are digits. -/
theorem isDigit_of_mem_toDigits {n : Nat} {c : Char} (h : c ∈ Nat.toDigits 10 n) :
    c.isDigit = true :=
  Nat.isDigit_of_mem_toDigits (by decide) (by decide) h

/-- A number is written with digits alone. -/
theorem isDigit_of_mem_ofNat {n : Nat} {b : UInt8} (h : b ∈ ofNat n) : isDigit b = true := by
  rw [ofNat_eq_encode, encode_of_isDigit fun _ => isDigit_of_mem_toDigits] at h
  obtain ⟨c, hc, rfl⟩ := List.mem_map.mp h
  exact (encodeChar_of_isDigit (isDigit_of_mem_toDigits hc)).2.1

/-- **A number that was written is read back.** -/
theorem digits?_ofNat (n : Nat) : digits? (ofNat n) = some n := by
  rw [ofNat_eq_encode, digits?_encode Nat.toDigits_ne_nil fun _ => isDigit_of_mem_toDigits,
    Nat.ofDigitChars_ten_toDigits]

/-- A number has as many bytes as digits. -/
theorem length_ofNat (n : Nat) : (ofNat n).length = (Nat.toDigits 10 n).length := by
  rw [ofNat_eq_encode, encode_of_isDigit fun _ => isDigit_of_mem_toDigits, List.length_map]

end NovelScript.Text
