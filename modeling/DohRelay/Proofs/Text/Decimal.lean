import DohRelay.Text.Number

/-!
# Numbers that are read as they were written

A whole number within a range is read from its decimal digits, and a number with a sign from these
with a minus before them if it is negative.

## Main definitions

* `signedDecimal` — the text of a number with a sign.

## Main results

* `parseNat_decimal`, `parseInt32_signedDecimal` — **a number is read as it was written.**
-/

namespace DohRelay.Text

/-- The decimal digits of a number with a sign, with a minus before them if it is negative. -/
def signedDecimal (n : Int32) : List Char :=
  if n.toInt < 0 then '-' :: decimal n.toInt.natAbs else decimal n.toInt.natAbs

theorem toNat_of_isDigit {c : Char} (h : c.isDigit = true) : 48 ≤ c.toNat ∧ c.toNat ≤ 57 := by
  simpa [Char.isDigit, UInt32.le_iff_toNat_le] using h

/-- A number only grows by the digits behind it. -/
theorem le_ofDigitChars (cs : List Char) (value : Nat) :
    value ≤ Nat.ofDigitChars 10 cs value := by
  induction cs generalizing value with
  | nil => exact Nat.le_refl _
  | cons c cs ih =>
    rw [Nat.ofDigitChars_cons]
    exact Nat.le_trans (by omega) (ih _)

/-- The digits of a number begin with one, which is no sign. -/
theorem exists_decimal (n : Nat) : ∃ c cs, decimal n = c :: cs ∧ (∀ d ∈ c :: cs, d.isDigit = true) ∧
    c ≠ '+' ∧ c ≠ '-' := by
  obtain ⟨c, cs, hdigits⟩ := List.exists_cons_of_ne_nil (Nat.toDigits_ne_nil (n := n) (b := 10))
  have hall : ∀ d ∈ c :: cs, d.isDigit = true := fun d hd =>
    Nat.isDigit_of_mem_toDigits (n := n) (by decide : 0 < 10) (by decide) (hdigits ▸ hd)
  have hc := hall c List.mem_cons_self
  refine ⟨c, cs, hdigits, hall, ?_, ?_⟩
  · rintro rfl
    exact absurd hc (by decide)
  · rintro rfl
    exact absurd hc (by decide)

section

variable {max : Nat} {outgrown : NumberFault}

/-- Digits are taken as long as the number is not too large. -/
theorem digitsFrom_of_isDigit {cs : List Char} (hcs : ∀ c ∈ cs, c.isDigit = true) {value : Nat}
    (h : Nat.ofDigitChars 10 cs value ≤ max) :
    digitsFrom max outgrown value cs = .ok (Nat.ofDigitChars 10 cs value) := by
  induction cs generalizing value with
  | nil => rfl
  | cons c cs ih =>
    obtain ⟨hc, hcs⟩ := List.forall_mem_cons.mp hcs
    rw [Nat.ofDigitChars_cons] at h ⊢
    have hle : 10 * value + (c.toNat - '0'.toNat) ≤ max := Nat.le_trans (le_ofDigitChars cs _) h
    simp only [digitsFrom, digitValue?, hc, if_true]
    rw [if_pos hle]
    exact ih hcs h

variable {n : Nat}

theorem digits_decimal (outgrown : NumberFault) (h : n ≤ max) :
    digits max outgrown (decimal n) = .ok n := by
  obtain ⟨c, cs, hdecimal, hall, -, -⟩ := exists_decimal n
  have hvalue : Nat.ofDigitChars 10 (c :: cs) 0 = n := by
    rw [← hdecimal]
    exact Nat.ofDigitChars_ten_toDigits
  rw [hdecimal]
  refine (digitsFrom_of_isDigit hall ?_).trans (congrArg Except.ok hvalue)
  rwa [hvalue]

/-- **A whole number is read as it was written.** -/
theorem parseNat_decimal (h : n ≤ max) : parseNat max (decimal n) = .ok n := by
  have hdigits := digits_decimal .tooLarge h
  obtain ⟨c, cs, hdecimal, -, hplus, -⟩ := exists_decimal n
  rw [hdecimal] at hdigits ⊢
  rwa [parseNat]
  · exact nofun
  · exact fun s hs => hplus (List.head_eq_of_cons_eq hs)

/-- A number that is read is within its range. -/
theorem le_of_parseNat {s : List Char} (h : parseNat max s = .ok n) : n ≤ max := by
  have hdigits {s : List Char} (h : digits max .tooLarge s = .ok n) : n ≤ max := by
    cases s with
    | nil => cases h
    | cons c s => exact le_of_digitsFrom (Nat.zero_le max) h
  unfold parseNat at h
  split at h
  case h_1 => cases h
  case h_2 => exact hdigits h
  case h_3 => exact hdigits h

end

/-- Numbers are told by their digits. -/
theorem decimal_injective : Function.Injective decimal := by
  intro m n h
  have hm := parseNat_decimal (Nat.le_max_left m n)
  rw [h, parseNat_decimal (Nat.le_max_right m n)] at hm
  exact (Except.ok.inj hm).symm

/-- **A number with a sign is read as it was written.** -/
theorem parseInt32_signedDecimal (n : Int32) : parseInt32 (signedDecimal n) = .ok n := by
  have hlo := n.le_toInt
  have hhi := n.toInt_lt
  unfold signedDecimal
  split
  case isTrue hneg =>
    have hvalue : -(n.toInt.natAbs : Int) = n.toInt := by omega
    rw [parseInt32, digits_decimal .tooSmall (by omega)]
    exact congrArg Except.ok ((congrArg Int32.ofInt hvalue).trans n.ofInt_toInt)
  case isFalse hneg =>
    have hvalue : (n.toInt.natAbs : Int) = n.toInt := by omega
    have hle : n.toInt.natAbs ≤ 0x7fffffff := by omega
    have hdigits := digits_decimal .tooLarge hle
    obtain ⟨c, cs, hdecimal, -, hplus, hminus⟩ := exists_decimal n.toInt.natAbs
    rw [hdecimal] at hdigits ⊢
    rw [parseInt32, hdigits]
    · exact congrArg Except.ok ((congrArg Int32.ofInt hvalue).trans n.ofInt_toInt)
    · exact nofun
    · exact fun s hs => hplus (List.head_eq_of_cons_eq hs)
    · exact fun s hs => hminus (List.head_eq_of_cons_eq hs)

end DohRelay.Text
