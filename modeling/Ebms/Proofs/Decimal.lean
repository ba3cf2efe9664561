import Ebms.Text.Ascii

/-!
# Decimal digits

Numbers are written with their decimal digits and read back from them. Zeros in front of the digits
of a number do not change it, so a number that is filled up to some width is read back as well. The
digits of a number that is not zero start with no zero.
-/

namespace Ebms.Text

/-- The number that digits stand for is the one the standard library reads in them. -/
theorem digitsValue_eq_ofDigitChars (cs : List Char) :
    digitsValue cs = Nat.ofDigitChars 10 cs 0 := by
  rw [Nat.ofDigitChars_eq_foldl]
  rfl

/-- The digits of a number stand for it. -/
@[simp] theorem digitsValue_toDigits (n : Nat) : digitsValue (Nat.toDigits 10 n) = n := by
  rw [digitsValue_eq_ofDigitChars, Nat.ofDigitChars_toDigits (by decide) (by decide)]

/-- Zeros in front do not change the number that digits stand for. -/
theorem digitsValue_leftpad (width : Nat) (cs : List Char) :
    digitsValue (cs.leftpad width '0') = digitsValue cs := by
  simp [digitsValue_eq_ofDigitChars, List.leftpad, Nat.ofDigitChars_append,
    Nat.ofDigitChars_replicate_zero]

/-- The standard library's digits are the decimal digits of ASCII. -/
theorem isDigit_eq (c : Char) : isDigit c = c.isDigit := rfl

/-- A number is written with digits only. -/
theorem isDigit_of_mem_toDigits {n : Nat} {c : Char} (h : c ∈ Nat.toDigits 10 n) :
    isDigit c = true := by
  rw [isDigit_eq]
  exact Nat.isDigit_of_mem_toDigits (by decide) (by decide) h

/-- The only digit that is written zero is the one of the number zero. -/
theorem digitChar_ne_zero {n : Nat} (hpos : 0 < n) (hlt : n < 10) : Nat.digitChar n ≠ '0' := by
  intro h
  have hvalue : digitsValue [Nat.digitChar n] = digitsValue ['0'] := by rw [h]
  rw [← Nat.toDigits_of_lt_base hlt, digitsValue_toDigits] at hvalue
  have hzero : digitsValue ['0'] = 0 := by decide
  omega

/-- The digits of a number that is not zero start with another digit than zero. -/
theorem toDigits_eq_cons {n : Nat} (hpos : 0 < n) :
    ∃ d ds, Nat.toDigits 10 n = d :: ds ∧ d ≠ '0' := by
  induction n using Nat.strongRecOn with
  | ind n ih =>
    by_cases hlt : n < 10
    · exact ⟨Nat.digitChar n, [], Nat.toDigits_of_lt_base hlt, digitChar_ne_zero hpos hlt⟩
    · obtain ⟨d, ds, hds, hd⟩ := ih (n / 10) (by omega) (by omega)
      refine ⟨d, ds ++ [Nat.digitChar (n % 10)], ?_, hd⟩
      rw [Nat.toDigits_of_base_le (by decide) (by omega), hds, List.cons_append]

end Ebms.Text
