import Ebms.Proofs.Decimal
import Ebms.Timestamp.Basic
import Mathlib.Algebra.Group.Nat.Defs
import Mathlib.Data.List.TakeWhile

/-!
# Timestamps come back as they were written

Every step of reading takes from the front what the matching part of a timestamp was written as, and
leaves the rest to the steps behind it. Numbers are filled up to the width that is read, a year that
needs more digits has a sign in front, and a mark or the end of the digits follows every number. So
the text of a timestamp is read as that timestamp, whatever instant it is.
-/

namespace Ebms

/-- No month has more than 31 days. -/
theorem Date.daysInMonth_le (year : Int) (month : Nat) : daysInMonth year month ≤ 31 := by
  unfold daysInMonth
  split
  · split <;> decide
  · split <;> decide

namespace Timestamp

open Text (isSpace isDigit digitsValue digitsValue_toDigits digitsValue_leftpad
  isDigit_of_mem_toDigits)

section Padded

variable (width n : Nat)

/-- A number is filled up with zeros in front. -/
theorem padded_eq_leftpad : padded width n = (Nat.toDigits 10 n).leftpad width '0' :=
  rfl

/-- Filled up, the digits of a number still stand for it. -/
@[simp] theorem digitsValue_padded : digitsValue (padded width n) = n := by
  rw [padded_eq_leftpad, digitsValue_leftpad, digitsValue_toDigits]

/-- A number that is filled up has digits only. -/
theorem isDigit_of_mem_padded {c : Char} (h : c ∈ padded width n) : isDigit c = true := by
  obtain h | h := List.mem_append.mp h
  · rw [List.eq_of_mem_replicate h]
    rfl
  · exact isDigit_of_mem_toDigits h

/-- A number with no more digits than some width is filled up to that width. -/
theorem length_padded {width n : Nat} (hwidth : 0 < width) (h : n < 10 ^ width) :
    (padded width n).length = width := by
  have hdigits := (Nat.length_toDigits_le_iff (by decide) hwidth).mpr h
  rw [padded_eq_leftpad, List.length_leftpad]
  omega

/-- A number has at least one digit. -/
theorem padded_ne_nil : padded width n ≠ [] := by
  have hdigits : 0 < (Nat.toDigits 10 n).length := Nat.length_toDigits_pos
  intro h
  have hlength := congrArg List.length h
  rw [padded_eq_leftpad, List.length_leftpad, List.length_nil] at hlength
  omega

/-- A number has at least one digit. -/
@[simp] theorem isEmpty_padded : (padded width n).isEmpty = false :=
  List.isEmpty_eq_false_iff.mpr (padded_ne_nil width n)

end Padded

/-- A step that takes something from the front lets the next step go on behind it. -/
theorem run_bind {α β : Type} {step : Scan α} {next : α → Scan β} {cs rest : List Char} {value : α}
    (h : step.run cs = some (value, rest)) : (step >>= next).run cs = (next value).run rest := by
  rw [StateT.run_bind, h]
  rfl

/-- A digit is no white space. -/
theorem isSpace_of_isDigit {c : Char} (h : isDigit c = true) : isSpace c = false := by
  have hcode : 48 ≤ c.toNat ∧ c.toNat ≤ 57 := by
    simp only [isDigit, Bool.and_eq_true, decide_eq_true_eq] at h
    exact h
  rw [Bool.eq_false_iff]
  simp only [isSpace]
  simp
  omega

section Steps

variable {c : Char} {cs ds rest : List Char}

/-- Where no blank stands, none is taken. -/
theorem run_blanks (h : isSpace c = false) : blanks.run (c :: rest) = some ((), c :: rest) := by
  have hdrop : (c :: rest).dropWhile isSpace = c :: rest := by
    rw [List.dropWhile_cons, if_neg (by simp [h])]
  exact congrArg (fun cs => some ((), cs)) hdrop

/-- At the end no blank is taken. -/
theorem run_blanks_nil : blanks.run [] = some ((), []) :=
  rfl

/-- A character that is accepted is taken. -/
theorem run_one {accepts : Char → Bool} (h : accepts c = true) :
    (one accepts).run (c :: rest) = some (c, rest) := by
  rw [one, run_bind rfl]
  simp only [h, if_true]
  rfl

/-- A mark is taken. -/
theorem run_mark (h : isSpace c = false) : (mark c).run (c :: rest) = some ((), rest) := by
  rw [mark, run_bind (run_blanks h), run_bind (run_one (by simp))]
  rfl

/-- Digits are taken up to the next other character. -/
theorem run_digits (hds : ∀ d ∈ ds, isDigit d = true) (hc : isDigit c = false) :
    digits.run (ds ++ c :: rest) = some (ds, c :: rest) := by
  have htake : (ds ++ c :: rest).takeWhile isDigit = ds := by
    rw [List.takeWhile_append_of_pos hds, List.takeWhile_cons, if_neg (by simp [hc]),
      List.append_nil]
  have hdrop : (ds ++ c :: rest).dropWhile isDigit = c :: rest := by
    rw [List.dropWhile_append_of_pos hds, List.dropWhile_cons, if_neg (by simp [hc])]
  calc digits.run (ds ++ c :: rest)
    _ = some ((ds ++ c :: rest).takeWhile isDigit, (ds ++ c :: rest).dropWhile isDigit) := rfl
    _ = _ := by rw [htake, hdrop]

/-- The digits of a number that is filled up are taken up to the next other character. -/
theorem run_padded (width n : Nat) (hc : isDigit c = false) :
    digits.run (padded width n ++ c :: rest) = some (padded width n, c :: rest) :=
  run_digits (fun _ => isDigit_of_mem_padded width n) hc

/-- A number that is filled up to the width that is read is taken. -/
theorem run_number {width n : Nat} (hwidth : 0 < width) (h : n < 10 ^ width) :
    (number width).run (padded width n ++ rest) = some (n, rest) := by
  have hlength := length_padded hwidth h
  have hblanks : blanks.run (padded width n ++ rest) = some ((), padded width n ++ rest) := by
    cases hdigits : padded width n with
    | nil => exact absurd hdigits (padded_ne_nil width n)
    | cons d ds =>
      refine run_blanks (isSpace_of_isDigit ?_)
      exact isDigit_of_mem_padded width n (hdigits ▸ List.mem_cons_self)
  have hfound : ((padded width n ++ rest).take width).takeWhile isDigit = padded width n := by
    rw [List.take_left' hlength, List.takeWhile_eq_self_iff]
    exact fun _ => isDigit_of_mem_padded width n
  rw [number, run_bind hblanks, run_bind rfl]
  simp only [hfound, isEmpty_padded, digitsValue_padded, List.drop_left]
  rfl

/-- The digits behind a sign are taken up to the mark behind them. -/
theorem run_signed (sign : Char) (convert : Nat → Int) (n : Nat) :
    (do
      let _ ← one (· == sign)
      let found ← digits
      if found.isEmpty then failure else pure (convert (digitsValue found)) : Scan Int).run
        (sign :: (padded 4 n ++ '-' :: rest)) = some (convert n, '-' :: rest) := by
  have hsign : (one (· == sign)).run (sign :: (padded 4 n ++ '-' :: rest)) =
      some (sign, padded 4 n ++ '-' :: rest) := run_one (beq_self_eq_true sign)
  rw [run_bind hsign, run_bind (run_padded 4 n (by decide)), isEmpty_padded, digitsValue_padded]
  rfl

/-- Four digits without a sign are taken as a year. -/
theorem run_unsigned {n : Nat} (h : n < 10 ^ 4) :
    year.run (padded 4 n ++ '-' :: rest) = some ((n : Int), '-' :: rest) := by
  have hnumber : (number 4).run (padded 4 n ++ '-' :: rest) = some (n, '-' :: rest) :=
    run_number (by decide) h
  cases hdigits : padded 4 n with
  | nil => exact absurd hdigits (padded_ne_nil 4 n)
  | cons d ds =>
    have hd : isDigit d = true := isDigit_of_mem_padded 4 n (hdigits ▸ List.mem_cons_self)
    rw [hdigits] at hnumber
    rw [year, List.cons_append, run_bind (run_blanks (isSpace_of_isDigit hd)), run_bind rfl]
    -- a digit is no sign
    split
    · rename_i heq
      cases heq
      exact absurd hd (by decide)
    · rename_i heq
      cases heq
      exact absurd hd (by decide)
    · exact run_bind hnumber

/-- A year is taken up to the mark behind it, with the sign that it has. -/
theorem run_year (y : Int) : year.run (writeYear y ++ '-' :: rest) = some (y, '-' :: rest) := by
  by_cases hnegative : y < 0
  · rw [writeYear, if_pos hnegative, List.cons_append, year, run_bind (run_blanks (by decide)),
      run_bind rfl]
    have hvalue : -(y.natAbs : Int) = y := by omega
    exact (run_signed '-' (fun n => -(n : Int)) y.natAbs).trans (by rw [hvalue])
  · by_cases hplain : y ≤ 9999
    · have hvalue : (y.natAbs : Int) = y := by omega
      rw [writeYear, if_neg hnegative, if_pos hplain]
      exact (run_unsigned (by omega)).trans (by rw [hvalue])
    · rw [writeYear, if_neg hnegative, if_neg hplain, List.cons_append, year,
        run_bind (run_blanks (by decide)), run_bind rfl]
      have hvalue : (y.natAbs : Int) = y := by omega
      exact (run_signed '+' (fun n => (n : Int)) y.natAbs).trans (by rw [hvalue])

/-- The digits behind a point are taken up to the zone, and stand for as many units as their number
leaves. -/
theorem run_point {width : Nat} (hwidth : width ≤ 9) {n : Nat} (h : n < 10 ^ width)
    (hpos : 0 < width) :
    fraction.run ('.' :: (padded width n ++ ['Z'])) = some (n * 10 ^ (9 - width), ['Z']) := by
  have hpoint : (one (· == '.')).run ('.' :: (padded width n ++ ['Z'])) =
      some ('.', padded width n ++ ['Z']) := run_one (by decide)
  have hlength := length_padded hpos h
  have hkept : (padded width n).take 9 = padded width n :=
    List.take_of_length_le (hlength.trans_le hwidth)
  rw [fraction, run_bind rfl]
  refine (run_bind hpoint).trans ((run_bind (run_padded width n (by decide))).trans ?_)
  simp only [isEmpty_padded, hkept, hlength, digitsValue_padded]
  rfl

/-- A fraction is taken up to the zone behind it. -/
theorem run_fraction {n : Nat} (h : n < 1000000000) :
    fraction.run (writeFraction n ++ ['Z']) = some (n, ['Z']) := by
  unfold writeFraction
  split
  · rename_i hzero
    rw [hzero]
    rfl
  · split
    · have hvalue : n / 1000000 * 10 ^ (9 - 3) = n := by omega
      exact (run_point (by decide) (by omega) (by decide)).trans (by rw [hvalue])
    · split
      · have hvalue : n / 1000 * 10 ^ (9 - 6) = n := by omega
        exact (run_point (by decide) (by omega) (by decide)).trans (by rw [hvalue])
      · have hvalue : n * 10 ^ (9 - 9) = n := by omega
        exact (run_point (by decide) (by omega) (by decide)).trans (by rw [hvalue])

/-- The zone of universal time is taken. -/
theorem run_zone : zone.run ['Z'] = some (0, []) := by
  decide

end Steps

/-- A clock of universal time shows every instant as it is. -/
theorem ofLocal?_zero (t : Timestamp) :
    ofLocal? t.date t.hour t.minute t.second t.nanosecond 0 = some t := by
  obtain ⟨date, hour, minute, second, nanosecond, hhour, hminute, hsecond, hnanosecond⟩ := t
  have hvalid : hour < 24 ∧ minute < 60 ∧ second ≤ 60 ∧ nanosecond < 1000000000 :=
    ⟨hhour, hminute, hsecond, hnanosecond⟩
  have hhours : ((60 * (hour : Int) + minute - 0) % 1440 / 60).toNat = hour := by omega
  have hminutes : ((60 * (hour : Int) + minute - 0) % 60).toNat = minute := by omega
  rw [ofLocal?, dif_pos hvalid]
  simp only [hhours, hminutes]
  rw [if_neg (by decide), if_neg (by omega), if_pos (by omega)]

/-- The characters of a timestamp are all taken, and the timestamp is what they stand for. -/
theorem run_scan (t : Timestamp) : scan.run t.write = some (t, []) := by
  have hmonth : t.date.month < 10 ^ 2 := by
    obtain ⟨-, -, -, hmonth, -⟩ := t.date.isDay
    omega
  have hday : t.date.day < 10 ^ 2 := by
    obtain ⟨-, -, -, -, -, hday⟩ := t.date.isDay
    exact Nat.lt_of_le_of_lt (hday.trans (Date.daysInMonth_le _ _)) (by decide)
  have hdate : Date.ofNumbers? t.date.year t.date.month t.date.day = some t.date :=
    dif_pos t.date.isDay
  have hhour := t.hour_lt
  have hminute := t.minute_lt
  have hsecond := t.second_le
  have htwo : 0 < 2 := by decide
  rw [scan, write, run_bind (run_year t.date.year), run_bind (run_mark (by decide)),
    run_bind (run_number htwo hmonth), run_bind (run_mark (by decide)),
    run_bind (run_number htwo hday), run_bind (run_one (by decide)),
    run_bind (run_number htwo (by omega)), run_bind (run_mark (by decide)),
    run_bind (run_number htwo (by omega)), run_bind (run_mark (by decide)),
    run_bind (run_number htwo (by omega)), run_bind (run_fraction t.nanosecond_lt),
    run_bind run_zone, run_bind run_blanks_nil, run_bind rfl]
  simp only [hdate]
  rw [if_pos List.isEmpty_nil, ofLocal?_zero]
  rfl

/-- The text of a timestamp stands for it. -/
theorem ofText?_toText (t : Timestamp) : ofText? t.toText = some t := by
  rw [ofText?, toText, String.toList_ofList, run_scan]
  rfl

end Timestamp

end Ebms
