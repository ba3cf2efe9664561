import Ebms.Text.Ascii

/-!
# The numbers of a JSON text

A numeral without fraction and exponent that fits 64 bits, signed or unsigned, is an integer. Every
other numeral stands for a double: a negative zero, a larger integer, a fraction, an exponent. Such
a numeral is read as a significand of at most 64 bits and a power of ten, both rounded to 53 bits
before they are multiplied. The numeral is too large exactly when that product is no finite double.
-/

namespace Ebms.Json

open Ebms.Text (isDigit digitValue digitsValue)

/-- What a numeral stands for. -/
inductive Number where
  | int (n : Int)
  | double
  | huge
  deriving DecidableEq, Repr, Inhabited

/-- The significand with one more digit, as long as 64 bits hold it. -/
def appendDigit? (significand : Nat) (digit : Char) : Option Nat :=
  let n := 10 * significand + digitValue digit
  if n < UInt64.size then some n else none

/-- The significand of the digits before the point, and how many of them no longer fit. -/
def wholeDigits (significand : Nat) : List Char → Nat × Nat
  | [] => (significand, 0)
  | d :: ds =>
      match appendDigit? significand d with
      | some n => wholeDigits n ds
      | none => (significand, ds.length + 1)

/-- The significand with the digits after the point, and how many of them were taken in. -/
def fractionDigits (significand : Nat) : List Char → Nat × Nat
  | [] => (significand, 0)
  | d :: ds =>
      match appendDigit? significand d with
      | some n => ((fractionDigits n ds).1, (fractionDigits n ds).2 + 1)
      | none => (significand, 0)

/-- The nearest natural with at most 53 significant bits; a tie goes to the even neighbour. -/
def roundToDouble (n : Nat) : Nat :=
  if n < 1 <<< 53 then n
  else
    let unit := 1 <<< (n.log2 - 52)
    let q := n / unit
    let r := n % unit
    if 2 * r < unit ∨ (2 * r = unit ∧ q % 2 = 0) then q * unit else (q + 1) * unit

/-- The least natural that rounds to no finite double. -/
def doubleLimit : Nat :=
  1 <<< 1024 - 1 <<< 970

/-- Whether a significand times a power of ten is too large for a double. -/
def exceedsDouble (significand : Nat) (exponent : Int) : Bool :=
  significand != 0 &&
    (308 < exponent ||
      (0 ≤ exponent &&
        doubleLimit ≤ roundToDouble significand * roundToDouble (Nat.pow 10 exponent.toNat)))

/-- A numeral taken apart: its sign, its digits before and after the point, its exponent. -/
structure Numeral where
  negative : Bool
  whole : List Char
  fraction : List Char
  exponent : Int
  /-- Neither a point nor an exponent is written. -/
  plain : Bool
  deriving Repr, DecidableEq

/-- The parts of a well-formed numeral. -/
def Numeral.ofChars (text : List Char) : Numeral :=
  let negative := text.head? == some '-'
  let digits := if negative then text.drop 1 else text
  let whole := digits.takeWhile isDigit
  let rest := digits.dropWhile isDigit
  let pointed := rest.head? == some '.'
  let fraction := if pointed then (rest.drop 1).takeWhile isDigit else []
  let scaled := (if pointed then (rest.drop 1).dropWhile isDigit else rest).drop 1
  let magnitude : Int := digitsValue (scaled.filter isDigit)
  { negative
    whole
    fraction
    exponent := if scaled.head? == some '-' then -magnitude else magnitude
    plain := rest.isEmpty }

/-- The double a numeral stands for is finite, or the numeral is too large. -/
def Numeral.asDouble (numeral : Numeral) : Number :=
  let (significand, dropped) := wholeDigits 0 numeral.whole
  let (significand, taken) := fractionDigits significand numeral.fraction
  if exceedsDouble significand (dropped - taken + numeral.exponent) then .huge else .double

/-- What a numeral stands for. -/
def Numeral.number (numeral : Numeral) : Number :=
  let n := digitsValue numeral.whole
  if numeral.plain ∧ numeral.negative = false ∧ n < UInt64.size then .int n
  else if numeral.plain ∧ numeral.negative = true ∧ 0 < n ∧ n ≤ UInt64.size / 2 then .int (-n)
  else numeral.asDouble

end Ebms.Json
