import Ebms.Text.Ascii
import Ebms.Timestamp.Date

/-!
# Timestamps

A timestamp is an instant in universal time, down to the nanosecond. A leap second is second 60 of
its minute. It is written as date, `T`, time and `Z`, with as many groups of three fraction digits
as it needs; a year outside 0 to 9999 has a sign.

Reading is lenient. The numbers of a date and a time need no leading zeros, a signed year may have
any number of digits, blanks may stand before a number, before a mark and before the zone, fraction
digits beyond the ninth are dropped, and the zone is `Z`, `UTC` or an offset of less than a day.
-/

namespace Ebms

/-- An instant in universal time. -/
structure Timestamp where
  date : Date
  hour : Nat
  minute : Nat
  second : Nat
  nanosecond : Nat
  hour_lt : hour < 24 := by decide
  minute_lt : minute < 60 := by decide
  second_le : second ≤ 60 := by decide
  nanosecond_lt : nanosecond < 1000000000 := by decide
  deriving DecidableEq, Repr

namespace Timestamp

open Text (isSpace isDigit digitsValue)

/-- Digits of a number, with zeros in front up to a width. -/
def padded (width n : Nat) : List Char :=
  let digits := Nat.toDigits 10 n
  List.replicate (width - digits.length) '0' ++ digits

/-- The year of a timestamp: four digits, or a sign and at least four. -/
def writeYear (year : Int) : List Char :=
  if year < 0 then '-' :: padded 4 year.natAbs
  else if year ≤ 9999 then padded 4 year.natAbs
  else '+' :: padded 4 year.natAbs

/-- The fraction of a second in the fewest groups of three digits. -/
def writeFraction (nanosecond : Nat) : List Char :=
  if nanosecond = 0 then []
  else if nanosecond % 1000000 = 0 then '.' :: padded 3 (nanosecond / 1000000)
  else if nanosecond % 1000 = 0 then '.' :: padded 6 (nanosecond / 1000)
  else '.' :: padded 9 nanosecond

/-- The characters of a timestamp. -/
def write (t : Timestamp) : List Char :=
  writeYear t.date.year ++ '-' :: (padded 2 t.date.month ++ '-' :: (padded 2 t.date.day ++
    'T' :: (padded 2 t.hour ++ ':' :: (padded 2 t.minute ++ ':' :: (padded 2 t.second ++
      (writeFraction t.nanosecond ++ ['Z']))))))

/-- The text of a timestamp. -/
def toText (t : Timestamp) : String :=
  String.ofList t.write

/-- The instant at which a clock `offset` minutes ahead of universal time shows a date and a time;
none if the offset is a day or more, or the instant lies outside the calendar. -/
def ofLocal? (date : Date) (hour minute second nanosecond : Nat) (offset : Int) :
    Option Timestamp :=
  if h : hour < 24 ∧ minute < 60 ∧ second ≤ 60 ∧ nanosecond < 1000000000 then
    let minutes : Int := 60 * hour + minute - offset
    let ofDate (date : Date) : Timestamp :=
      ⟨date, (minutes % 1440 / 60).toNat, (minutes % 60).toNat, second, nanosecond,
        by omega, by omega, h.2.2.1, h.2.2.2⟩
    if 1440 ≤ offset.natAbs then none
    else if minutes < 0 then date.previous?.map ofDate
    else if minutes < 1440 then some (ofDate date)
    else date.next?.map ofDate
  else none

/-- A step of reading: it takes characters from the front or fails. -/
abbrev Scan (α : Type) := StateT (List Char) Option α

/-- Blanks may stand here. -/
def blanks : Scan Unit :=
  modify (·.dropWhile isSpace)

/-- A character of some kind must stand here. -/
def one (accepts : Char → Bool) : Scan Char := do
  match ← get with
  | c :: cs => if accepts c then set cs; pure c else failure
  | [] => failure

/-- The digits that stand here, as many as are there. -/
def digits : Scan (List Char) := do
  let cs ← get
  set (cs.dropWhile isDigit)
  pure (cs.takeWhile isDigit)

/-- A number of one to `width` digits, behind blanks. -/
def number (width : Nat) : Scan Nat := do
  blanks
  let cs ← get
  let found := (cs.take width).takeWhile isDigit
  if found.isEmpty then failure
  else
    set (cs.drop found.length)
    pure (digitsValue found)

/-- A year: one to four digits, or a sign and any number of them. -/
def year : Scan Int := do
  blanks
  match (← get).head? with
  | some '-' => do
      let _ ← one (· == '-')
      let found ← digits
      if found.isEmpty then failure else pure (-(digitsValue found : Int))
  | some '+' => do
      let _ ← one (· == '+')
      let found ← digits
      if found.isEmpty then failure else pure (digitsValue found : Int)
  | _ => do
      let n ← number 4
      pure (n : Int)

/-- A mark of a date or a time, behind blanks. -/
def mark (c : Char) : Scan Unit := do
  blanks
  let _ ← one (· == c)

/-- The nanoseconds that a point and the digits behind it stand for; none without a point. -/
def fraction : Scan Nat := do
  match (← get).head? with
  | some '.' => do
      let _ ← one (· == '.')
      let found ← digits
      if found.isEmpty then failure
      else
        let kept := found.take 9
        pure (digitsValue kept * Nat.pow 10 (9 - kept.length))
  | _ => pure 0

/-- Two digits, of which the first is at most `limit`. -/
def twoDigits (limit : Char) : Scan Nat := do
  let tens ← one fun c => isDigit c && c ≤ limit
  let units ← one isDigit
  pure (digitsValue [tens, units])

/-- The offset of a zone in minutes. -/
def zone : Scan Int := do
  blanks
  let cs ← get
  if Text.equalsIgnoringCase (String.ofList (cs.take 3)) "utc" then
    set (cs.drop 3)
    pure 0
  else
    match ← one (fun c => c == 'Z' || c == 'z' || c == '+' || c == '-' || c == '−') with
    | 'Z' | 'z' => pure 0
    | sign => do
        let hours ← twoDigits '9'
        modify (·.dropWhile fun c => c == ':' || isSpace c)
        let minutes ← twoDigits '5'
        let offset : Int := 60 * hours + minutes
        pure (if sign == '+' then offset else -offset)

/-- The instant that characters stand for. -/
def scan : Scan Timestamp := do
  let year ← year
  mark '-'
  let month ← number 2
  mark '-'
  let day ← number 2
  let _ ← one fun c => c == 'T' || c == 't' || c == ' '
  let hour ← number 2
  mark ':'
  let minute ← number 2
  mark ':'
  let second ← number 2
  let nanosecond ← fraction
  let offset ← zone
  blanks
  let rest ← get
  match Date.ofNumbers? year month day with
  | some date =>
      if rest.isEmpty then StateT.lift (ofLocal? date hour minute second nanosecond offset)
      else failure
  | none => failure

/-- The instant that a text stands for. -/
def ofText? (text : String) : Option Timestamp :=
  (scan.run text.toList).map Prod.fst

end Timestamp

end Ebms
