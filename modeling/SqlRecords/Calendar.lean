import SqlRecords.Text.Numeral

/-! Dates and times of day with their texts. Nanoseconds of a whole second or more are a leap
second. -/
namespace SqlRecords

structure Date where
  year : Int
  month : Nat
  day : Nat
  deriving DecidableEq, Repr, Inhabited

structure TimeOfDay where
  hour : Nat
  minute : Nat
  second : Nat
  nanosecond : Nat
  deriving DecidableEq, Repr, Inhabited

structure DateTime where
  date : Date
  time : TimeOfDay
  deriving DecidableEq, Repr, Inhabited

def nanosPerSecond : Nat := 1000000000

/-- Digits of `n` with zeros in front up to `width`. -/
def padded (width n : Nat) : String :=
  let ds := Nat.toDigits 10 n
  String.ofList (List.replicate (width - ds.length) '0' ++ ds)

/-- Four digits, and a sign on a year outside 0 to 9999. -/
def yearText (year : Int) : String :=
  if 0 ≤ year ∧ year ≤ 9999 then padded 4 year.toNat
  else (if year < 0 then "-" else "+") ++ padded 4 year.natAbs

/-- A fraction of a second in three, six or nine digits, as few as hold it; none for zero. -/
def fractionText (nanos : Nat) : String :=
  if nanos = 0 then ""
  else if nanos % 1000000 = 0 then "." ++ padded 3 (nanos / 1000000)
  else if nanos % 1000 = 0 then "." ++ padded 6 (nanos / 1000)
  else "." ++ padded 9 nanos

namespace Date

def text (d : Date) : String := yearText d.year ++ "-" ++ padded 2 d.month ++ "-" ++ padded 2 d.day

end Date

namespace TimeOfDay

/-- A leap second is second 60. -/
def text (t : TimeOfDay) : String :=
  padded 2 t.hour ++ ":" ++ padded 2 t.minute ++ ":"
    ++ padded 2 (t.second + t.nanosecond / nanosPerSecond)
    ++ fractionText (t.nanosecond % nanosPerSecond)

end TimeOfDay

namespace DateTime

/-- Date and time with a blank between them. -/
def text (t : DateTime) : String := t.date.text ++ " " ++ t.time.text

/-- The text of a moment in UTC, with its offset. -/
def offsetText (t : DateTime) : String := t.date.text ++ "T" ++ t.time.text ++ "+00:00"

end DateTime
end SqlRecords
