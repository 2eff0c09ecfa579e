import SqlRecords.Calendar

/-! Moments as counts of microseconds from the start of the year 2000. -/
namespace SqlRecords

namespace Date

/-- Days since 1 March of the year 0. Years are taken to begin in March, so that a leap day comes
last. -/
def dayNumber (d : Date) : Int :=
  let year := if d.month ≤ 2 then d.year - 1 else d.year
  let month := if d.month ≤ 2 then d.month + 9 else d.month - 3
  365 * year + year / 4 - year / 100 + year / 400 + (153 * month + 2) / 5 + d.day - 1

/-- Days in 400 years. -/
def daysPerCycle : Nat := 146097

def ofDayNumber (n : Int) : Date :=
  let day := (n % daysPerCycle).toNat
  let year := (day - day / 1460 + day / 36524 - day / 146096) / 365
  let day := day - (365 * year + year / 4 - year / 100)
  let month := (5 * day + 2) / 153
  { year := n / daysPerCycle * 400 + year + if month < 10 then 0 else 1
    month := if month < 10 then month + 3 else month - 9
    day := day - (153 * month + 2) / 5 + 1 }

/-- Whether the calendar has the date. -/
def isReal (d : Date) : Bool := ofDayNumber d.dayNumber = d

end Date

namespace TimeOfDay

/-- Nanoseconds since midnight. -/
def nanos (t : TimeOfDay) : Nat :=
  ((t.hour * 60 + t.minute) * 60 + t.second) * nanosPerSecond + t.nanosecond

def ofNanos (n : Nat) : TimeOfDay :=
  let seconds := n / nanosPerSecond
  ⟨seconds / 3600, seconds / 60 % 60, seconds % 60, n % nanosPerSecond⟩

/-- Whether a day has the time; leap seconds are left out. -/
def isReal (t : TimeOfDay) : Bool := t.hour < 24 && ofNanos t.nanos = t

/-- Drops what is below a microsecond. -/
def toMicros (t : TimeOfDay) : TimeOfDay := { t with nanosecond := t.nanosecond / 1000 * 1000 }

/-- The time that a count of whole microseconds since midnight gives; a leap second is counted. -/
def counted (t : TimeOfDay) : TimeOfDay := ofNanos (t.nanos / 1000 * 1000)

end TimeOfDay

namespace DateTime

def nanosPerDay : Nat := 86400 * nanosPerSecond

/-- The start of the year 2000. -/
def epoch : Date := ⟨2000, 1, 1⟩

/-- Whole microseconds from the epoch, cut towards it. -/
def micros (t : DateTime) : Int :=
  ((t.date.dayNumber - epoch.dayNumber) * nanosPerDay + t.time.nanos).tdiv 1000

def ofMicros (n : Int) : DateTime :=
  let nanos := n * 1000
  ⟨.ofDayNumber (epoch.dayNumber + nanos / nanosPerDay), .ofNanos (nanos % nanosPerDay).toNat⟩

/-- Drops what is below a microsecond. -/
def toMicros (t : DateTime) : DateTime := { t with time := t.time.toMicros }

def isReal (t : DateTime) : Bool := t.date.isReal && t.time.isReal

/-- The moment that a count of microseconds from the epoch gives. -/
def counted (t : DateTime) : DateTime := ofMicros t.micros

end DateTime
end SqlRecords
