import SqlRecords.Decimal.Binary

/-! The fewest decimal digits that read back as a given float, and of those the nearest. -/
namespace SqlRecords.Decimal

/-- Which way a value halfway between two candidates goes. -/
inductive Tie where
  | even | up
  deriving DecidableEq, Repr

/-- `digits * 10 ^ exponent`. -/
structure Scientific where
  digits : Nat
  exponent : Int
  deriving DecidableEq, Repr

/-- Number of decimal digits of `n`, one for zero. -/
def digitCount (n : Nat) : Nat := (Nat.toDigits 10 n).length

/-- Exponent of the leading decimal digit of a positive quotient. -/
def leadingExponent (num den : Nat) : Int :=
  if den ≤ num then digitCount (num / den) - 1
  else -(digitCount ((den + num - 1) / num - 1) : Int)

/-- The reals that round to one float, in quarters of `2 ^ exponent`. -/
structure Interval where
  low : Nat
  value : Nat
  high : Nat
  /-- Whether the ends belong to it. -/
  closed : Bool
  /-- Unit of the three numbers, as a quotient. -/
  unitNum : Nat
  unitDen : Nat

/-- The gap below a power of two is half the gap above it, except at the least exponent. -/
def interval (f : Format) (mantissa : Nat) (exponent : Int) : Interval where
  low := if mantissa = Nat.pow 2 f.fractionBits ∧ f.leastExponent < exponent then 4 * mantissa - 1
    else 4 * mantissa - 2
  value := 4 * mantissa
  high := 4 * mantissa + 2
  closed := mantissa % 2 = 0
  unitNum := Nat.pow 2 (exponent - 2).toNat
  unitDen := Nat.pow 2 (2 - exponent).toNat

/-- Whether `candidate * num / den` lies in the interval. -/
def Interval.holds (i : Interval) (candidate num den : Nat) : Bool :=
  let c := candidate * num * i.unitDen
  let low := i.low * i.unitNum * den
  let high := i.high * i.unitNum * den
  if i.closed then low ≤ c && c ≤ high else low < c && c < high

/-- The better of the two neighbours of the value on the grid of multiples of `10 ^ place`, if one
of them lies in the interval. -/
def onGrid? (tie : Tie) (i : Interval) (place : Int) : Option Nat :=
  let num := Nat.pow 10 place.toNat
  let den := Nat.pow 10 (-place).toNat
  let top := i.value * i.unitNum * den
  let bottom := i.unitDen * num
  let below := top / bottom
  let twice := 2 * (top % bottom)
  let upFirst := if twice = bottom then tie == .up || below % 2 == 1 else bottom < twice
  let (first, second) := if upFirst then (below + 1, below) else (below, below + 1)
  if i.holds first num den then some first
  else if i.holds second num den then some second
  else none

/-- Drops the zeros at the end of the digits. -/
def stripZeros : Nat → Scientific → Scientific
  | 0, s => s
  | fuel + 1, s =>
    if s.digits % 10 = 0 then stripZeros fuel ⟨s.digits / 10, s.exponent + 1⟩ else s

/-- Seventeen digits tell all binary64 floats apart, nine all binary32 floats. -/
def mostDigits : Nat := 17

/-- The shortest decimal that reads back as `mantissa * 2 ^ exponent`. -/
def shortest (f : Format) (tie : Tie) (mantissa : Nat) (exponent : Int) : Scientific :=
  if mantissa = 0 then ⟨0, 0⟩ else
    let i := interval f mantissa exponent
    let lead := leadingExponent (i.value * i.unitNum) i.unitDen
    let found := (List.range mostDigits).findSome? fun (n : Nat) =>
      let place := lead - (n : Int)
      (onGrid? tie i place).map (Scientific.mk · place)
    match found with
    | some s => stripZeros mostDigits s
    | none => ⟨0, 0⟩

end SqlRecords.Decimal
