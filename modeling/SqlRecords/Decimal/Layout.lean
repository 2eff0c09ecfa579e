import SqlRecords.Decimal.Shortest

/-! Writing a decimal: where positional notation ends, what a whole number ends in, which way ties
go. -/
namespace SqlRecords.Decimal

/-- One way of writing floats. -/
structure Layout where
  tie : Tie
  /-- Exponents of the leading digit that are written positionally; all of them without bounds. -/
  positional : Option (Int × Int)
  /-- What follows the digits of a whole number written positionally. -/
  wholeSuffix : String

/-- Positional throughout, a whole number without a point, ties upwards. -/
def plain : Layout := ⟨.up, none, ""⟩

/-- Positional from `0.00001` to below `1e+16`, a whole number with `.0`, ties to even. -/
def compact : Layout := ⟨.even, some (-5, 15), ".0"⟩

def digitText (n : Nat) : String := String.ofList (Nat.toDigits 10 n)

def zeros (n : Nat) : String := String.ofList (List.replicate n '0')

/-- Digits with the point where the exponent puts it. -/
def positionalText (s : Scientific) (wholeSuffix : String) : String :=
  let text := Nat.toDigits 10 s.digits
  if 0 ≤ s.exponent then String.ofList text ++ zeros s.exponent.toNat ++ wholeSuffix
  else
    let places := (-s.exponent).toNat
    if places < text.length then
      String.ofList (text.take (text.length - places)) ++ "."
        ++ String.ofList (text.drop (text.length - places))
    else "0." ++ zeros (places - text.length) ++ String.ofList text

/-- One digit before the point, then the exponent with its sign. -/
def exponentText (s : Scientific) : String :=
  let text := Nat.toDigits 10 s.digits
  let lead := s.exponent + (text.length - 1 : Nat)
  let fraction := if text.length ≤ 1 then "" else "." ++ String.ofList (text.drop 1)
  let sign := if lead < 0 then "-" else "+"
  String.ofList (text.take 1) ++ fraction ++ "e" ++ sign ++ digitText lead.natAbs

namespace Layout

def magnitude (l : Layout) (s : Scientific) : String :=
  let lead := s.exponent + (digitCount s.digits - 1 : Nat)
  match l.positional with
  | none => positionalText s l.wholeSuffix
  | some (low, high) =>
    if low ≤ lead && lead ≤ high then positionalText s l.wholeSuffix else exponentText s

/-- The text of a float; infinities and the not-a-number have words. -/
def text (l : Layout) (f : Format) : Reading → String
  | .nan => "NaN"
  | .infinite negative => if negative then "-inf" else "inf"
  | .finite negative mantissa exponent =>
    (if negative then "-" else "") ++ l.magnitude (shortest f l.tie mantissa exponent)

end Layout
end SqlRecords.Decimal
