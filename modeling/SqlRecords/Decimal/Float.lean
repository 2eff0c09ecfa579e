import SqlRecords.Decimal.Layout

/-! Floats of both widths, held by their bits so that equality is equality of what gets bound. -/
namespace SqlRecords
open Decimal

/-- A binary64 float. -/
structure Double where
  bits : UInt64
  deriving DecidableEq, Repr, Inhabited

/-- A binary32 float. -/
structure Single where
  bits : UInt32
  deriving DecidableEq, Repr, Inhabited

namespace Double

def reading (x : Double) : Reading := binary64.read x.bits.toNat

def ofBits (n : Nat) : Double := ⟨n.toUInt64⟩

def nan : Double := ofBits binary64.nanBits

def infinite (negative : Bool) : Double := ofBits (binary64.withSign negative binary64.infinity)

/-- Nearest float to a signed quotient; a zero keeps the sign. -/
def ofQuotient (negative : Bool) (num den : Nat) : Double :=
  ofBits (binary64.withSign negative (binary64.round num den))

/-- Nearest float to `± digits * 10 ^ exponent`. Exponents far outside the range of the format are
cut off first: they give zero or infinity whatever the digits are. -/
def ofDecimal (negative : Bool) (digits : Nat) (exponent : Int) : Double :=
  let lead := exponent + digitCount digits
  if digits = 0 || lead < -400 then ofQuotient negative 0 1
  else if 400 < lead then infinite negative
  else ofQuotient negative (digits * Nat.pow 10 exponent.toNat) (Nat.pow 10 (-exponent).toNat)

def ofInt (n : Int) : Double := ofQuotient (n < 0) n.natAbs 1

def isFinite (x : Double) : Bool := x.reading matches .finite ..

/-- Numerator and denominator of a finite magnitude. -/
def quotient (mantissa : Nat) (exponent : Int) : Nat × Nat :=
  (mantissa * Nat.pow 2 exponent.toNat, Nat.pow 2 (-exponent).toNat)

/-- Whole part of a non-negative float; zero for anything below one and for the not-a-number,
nothing above `top`. -/
def truncate (top : Nat) (x : Double) : Nat :=
  match x.reading with
  | .nan => 0
  | .infinite negative => if negative then 0 else top
  | .finite negative mantissa exponent =>
    let (num, den) := quotient mantissa exponent
    if negative then 0 else min top (num / den)

/-- Product and quotient of finite floats, rounded once. -/
def combine (x y : Double) (f : Nat × Nat → Nat × Nat → Nat × Nat) : Double :=
  match x.reading, y.reading with
  | .finite s m e, .finite t n g =>
    let (num, den) := f (quotient m e) (quotient n g)
    ofQuotient (s != t) num den
  | _, _ => nan

def mul (x y : Double) : Double := combine x y fun (a, b) (c, d) => (a * c, b * d)

def div (x y : Double) : Double := combine x y fun (a, b) (c, d) => (a * d, b * c)

/-- Powers by repeated squaring, rounding every product. -/
def pow (x : Double) (n : Nat) : Double := go n x (ofInt 1) n
where
  go : Nat → Double → Double → Nat → Double
    | 0, _, acc, _ => acc
    | fuel + 1, base, acc, n =>
      let acc := if n % 2 = 1 then acc.mul base else acc
      if n / 2 = 0 then acc else go fuel (base.mul base) acc (n / 2)

/-- Text for people and for statements: no exponent, no `.0`. -/
def text (x : Double) : String := plain.text binary64 x.reading

end Double

namespace Single

def reading (x : Single) : Reading := binary32.read x.bits.toNat

def ofBits (n : Nat) : Single := ⟨n.toUInt32⟩

/-- Nearest single to a double. -/
def ofDouble (x : Double) : Single :=
  match x.reading with
  | .nan => ofBits binary32.nanBits
  | .infinite negative => ofBits (binary32.withSign negative binary32.infinity)
  | .finite negative mantissa exponent =>
    let (num, den) := Double.quotient mantissa exponent
    ofBits (binary32.withSign negative (binary32.round num den))

/-- Every single is a double. -/
def toDouble (x : Single) : Double :=
  match x.reading with
  | .nan => .nan
  | .infinite negative => .infinite negative
  | .finite negative mantissa exponent =>
    let (num, den) := Double.quotient mantissa exponent
    .ofQuotient negative num den

def text (x : Single) : String := plain.text binary32 x.reading

end Single
end SqlRecords
