/-! Binary floating-point formats: reading a bit pattern and rounding a quotient to the nearest. -/
namespace SqlRecords.Decimal

/-- How many bits a format gives to the fraction and to the exponent. -/
structure Format where
  fractionBits : Nat
  exponentBits : Nat
  deriving DecidableEq, Repr

def binary64 : Format := ⟨52, 11⟩
def binary32 : Format := ⟨23, 8⟩

/-- What a bit pattern stands for; a finite one is `mantissa * 2 ^ exponent`. -/
inductive Reading where
  | nan
  | infinite (negative : Bool)
  | finite (negative : Bool) (mantissa : Nat) (exponent : Int)
  deriving DecidableEq, Repr

namespace Format

def signBit (f : Format) : Nat := Nat.pow 2 (f.fractionBits + f.exponentBits)

/-- Magnitude bits of infinity: every exponent bit set. -/
def infinity (f : Format) : Nat := (Nat.pow 2 f.exponentBits - 1) * Nat.pow 2 f.fractionBits

def nanBits (f : Format) : Nat := f.infinity + Nat.pow 2 (f.fractionBits - 1)

/-- Exponent of the last place of the least normal numbers and of all smaller ones. -/
def leastExponent (f : Format) : Int :=
  2 - (Nat.pow 2 (f.exponentBits - 1) : Nat) - (f.fractionBits : Nat)

def read (f : Format) (bits : Nat) : Reading :=
  let negative := f.signBit ≤ bits
  let magnitude := bits % f.signBit
  let field := magnitude / Nat.pow 2 f.fractionBits
  let fraction := magnitude % Nat.pow 2 f.fractionBits
  if f.infinity < magnitude then .nan
  else if magnitude = f.infinity then .infinite negative
  else if field = 0 then .finite negative fraction f.leastExponent
  else .finite negative (fraction + Nat.pow 2 f.fractionBits) (f.leastExponent + (field - 1 : Nat))

/-- `num / den` as a quotient of naturals in units of `2 ^ e`. -/
def inUnits (num den : Nat) (e : Int) : Nat × Nat :=
  (num * Nat.pow 2 (-e).toNat, den * Nat.pow 2 e.toNat)

/-- Nearest integer to `num / den`, a tie going to the even neighbour. -/
def nearestEven (num den : Nat) : Nat :=
  let q := num / den
  let twice := 2 * (num % den)
  if twice < den then q else if den < twice then q + 1 else q + q % 2

/-- Exponent of the last place of a positive quotient in this format. -/
def placeOf (f : Format) (num den : Nat) : Int :=
  let guess : Int := (num.log2 : Int) - den.log2 - f.fractionBits
  let (a, b) := inUnits num den guess
  max f.leastExponent (if a < b * Nat.pow 2 f.fractionBits then guess - 1 else guess)

/-- Magnitude bits of the float nearest to `num / den`; what is too large becomes infinity.

A mantissa that rounds up to a power of two carries into the exponent field by itself. -/
def round (f : Format) (num den : Nat) : Nat :=
  if num = 0 then 0 else
    let e := f.placeOf num den
    let (a, b) := inUnits num den e
    min f.infinity ((e - f.leastExponent).toNat * Nat.pow 2 f.fractionBits + nearestEven a b)

def withSign (f : Format) (negative : Bool) (magnitude : Nat) : Nat :=
  if negative then f.signBit + magnitude else magnitude

end Format
end SqlRecords.Decimal
