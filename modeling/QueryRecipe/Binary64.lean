/-!
# Numbers of the format binary64

A number is its 64 bits. Everything else is exact arithmetic on natural numbers: the magnitude of a
finite number is a significand times a power of two, counted in units of `2 ^ -1074`, and a quotient is
rounded to the nearest number, a tie to the even significand.
-/

namespace QueryRecipe

/-- A number of the format binary64, given by its bits. -/
structure Binary64 where
  bits : UInt64
  deriving DecidableEq, Repr, Inhabited

namespace Binary64

/-- The quotient rounded to the nearest natural number, a tie to the even one. -/
def roundDiv (num den : Nat) : Nat :=
  let q := num / den
  let r := num % den
  if 2 * r < den then q else if den < 2 * r then q + 1 else q + q % 2

/-- The sign bit, which stands above all others. -/
def signBit : Nat :=
  0x8000000000000000

/-- The leading bit of the significand of a normal number, and the least bit of the exponent. -/
def leadingBit : Nat :=
  0x10000000000000

/-- Whether the sign bit is set. -/
def isNegative (x : Binary64) : Bool :=
  signBit ≤ x.bits.toNat

/-- The biased exponent. -/
def exponentField (x : Binary64) : Nat :=
  x.bits.toNat / leadingBit % 2048

/-- The trailing significand. -/
def fraction (x : Binary64) : Nat :=
  x.bits.toNat % leadingBit

/-- Whether the number is neither infinite nor a NaN. -/
def isFinite (x : Binary64) : Bool :=
  x.exponentField != 2047

/-- Whether the bits are those of no number. -/
def isNaN (x : Binary64) : Bool :=
  x.exponentField == 2047 && x.fraction != 0

/-- The significand of a finite number, with the leading bit of a normal one. -/
def significand (x : Binary64) : Nat :=
  if x.exponentField = 0 then x.fraction else leadingBit + x.fraction

/-- The power of two that scales the significand in units of `2 ^ -1074`. -/
def scale (x : Binary64) : Nat :=
  x.exponentField - 1

/-- The magnitude of a finite number in units of `2 ^ -1074`. -/
def units (x : Binary64) : Nat :=
  x.significand <<< x.scale

/-- The bits of the number nearest to `num / den`; from halfway past the largest finite number on they
are those of infinity. -/
def nearestBits (num den : Nat) : Nat :=
  let num := num <<< 1074
  let whole := num / den
  let k := if whole < 2 * leadingBit then 0 else Nat.log2 whole - 52
  min (k * leadingBit + roundDiv num (den <<< k)) (2047 * leadingBit)

/-- The number nearest to `num / den` with the given sign. -/
def ofRatio (negative : Bool) (num den : Nat) : Binary64 :=
  ⟨.ofNat (nearestBits num den + if negative then signBit else 0)⟩

/-- The number nearest to an integer. -/
def ofInt (n : Int) : Binary64 :=
  ofRatio (n < 0) n.natAbs 1

/-- The product of two finite magnitudes. -/
def mul (x y : Binary64) : Binary64 :=
  ofRatio false (x.units * y.units) (1 <<< 2148)

/-- The quotient of two finite magnitudes. -/
def div (x y : Binary64) : Binary64 :=
  ofRatio false x.units y.units

/-- The magnitude of `x` under the given sign. -/
def withSign (negative : Bool) (x : Binary64) : Binary64 :=
  ⟨.ofNat (x.bits.toNat % signBit + if negative then signBit else 0)⟩

/-- The infinite number of the given sign. -/
def infinity (negative : Bool) : Binary64 :=
  ⟨.ofNat (2047 * leadingBit + if negative then signBit else 0)⟩

/-- The quiet NaN. -/
def nan : Binary64 :=
  ⟨.ofNat (2047 * leadingBit + leadingBit / 2)⟩

end Binary64

end QueryRecipe
