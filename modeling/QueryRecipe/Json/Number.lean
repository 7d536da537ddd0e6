import QueryRecipe.Json.Basic

/-!
# Numbers in JSON texts

A numeral is the parts of a written number: its sign and the digits before the point, after it and in
the exponent. Without a point and an exponent it denotes an integer as long as 64 bits hold it. Any
other numeral denotes a number of the format binary64, which is reached in two roundings: the digits
that 64 bits hold are rounded first, and the result is then scaled by a rounded power of ten.
-/

namespace QueryRecipe.Json

/-- A written number; digits are listed in the order of the text. -/
structure Numeral where
  negative : Bool := false
  whole : List Nat := []
  fraction : Option (List Nat) := none
  /-- Whether the exponent is negative, and its digits. -/
  exponent : Option (Bool × List Nat) := none
  deriving DecidableEq, Repr

/-- The number with the decimal digits `ds`. -/
def ofDigits (ds : List Nat) : Nat :=
  ds.foldl (fun n d => n * 10 + d) 0

/-- Appends digits to `n` as long as 64 bits hold the result, and returns it with the digits
that were left. -/
def absorb (n : Nat) : List Nat → Nat × List Nat
  | [] => (n, [])
  | d :: ds => if n * 10 + d < UInt64.size then absorb (n * 10 + d) ds else (n, d :: ds)

/-- The number nearest to a power of ten. -/
def powerOfTen (k : Nat) : Binary64 :=
  .ofRatio false (Nat.pow 10 k) 1

/-- The magnitude of `x` divided by `10 ^ k`, in steps of `10 ^ 308`. -/
def divideDown (x : Binary64) (k : Nat) : Binary64 :=
  if k ≤ 308 then x.div (powerOfTen k)
  else if x.units = 0 then x
  else divideDown (x.div (powerOfTen 308)) (k - 308)
termination_by k

/-- The number `n * 10 ^ e`, unless it is beyond every finite number. -/
def scaled? (n : Nat) (e : Int) : Option Binary64 :=
  let x := Binary64.ofInt n
  if e < 0 then
    some (divideDown x e.natAbs)
  else if e ≤ 308 then
    let y := x.mul (powerOfTen e.toNat)
    if y.isFinite then some y else none
  else if n = 0 then some x else none

namespace Numeral

/-- The exponent as written. -/
def power (m : Numeral) : Int :=
  match m.exponent with
  | none => 0
  | some (negative, ds) => if negative then -(ofDigits ds : Int) else ofDigits ds

/-- The number that is meant, of the format binary64, unless it is out of range. Digits before the
point that do not fit count as powers of ten, digits after it that do not fit are left out. -/
def double? (m : Numeral) : Option Binary64 :=
  let (n, left) := absorb 0 m.whole
  let places := m.fraction.getD []
  let (n, unused) := absorb n places
  let e := m.power + left.length - (places.length - unused.length : Nat)
  (scaled? n e).map (·.withSign m.negative)

/-- The number that is meant as a JSON value. A negative zero is not an integer. -/
def value? (m : Numeral) : Option Json :=
  let n := ofDigits m.whole
  if m.fraction.isNone && m.exponent.isNone then
    if !m.negative && n < UInt64.size then some (.int n)
    else if m.negative && 0 < n && Int64.minValue.toInt ≤ -n then some (.int (-n))
    else m.double?.map .double
  else
    m.double?.map .double

end Numeral

end QueryRecipe.Json
