import QueryRecipe.Binary64

/-!
# The shortest decimal of a number

The reals that round to a finite number form an interval around it, its ends included when the
significand is even. The shortest decimal is taken from the coarsest grid of a power of ten that has a
point in the interval: the nearest such point, a tie going as the caller says.
-/

namespace QueryRecipe

/-- The number `coefficient * 10 ^ exponent`. -/
structure Decimal where
  coefficient : Nat
  exponent : Int
  deriving DecidableEq, Repr

/-- Which of two equally near neighbours is taken. -/
inductive Tie where
  | upward
  | toEven
  deriving DecidableEq, Repr

namespace Binary64

/-- The reals that round to a number, in units of `2 ^ -1076`. -/
structure Interval where
  low : Nat
  middle : Nat
  high : Nat
  closed : Bool

/-- The interval of a finite number other than zero. Below a power of two the numbers are twice as
dense, so there its lower half is shorter. -/
def interval (x : Binary64) : Interval :=
  let below := if x.fraction = 0 ∧ 1 < x.exponentField then 1 else 2
  { low := (4 * x.significand - below) <<< x.scale
    middle := 4 * x.units
    high := (4 * x.significand + 2) <<< x.scale
    closed := x.significand % 2 = 0 }

/-- Whether `n / m` units lie in the interval. -/
def Interval.holds (i : Interval) (n m : Nat) : Bool :=
  if i.closed then i.low * m ≤ n && n ≤ i.high * m else i.low * m < n && n < i.high * m

/-- The multiple of `10 ^ p` in the interval that is nearest to its middle, as a multiple. -/
def Interval.gridPoint? (i : Interval) (tie : Tie) (p : Int) : Option Nat :=
  let m := Nat.pow 10 (-p).toNat
  let step := Nat.pow 10 p.toNat <<< 1076
  let c := i.middle * m / step
  let r := i.middle * m % step
  match i.holds (c * step) m, i.holds ((c + 1) * step) m with
  | false, false => none
  | true, false => some c
  | false, true => some (c + 1)
  | true, true =>
    if 2 * r < step then some c
    else if step < 2 * r then some (c + 1)
    else match tie with
      | .upward => some (c + 1)
      | .toEven => some (c + c % 2)

/-- The shortest decimal that rounds to the magnitude of a finite number. The grids run from `10 ^ 309`,
above every number, down to `10 ^ -340`, where seventeen digits fit even for the least number. -/
def shortest (tie : Tie) (x : Binary64) : Decimal :=
  if x.units = 0 then
    ⟨0, 0⟩
  else
    let i := x.interval
    let at? (k : Nat) : Option Decimal := (i.gridPoint? tie (309 - k)).map (⟨·, 309 - k⟩)
    ((List.range 650).findSome? at?).getD ⟨0, 0⟩

end Binary64

end QueryRecipe
