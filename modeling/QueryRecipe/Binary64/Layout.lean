import QueryRecipe.Binary64.Shortest
import QueryRecipe.Text.Digits

/-!
# Writing a number

A layout says how the shortest decimal of a finite number is spelled: which way a tie goes, for which
exponents the digits stand at their places, and whether a whole number shows its fraction.
-/

namespace QueryRecipe

/-- How the decimal of a number is spelled. -/
structure Layout where
  /-- Which of two shortest decimals is taken. -/
  tie : Tie
  /-- The exponents of the leading digit for which no exponent is written; `none` means all. -/
  positional : Option (Int × Int)
  /-- Whether a whole number is followed by `.0`. -/
  wholeFraction : Bool
  deriving DecidableEq, Repr

namespace Layout

/-- The digits with the point before the last `-p` of them, or followed by `p` zeros. -/
def place (l : Layout) (digits : List Char) (p : Int) : List Char :=
  let cut := (digits.length + p).toNat
  if 0 ≤ p then
    digits ++ List.replicate p.toNat '0' ++ if l.wholeFraction then ['.', '0'] else []
  else if 0 < (digits.length : Int) + p then
    digits.take cut ++ '.' :: digits.drop cut
  else
    '0' :: '.' :: List.replicate ((-p).toNat - digits.length) '0' ++ digits

/-- The leading digit, the other digits after a point, and the exponent with its sign. -/
def scientific (digits : List Char) (e : Int) : List Char :=
  let tail := if digits.length ≤ 1 then [] else '.' :: digits.drop 1
  let sign := if e < 0 then '-' else '+'
  digits.take 1 ++ tail ++ 'e' :: sign :: Text.digitsOf e.natAbs

/-- The text of a decimal. -/
def decimalText (l : Layout) (d : Decimal) : List Char :=
  let digits := Text.digitsOf d.coefficient
  let e := d.exponent + digits.length - 1
  let positional := match l.positional with
    | none => true
    | some (least, greatest) => least ≤ e && e ≤ greatest
  if positional then l.place digits d.exponent else scientific digits e

/-- The text of a finite number. -/
def text (l : Layout) (x : Binary64) : String :=
  .ofList ((if x.isNegative then ['-'] else []) ++ l.decimalText (x.shortest l.tie))

end Layout

end QueryRecipe
