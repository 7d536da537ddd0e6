/-!
# Decimal digits

The texts of natural numbers and integers in base ten, and the value of digits in any base up to sixteen.
-/

namespace QueryRecipe.Text

/-- The digits of a natural number in base ten, the leading one first. -/
def digitsOf (n : Nat) : List Char :=
  Nat.toDigits 10 n

/-- The text of an integer, with a minus sign before a negative one. -/
def integerChars (n : Int) : List Char :=
  if n < 0 then '-' :: digitsOf n.natAbs else digitsOf n.natAbs

/-- The text of a natural number. -/
def naturalText (n : Nat) : String :=
  .ofList (digitsOf n)

/-- The text of an integer. -/
def integerText (n : Int) : String :=
  .ofList (integerChars n)

/-- The value of digits of any base up to sixteen. -/
def digitsValue (base : Nat) (ds : List Char) : Nat :=
  let digit (c : Char) : Nat :=
    if c.isDigit then c.toNat - '0'.toNat
    else if 'a' ≤ c then c.toNat - 'a'.toNat + 10
    else c.toNat - 'A'.toNat + 10
  ds.foldl (fun n c => n * base + digit c) 0

end QueryRecipe.Text
