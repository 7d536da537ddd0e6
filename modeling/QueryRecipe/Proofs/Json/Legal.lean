import QueryRecipe.Json.Number
import QueryRecipe.Proofs.Binary64.Finite
import QueryRecipe.Proofs.Json.Within

/-!
# The numbers of documents

A numeral stands for an integer of 64 bits, with a sign or without one, or for a finite number of the
format binary64 (`within_of_value?`).
-/

namespace QueryRecipe.Json

open Binary64

/-- Numbers that a document can hold. -/
def Legal : Json → Prop
  | .int n => Int64.minValue.toInt ≤ n ∧ n < UInt64.size
  | .double x => x.isFinite = true
  | _ => True

/-- A scaled quotient is bounded by the bounds of its two numbers. -/
lemma shiftLeft_div_lt {a b c f k : Nat} (num : a < 2 ^ f) (den : 2 ^ c ≤ b) :
    a <<< k / b < 2 ^ (f + k - c) := by
  rw [Nat.div_lt_iff_lt_mul (Nat.lt_of_lt_of_le (Nat.two_pow_pos _) den), Nat.shiftLeft_eq]
  calc a * 2 ^ k < 2 ^ f * 2 ^ k := Nat.mul_lt_mul_of_pos_right num (Nat.two_pow_pos k)
    _ = 2 ^ (f + k) := by rw [Nat.pow_add]
    _ ≤ 2 ^ (f + k - c + c) := Nat.pow_le_pow_right (by decide) (by omega)
    _ = 2 ^ (f + k - c) * 2 ^ c := by rw [Nat.pow_add]
    _ ≤ 2 ^ (f + k - c) * b := Nat.mul_le_mul_left _ den

section Integer
variable {n : Int}

/-- A scaled integer of 64 bits is bounded. -/
lemma shiftLeft_integer (size : n.natAbs < UInt64.size) (k : Nat) :
    n.natAbs <<< k / 1 < 2 ^ (64 + k) := by
  rw [Nat.div_one, Nat.shiftLeft_eq, Nat.pow_add]
  exact Nat.mul_lt_mul_of_pos_right size (Nat.two_pow_pos k)

/-- Integers of 64 bits are finite numbers. -/
lemma isFinite_ofInt (size : n.natAbs < UInt64.size) : (Binary64.ofInt n).isFinite = true :=
  isFinite_ofRatio (shiftLeft_integer size _) (by decide)

/-- An integer of 64 bits is far below the greatest number. -/
lemma units_ofInt (size : n.natAbs < UInt64.size) : ∃ f, (Binary64.ofInt n).units < 2 ^ f ∧ f < 2097 :=
  ⟨_, units_ofRatio (shiftLeft_integer size _) (by decide), by decide⟩

end Integer

/-- A power of ten is not rounded far below itself. -/
lemma powerOfTen_units {k e : Nat} (h : 2 ^ e ≤ 10 ^ k) (small : e < 1024) :
    2 ^ (1073 + e) ≤ (powerOfTen k).units := by
  have quotient : 2 ^ (53 + (1021 + e)) ≤ Nat.pow 10 k <<< 1074 / 1 := by
    rw [Nat.div_one, Nat.shiftLeft_eq, show 53 + (1021 + e) = e + 1074 by omega, Nat.pow_add]
    exact Nat.mul_le_mul_right _ h
  rw [show 1073 + e = 52 + (1021 + e) by omega]
  exact units_ofRatio_ge quotient (by omega)

/-- The quotient by a power of ten is finite. -/
lemma isFinite_divideDown {x : Binary64} {k f} (finite : x.isFinite = true)
    (bound : x.units < 2 ^ f) (small : f < 2097) : (divideDown x k).isFinite = true := by
  induction x, k using divideDown.induct generalizing f with
  | case1 x k le =>
    rw [divideDown, if_pos le]
    have least : 2 ^ 0 ≤ 10 ^ k := Nat.pow_pos (by decide)
    exact isFinite_ofRatio (shiftLeft_div_lt bound (powerOfTen_units least (by decide))) (by omega)
  | case2 x k gt zero =>
    rw [divideDown, if_neg gt, if_pos zero]
    exact finite
  | case3 x k gt nonzero ih =>
    rw [divideDown, if_neg gt, if_neg nonzero]
    have most : 2 ^ 1023 ≤ 10 ^ 308 := by decide +kernel
    have quotient := shiftLeft_div_lt (k := 1074) bound (powerOfTen_units most (by decide))
    exact ih (isFinite_ofRatio quotient (by omega)) (units_ofRatio quotient (by omega)) (by omega)

/-- The significand of a numeral keeps to 64 bits. -/
lemma absorb_lt {n : Nat} {ds : List Nat} (h : n < UInt64.size) : (absorb n ds).1 < UInt64.size := by
  induction ds generalizing n with
  | nil => exact h
  | cons d ds ih =>
    rw [absorb]
    split
    next fits => exact ih fits
    next => exact h

/-- A number is finite under either sign. -/
lemma isFinite_withSign {x : Binary64} {negative} : (x.withSign negative).isFinite = x.isFinite := by
  have bound : x.bits.toNat % signBit < signBit := Nat.mod_lt _ (by decide)
  rw [Bool.eq_iff_iff, isFinite_iff, isFinite_iff, withSign, magnitude_mk bound]
  rfl

/-- A significand is scaled to finite numbers only. -/
lemma isFinite_scaled? {n : Nat} {e x} (size : n < UInt64.size) (h : scaled? n e = some x) :
    x.isFinite = true := by
  have whole : (n : Int).natAbs < UInt64.size := size
  simp only [scaled?] at h
  split_ifs at h with down small finite zero
  · cases h
    obtain ⟨f, bound, small⟩ := units_ofInt whole
    exact isFinite_divideDown (isFinite_ofInt whole) bound small
  · cases h
    exact finite
  · cases h
    exact isFinite_ofInt whole

/-- A numeral stands for finite numbers only. -/
lemma isFinite_double? {m : Numeral} {x} (h : m.double? = some x) : x.isFinite = true := by
  obtain ⟨y, scaled, rfl⟩ := Option.map_eq_some_iff.1 h
  rw [isFinite_withSign]
  exact isFinite_scaled? (absorb_lt (absorb_lt (by decide))) scaled

/-- What a numeral stands for is a number that a document can hold. -/
lemma within_of_value? {m : Numeral} {v n} (h : m.value? = some v) : v.Within Legal n := by
  have double (h : m.double?.map .double = some v) : v.Within Legal n := by
    obtain ⟨x, found, rfl⟩ := Option.map_eq_some_iff.1 h
    exact within_double.2 (isFinite_double? found)
  simp only [Numeral.value?] at h
  split_ifs at h with whole natural negative
  · cases h
    simp only [Bool.and_eq_true, decide_eq_true_eq] at natural
    have least : Int64.minValue.toInt < 0 := by decide
    exact within_int.2 ⟨by omega, by omega⟩
  · cases h
    simp only [Bool.and_eq_true, decide_eq_true_eq] at negative
    exact within_int.2 ⟨negative.2, by omega⟩
  · exact double h
  · exact double h

end QueryRecipe.Json
