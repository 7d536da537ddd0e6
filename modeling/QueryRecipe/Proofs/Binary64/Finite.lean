import Mathlib.Tactic.Common
import Mathlib.Tactic.Ring
import QueryRecipe.Binary64

/-!
# Finite numbers

A quotient that is small enough is rounded to a finite number (`isFinite_ofRatio`).
-/

namespace QueryRecipe.Binary64

/-- A quotient is rounded up by less than one. -/
lemma roundDiv_le (num den : Nat) : roundDiv num den ≤ num / den + 1 := by
  simp only [roundDiv]
  split_ifs <;> omega

/-- The bits of a rounded quotient are bounded by the exponent of the quotient. -/
lemma nearestBits_le {num den e : Nat} (h : num <<< 1074 / den < 2 ^ (53 + e)) :
    nearestBits num den ≤ (e + 2) * leadingBit := by
  simp only [nearestBits]
  refine Nat.le_trans (Nat.min_le_left _ _) ?_
  generalize num <<< 1074 = n at *
  have round {k} (le : k ≤ e) (lt : n / den < 2 ^ (53 + k)) :
      k * leadingBit + roundDiv n (den <<< k) ≤ (e + 2) * leadingBit := by
    have scaled : n / den / 2 ^ k < 2 ^ 53 := by
      rw [Nat.div_lt_iff_lt_mul (Nat.two_pow_pos k), ← Nat.pow_add]
      exact lt
    have rounded := roundDiv_le n (den <<< k)
    rw [Nat.shiftLeft_eq, ← Nat.div_div_eq_div_mul] at rounded
    have doubled : 2 ^ 53 = 2 * leadingBit := rfl
    have exponents : k * leadingBit ≤ e * leadingBit := Nat.mul_le_mul_right _ le
    rw [Nat.shiftLeft_eq, Nat.add_mul]
    omega
  split_ifs with small
  · exact round (Nat.zero_le e) small
  · have ne : n / den ≠ 0 := by
      rintro zero
      exact small (by rw [zero]; decide)
    have least : 53 ≤ Nat.log2 (n / den) := by
      rw [Nat.le_log2 ne]
      exact Nat.not_lt.1 small
    have most : Nat.log2 (n / den) < 53 + e := (Nat.log2_lt ne).2 h
    refine round (by omega) ?_
    rw [← Nat.log2_lt ne]
    omega

/-- The bits without the sign. -/
def magnitude (x : Binary64) : Nat :=
  x.bits.toNat % signBit

/-- The sign bit plays no part in the magnitude. -/
lemma magnitude_mk {n : Nat} {negative : Bool} (h : n < signBit) :
    magnitude ⟨.ofNat (n + if negative then signBit else 0)⟩ = n := by
  simp only [magnitude, UInt64.toNat_ofNat', signBit] at *
  split <;> omega

/-- A number is finite if its magnitude is below that of infinity. -/
lemma isFinite_iff {x : Binary64} : x.isFinite = true ↔ x.magnitude < 2047 * leadingBit := by
  have bound := x.bits.toNat_lt
  simp only [isFinite, exponentField, magnitude, bne_iff_ne, leadingBit, signBit]
  omega

/-- A number is bounded by its magnitude. -/
lemma units_lt {x : Binary64} {e : Nat} (h : x.magnitude ≤ (e + 2) * leadingBit) :
    x.units < 2 ^ (54 + e) := by
  have exponent : x.exponentField ≤ e + 2 := by
    simp only [exponentField, magnitude, leadingBit, signBit] at *
    omega
  have fraction : x.fraction < leadingBit := Nat.mod_lt _ (by decide)
  have significand : x.significand < 2 ^ 53 := by
    have doubled : 2 ^ 53 = 2 * leadingBit := rfl
    rw [Binary64.significand]
    split <;> omega
  have scale : x.scale ≤ e + 1 := by
    rw [Binary64.scale]
    omega
  calc x.units = x.significand * 2 ^ x.scale := Nat.shiftLeft_eq _ _
    _ < 2 ^ 53 * 2 ^ x.scale := Nat.mul_lt_mul_of_pos_right significand (Nat.two_pow_pos _)
    _ ≤ 2 ^ 53 * 2 ^ (e + 1) := Nat.mul_le_mul_left _ (Nat.pow_le_pow_right (by decide) scale)
    _ = 2 ^ (54 + e) := by ring

section Quotient
variable {negative : Bool} {num den f : Nat}

/-- The magnitude of a rounded quotient is bounded by the exponent of the quotient. -/
lemma magnitude_ofRatio (h : num <<< 1074 / den < 2 ^ f) (small : f < 2098) :
    (ofRatio negative num den).magnitude ≤ (f - 53 + 2) * leadingBit := by
  have bits : nearestBits num den ≤ (f - 53 + 2) * leadingBit :=
    nearestBits_le (Nat.lt_of_lt_of_le h (Nat.pow_le_pow_right (by decide) (by omega)))
  rw [ofRatio, magnitude_mk]
  · exact bits
  · simp only [leadingBit, signBit] at *
    omega

/-- A quotient that is not too large is rounded to a finite number. -/
lemma isFinite_ofRatio (h : num <<< 1074 / den < 2 ^ f) (small : f < 2098) :
    (ofRatio negative num den).isFinite = true := by
  rw [isFinite_iff]
  refine Nat.lt_of_le_of_lt (magnitude_ofRatio h small) ?_
  exact Nat.mul_lt_mul_of_pos_right (by omega) (by decide)

/-- A rounded quotient is bounded by the exponent of the quotient. -/
lemma units_ofRatio (h : num <<< 1074 / den < 2 ^ f) (small : f < 2098) :
    (ofRatio negative num den).units < 2 ^ (54 + (f - 53)) :=
  units_lt (magnitude_ofRatio h small)

/-- A quotient is not rounded to less than half of it. -/
lemma units_ofRatio_ge (h : 2 ^ (53 + f) ≤ num <<< 1074 / den) (small : f < 2046) :
    2 ^ (52 + f) ≤ (ofRatio negative num den).units := by
  have least : (f + 1) * leadingBit ≤ nearestBits num den := by
    simp only [nearestBits]
    have doubled : 2 ^ 53 * 2 ^ f = 2 * leadingBit * 2 ^ f := rfl
    have large : 2 * leadingBit ≤ num <<< 1074 / den := by
      refine Nat.le_trans (Nat.le_mul_of_pos_right _ (Nat.two_pow_pos f)) ?_
      rwa [← doubled, ← Nat.pow_add]
    have exponent : 53 + f ≤ Nat.log2 (num <<< 1074 / den) :=
      (Nat.le_log2 (Nat.ne_of_gt (Nat.lt_of_lt_of_le (by decide) large))).2 h
    rw [if_neg (Nat.not_lt.2 large)]
    refine Nat.le_min.2 ⟨Nat.le_trans ?_ (Nat.le_add_right _ _), ?_⟩
    · exact Nat.mul_le_mul_right _ (by omega)
    · exact Nat.mul_le_mul_right _ (by omega)
  have most : nearestBits num den < signBit :=
    Nat.lt_of_le_of_lt (Nat.min_le_right _ _) (by decide)
  have exponent : f + 1 ≤ (ofRatio negative num den).exponentField := by
    have bits : (ofRatio negative num den).magnitude = nearestBits num den := magnitude_mk most
    simp only [exponentField, magnitude, leadingBit, signBit] at *
    omega
  have significand : 2 ^ 52 ≤ (ofRatio negative num den).significand := by
    rw [Binary64.significand, if_neg (by omega)]
    exact Nat.le_add_right _ _
  have scale : f ≤ (ofRatio negative num den).scale := by
    rw [Binary64.scale]
    omega
  rw [units, Nat.shiftLeft_eq, Nat.pow_add]
  exact Nat.mul_le_mul significand (Nat.pow_le_pow_right (by decide) scale)

end Quotient

end QueryRecipe.Binary64
