import Mathlib.Tactic.IntervalCases
import QueryRecipe.Text.Digits

/-!
# Digits of numbers
-/

namespace QueryRecipe.Text

/-- The digits of a natural number are digits. -/
lemma isDigit_digitsOf {n a} (h : a ∈ digitsOf n) : a.isDigit = true :=
  Nat.isDigit_of_mem_toDigits (by decide) (by decide) h

/-- Numbers with the same text are the same. -/
lemma naturalText_injective : Function.Injective naturalText := by
  intro n m same
  have digits : Nat.toDigits 10 n = Nat.toDigits 10 m := String.ofList_injective same
  calc
    n = Nat.ofDigitChars 10 (Nat.toDigits 10 n) 0 := Nat.ofDigitChars_ten_toDigits.symm
    _ = Nat.ofDigitChars 10 (Nat.toDigits 10 m) 0 := by rw [digits]
    _ = m := Nat.ofDigitChars_ten_toDigits

/-- The digits of a number other than zero do not start with a zero. -/
lemma digitsOf_cases {n : Nat} (pos : 0 < n) : ∃ c cs, digitsOf n = c :: cs ∧ c ≠ '0' := by
  induction n using Nat.strongRecOn with
  | ind n ih =>
    rw [digitsOf]
    by_cases lt : n < 10
    · refine ⟨_, [], Nat.toDigits_of_lt_base lt, ?_⟩
      interval_cases n <;> decide
    · obtain ⟨c, cs, shorter, ne⟩ := ih (n / 10) (by omega) (by omega)
      rw [digitsOf] at shorter
      refine ⟨c, cs ++ [Nat.digitChar (n % 10)], ?_, ne⟩
      rw [Nat.toDigits_of_base_le (by decide) (by omega), shorter, List.cons_append]

end QueryRecipe.Text
