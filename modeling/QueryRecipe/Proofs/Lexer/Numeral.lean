import QueryRecipe.Literal
import QueryRecipe.Proofs.Lexer
import QueryRecipe.Proofs.Text.Digits

/-!
# Numbers and plain words are read back

The texts that numbers are written as: a numeral, perhaps after a minus sign (`isNumber_integerText`,
`isNumber_numberText`). A numeral is read as one number and a plain identifier as one word.
-/

namespace QueryRecipe.Lexer

open Text

/-- A numeral: digits and points, a digit first. -/
inductive IsNumeral : List Char → Prop where
  | intro {c r} :
    c.isDigit = true →
    (∀ a ∈ r, a.isDigit = true ∨ a = '.') →
    IsNumeral (c :: r)

/-- A numeral, perhaps after a minus sign. -/
inductive IsNumber : List Char → Prop where
  | plain {s} :
    IsNumeral s →
    IsNumber s
  | negative {s} :
    IsNumeral s →
    IsNumber ('-' :: s)

/-- A numeral may be followed by further digits and points. -/
lemma IsNumeral.append {s r} (h : IsNumeral s) (more : ∀ a ∈ r, a.isDigit = true ∨ a = '.') :
    IsNumeral (s ++ r) := by
  cases h with
  | intro first rest => exact .intro first (List.forall_mem_append.2 ⟨rest, more⟩)

/-- Digits are a numeral if there are any. -/
lemma IsNumeral.of_digits {s : List Char} (ne : s ≠ []) (h : ∀ a ∈ s, a.isDigit = true) :
    IsNumeral s := by
  cases s with
  | nil => exact absurd rfl ne
  | cons c r =>
    obtain ⟨first, rest⟩ := List.forall_mem_cons.1 h
    exact .intro first fun a mem => .inl (rest a mem)

/-- The digits of a natural number are a numeral. -/
lemma isNumeral_digitsOf (n : Nat) : IsNumeral (digitsOf n) :=
  .of_digits Nat.toDigits_ne_nil fun _ => isDigit_digitsOf

/-- The text of an integer is a number. -/
lemma isNumber_integerText (n : Int) : IsNumber (integerText n).toList := by
  rw [integerText, String.toList_ofList, integerChars]
  split
  · exact .negative (isNumeral_digitsOf _)
  · exact .plain (isNumeral_digitsOf _)

/-- The text of a natural number is a number. -/
lemma isNumber_naturalText (n : Nat) : IsNumber (naturalText n).toList := by
  rw [naturalText, String.toList_ofList]
  exact .plain (isNumeral_digitsOf n)

/-- Digits at their places are a numeral. -/
lemma isNumeral_place {l : Layout} {digits p} (ne : digits ≠ [])
    (h : ∀ a ∈ digits, a.isDigit = true) : IsNumeral (l.place digits p) := by
  have zeros (n : Nat) : ∀ a ∈ List.replicate n '0', a.isDigit = true ∨ a = '.' := by
    intro a mem
    rw [List.eq_of_mem_replicate mem]
    exact .inl rfl
  have others {s : List Char} (sub : s ⊆ digits) : ∀ a ∈ s, a.isDigit = true ∨ a = '.' :=
    fun a mem => .inl (h a (sub mem))
  rw [Layout.place]
  split
  -- the point stands behind all digits, between two of them, or before them
  · refine ((IsNumeral.of_digits ne h).append (zeros _)).append ?_
    split <;> simp
  · split
    next inside =>
      have first : digits.take (digits.length + p).toNat ≠ [] := by
        rw [ne_eq, List.take_eq_nil_iff, not_or]
        exact ⟨by omega, ne⟩
      refine (IsNumeral.of_digits first fun a mem => h a (List.take_subset _ _ mem)).append ?_
      exact List.forall_mem_cons.2 ⟨.inr rfl, others (List.drop_subset _ _)⟩
    next =>
      refine IsNumeral.append (.intro rfl ?_) (others fun _ => id)
      exact List.forall_mem_cons.2 ⟨.inr rfl, zeros _⟩

/-- The text of a finite number is a number. -/
lemma isNumber_numberText {x : Binary64} (finite : x.isFinite = true) :
    IsNumber (Literal.numberText x).toList := by
  rw [Literal.numberText, if_pos finite, Layout.text, String.toList_ofList]
  have numeral : IsNumeral (Literal.numberLayout.decimalText (x.shortest Literal.numberLayout.tie)) :=
    isNumeral_place Nat.toDigits_ne_nil fun _ => isDigit_digitsOf
  cases x.isNegative with
  | true => exact .negative numeral
  | false => exact .plain numeral

section Scan
variable {d : Dialect}

/-- A numeral is read on to its end. -/
lemma scan_number {r : List Char} (rev : List Char) (h : ∀ a ∈ r, a.isDigit = true ∨ a = '.') :
    scan d (.number rev) r = ([], .number (r.reverse ++ rev)) :=
  scan_collect (fun c mem _ => by rw [step, if_pos (h c mem)]) rev

/-- A numeral is read as one number. -/
lemma scan_numeral {s} (h : IsNumeral s) : scan d .neutral s = ([], .number s.reverse) := by
  cases h with
  | intro first rest =>
    rw [scan, step, start_digit first, scan_number _ rest]
    simp

/-- A word is read on to its end. -/
lemma scan_word {r : List Char} (rev : List Char) (h : ∀ a ∈ r, isWordChar a = true) :
    scan d (.word rev) r = ([], .word (r.reverse ++ rev)) :=
  scan_collect (fun c mem _ => by rw [step, if_pos (h c mem)]) rev

end Scan

end QueryRecipe.Lexer
