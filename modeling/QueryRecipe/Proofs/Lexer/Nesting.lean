import Mathlib.Algebra.BigOperators.Group.List.Basic
import QueryRecipe.Proofs.Lexer

/-!
# Parentheses around tokens

What stands outside parentheses in a list of tokens (`outside`), and its parts between the separators
that stand there (`splitOutside`). Both are read off the tokens from left to right with the number of open
parentheses. What a part of the list does to that number is a shift: it closes some parentheses and then
leaves some open. Shifts of parts in a row are multiplied, so tokens with matching parentheses are those
with the shift `1`, and what follows them is read as if they were not there (`outside_append`,
`splitOutside_append`).
-/

namespace QueryRecipe.Lexer

/-- The number of parentheses that are closed without having been opened, and of those that are then
left open. -/
structure Shift where
  closed : ℕ
  opened : ℕ
  deriving DecidableEq, Repr

namespace Shift

instance : One Shift := ⟨⟨0, 0⟩⟩

/-- What the first leaves open the second may close. -/
instance : Mul Shift :=
  ⟨fun a b => ⟨a.closed + (b.closed - a.opened), b.opened + (a.opened - b.closed)⟩⟩

/-- The shift of nothing. -/
lemma one_def : (1 : Shift) = ⟨0, 0⟩ := rfl

/-- The shift of two texts: what the first leaves open may be closed in the second. -/
lemma mul_def (a b : Shift) :
    a * b = ⟨a.closed + (b.closed - a.opened), b.opened + (a.opened - b.closed)⟩ := rfl

instance : Monoid Shift where
  mul_assoc a b c := by
    simp only [mul_def, mk.injEq]
    omega
  one_mul a := by simp [mul_def, one_def]
  mul_one a := by simp [mul_def, one_def]

/-- The number of parentheses that are open after a shift, of `n` that are open before it. -/
def depth (s : Shift) (n : ℕ) : ℕ :=
  n - s.closed + s.opened

/-- Nothing closes no parenthesis. -/
@[simp]
lemma closed_one : (1 : Shift).closed = 0 := rfl

/-- Nothing opens no parenthesis. -/
@[simp]
lemma opened_one : (1 : Shift).opened = 0 := rfl

/-- Nothing leaves the depth as it is. -/
@[simp]
lemma depth_one (n : ℕ) : depth 1 n = n := rfl

/-- Shifts are made one after the other, if all that they close has been opened. -/
lemma depth_mul {a b : Shift} {n} (h : (a * b).closed ≤ n) : (a * b).depth n = b.depth (a.depth n) := by
  simp only [mul_def, depth] at h ⊢
  omega

/-- Two texts stay above a depth if the first does and then the second. -/
lemma closed_mul {a b : Shift} {n} : (a * b).closed ≤ n ↔ a.closed ≤ n ∧ b.closed ≤ a.depth n := by
  simp only [mul_def, depth]
  omega

end Shift

/-- The shift of a token. -/
def Token.shift (t : Token) : Shift :=
  if t = .symbol '(' then ⟨0, 1⟩ else if t = .symbol ')' then ⟨1, 0⟩ else 1

/-- The shift of tokens in a row. -/
def shift (toks : List Token) : Shift :=
  (toks.map Token.shift).prod

/-- The tokens outside parentheses, of which `n` are open at the start. -/
def outside : ℕ → List Token → List Token
  | _, [] => []
  | n, t :: rest =>
    if n = 0 ∧ t.shift = 1 then t :: outside n rest else outside (t.shift.depth n) rest

/-- The parts between the separators outside parentheses, of which `n` are open at the start. -/
def splitOutside (sep : Token) : ℕ → List Token → List (List Token)
  | _, [] => [[]]
  | n, t :: rest =>
    if n = 0 ∧ t = sep then
      [] :: splitOutside sep n rest
    else
      (splitOutside sep (t.shift.depth n) rest).modifyHead (t :: ·)

/-- The shift of no tokens. -/
@[simp]
lemma shift_nil : shift [] = 1 := rfl

/-- The shift of a token and those behind it. -/
@[simp]
lemma shift_cons (t : Token) (rest : List Token) : shift (t :: rest) = t.shift * shift rest := by
  simp [shift]

/-- The shifts of tokens in a row come one after the other. -/
@[simp]
lemma shift_append (xs ys : List Token) : shift (xs ++ ys) = shift xs * shift ys := by
  simp [shift]

section Outside
variable {xs ys : List Token} {sep : Token}

/-- What is outside parentheses is among the tokens. -/
lemma outside_subset {n} : outside n xs ⊆ xs := by
  induction xs generalizing n with
  | nil => exact List.Subset.refl _
  | cons t xs ih =>
    rw [outside]
    split
    · exact List.cons_subset_cons t ih
    · exact List.subset_cons_of_subset t ih

/-- Nothing is outside as long as one of the parentheses that are open at the start stays open. -/
lemma outside_inside {n} (h : (shift xs).closed < n) : outside n xs = [] := by
  induction xs generalizing n with
  | nil => rfl
  | cons t xs ih =>
    simp only [shift_cons, Shift.mul_def] at h
    rw [outside, if_neg (by omega)]
    exact ih (by simp only [Shift.depth]; omega)

/-- Parts in a row are read one after the other. -/
lemma outside_append {n} (h : (shift xs).closed ≤ n) :
    outside n (xs ++ ys) = outside n xs ++ outside ((shift xs).depth n) ys := by
  induction xs generalizing n with
  | nil => rfl
  | cons t xs ih =>
    rw [shift_cons] at h ⊢
    rw [Shift.depth_mul h, List.cons_append, outside, outside]
    rw [Shift.closed_mul] at h
    split
    next plain =>
      rw [plain.2, Shift.depth_one] at h ⊢
      rw [ih h.2, List.cons_append]
    next => exact ih h.2

/-- Tokens without a separator outside parentheses belong to one part with what follows them. -/
lemma splitOutside_append {n} (h : (shift xs).closed ≤ n) (none : sep ∉ outside n xs)
    (flat : sep.shift = 1) : splitOutside sep n (xs ++ ys) =
      (splitOutside sep ((shift xs).depth n) ys).modifyHead (xs ++ ·) := by
  induction xs generalizing n with
  | nil => cases e : splitOutside sep n ys <;> simp [e]
  | cons t xs ih =>
    rw [shift_cons] at h ⊢
    rw [Shift.depth_mul h, List.cons_append, splitOutside]
    rw [Shift.closed_mul] at h
    have ne : ¬ (n = 0 ∧ t = sep) := by
      rintro ⟨rfl, rfl⟩
      simp [outside, flat] at none
    -- what is outside in the rest is outside in the whole, whether or not `t` is
    have later : sep ∉ outside (t.shift.depth n) xs := by
      intro mem
      rw [outside] at none
      split at none
      next plain =>
        rw [plain.2] at mem
        exact none (List.mem_cons_of_mem t mem)
      next => exact none mem
    rw [if_neg ne, ih h.2 later]
    cases splitOutside sep (Shift.depth (shift xs) (Shift.depth t.shift n)) ys <;> rfl

/-- A separator at the start ends an empty part. -/
lemma splitOutside_sep : splitOutside sep 0 (sep :: ys) = [] :: splitOutside sep 0 ys := by
  simp [splitOutside]

/-- Behind tokens with matching parentheses one is outside again. -/
lemma outside_matched (matched : shift xs = 1) : outside 0 (xs ++ ys) = outside 0 xs ++ outside 0 ys := by
  rw [outside_append (by simp [matched]), matched, Shift.depth_one]

/-- Nothing of what stands in parentheses is outside them. -/
lemma outside_enclosed (matched : shift xs = 1) :
    outside 0 (.symbol '(' :: xs ++ .symbol ')' :: ys) = outside 0 ys := by
  have inside : outside 1 xs = [] := outside_inside (by simp [matched])
  have opens : outside 0 (.symbol '(' :: (xs ++ .symbol ')' :: ys)) =
      outside 1 (xs ++ .symbol ')' :: ys) := by simp [outside, Token.shift, Shift.one_def, Shift.depth]
  rw [List.cons_append, opens, outside_append (by simp [matched]), inside, matched]
  simp [outside, Token.shift, Shift.depth]

/-- Tokens with matching parentheses and no separator outside them belong to one part with what follows. -/
lemma splitOutside_matched (matched : shift xs = 1) (none : sep ∉ outside 0 xs)
    (flat : sep.shift = 1) :
    splitOutside sep 0 (xs ++ ys) = (splitOutside sep 0 ys).modifyHead (xs ++ ·) := by
  rw [splitOutside_append (by simp [matched]) none flat, matched, Shift.depth_one]

/-- Parts with matching parentheses and without a separator outside them are found again when each but
the first has a separator before it. -/
lemma splitOutside_flatMap {α : Type} {f : α → List Token} {l : List α} (flat : sep.shift = 1)
    (matched : shift xs = 1) (none : sep ∉ outside 0 xs)
    (others : ∀ a ∈ l, shift (f a) = 1 ∧ sep ∉ outside 0 (f a)) :
    splitOutside sep 0 (xs ++ l.flatMap fun a => sep :: f a) = xs :: l.map f := by
  induction l generalizing xs with
  | nil =>
    rw [splitOutside_matched matched none flat]
    simp [splitOutside]
  | cons a l ih =>
    obtain ⟨now, later⟩ := List.forall_mem_cons.1 others
    rw [splitOutside_matched matched none flat, List.flatMap_cons, List.cons_append,
      splitOutside_sep, ih now.1 now.2 later]
    simp

example : (lex .sqlite "a, (b, c), d".toList).map (splitOutside (.symbol ',') 0) =
    some [[.word ['a']], [.symbol '(', .word ['b'], .symbol ',', .word ['c'], .symbol ')'],
      [.word ['d']]] := by
  decide +kernel

end Outside

end QueryRecipe.Lexer
