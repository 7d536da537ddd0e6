/-!
# Searching and cutting texts

Where a text occurs in another, cutting at a character, and replacing one character by a text.
-/

namespace QueryRecipe.Text

/-- Whether `needle` occurs in the text. -/
def occursIn (needle : List Char) : List Char → Bool
  | [] => needle.isEmpty
  | c :: r => needle.isPrefixOf (c :: r) || occursIn needle r

/-- The parts of a text between the characters equal to `sep`; there is always at least one part. -/
def splitAtChar (sep : Char) : List Char → List (List Char)
  | [] => [[]]
  | c :: r =>
    if c = sep then
      [] :: splitAtChar sep r
    else
      match splitAtChar sep r with
      | [] => [[c]]
      | part :: parts => (c :: part) :: parts

/-- The parts of a string between the characters equal to `sep`. -/
def split (sep : Char) (s : String) : List String :=
  (splitAtChar sep s.toList).map .ofList

/-- Each character equal to `c` replaced by the text `new`, all others kept. -/
def replaceChar (c : Char) (new : List Char) (s : List Char) : List Char :=
  s.flatMap fun d => if d = c then new else [d]

/-- The string with each `c` replaced by the character `d`. -/
def replace (c d : Char) (s : String) : String :=
  .ofList (replaceChar c [d] s.toList)

/-- What follows the last occurrence of `needle`, if it occurs. -/
def afterLast? (needle : List Char) : List Char → Option (List Char)
  | [] => if needle.isEmpty then some [] else none
  | c :: r =>
    match afterLast? needle r with
    | some rest => some rest
    | none => if needle.isPrefixOf (c :: r) then some ((c :: r).drop needle.length) else none

/-- A text occurs in another one if it is a part of it without gaps. -/
theorem occursIn_iff_infix {needle s : List Char} : occursIn needle s = true ↔ needle <:+: s := by
  induction s with
  | nil => simp [occursIn]
  | cons c r ih =>
    rw [occursIn, Bool.or_eq_true, ih, List.isPrefixOf_iff_prefix, List.infix_cons_iff]

/-- A text has at least one part. -/
theorem splitAtChar_ne_nil (sep : Char) (s : List Char) : splitAtChar sep s ≠ [] := by
  cases s with
  | nil => simp [splitAtChar]
  | cons c r =>
    simp only [splitAtChar]
    split
    · simp
    · split <;> simp

/-- A text without the separator is its only part. -/
theorem splitAtChar_of_not_mem {sep : Char} {s : List Char} (h : sep ∉ s) :
    splitAtChar sep s = [s] := by
  induction s with
  | nil => rfl
  | cons c r ih =>
    rw [List.mem_cons, not_or] at h
    simp [splitAtChar, ih h.2, Ne.symm h.1]

/-- The parts before a separator and those behind it are all the parts. -/
theorem splitAtChar_append (sep : Char) (s r : List Char) :
    splitAtChar sep (s ++ sep :: r) = splitAtChar sep s ++ splitAtChar sep r := by
  induction s with
  | nil => simp [splitAtChar]
  | cons c s ih =>
    rw [List.cons_append, splitAtChar, splitAtChar, ih]
    split
    · rfl
    · cases e : splitAtChar sep s with
      | nil => exact absurd e (splitAtChar_ne_nil sep s)
      | cons part parts => rfl

end QueryRecipe.Text
