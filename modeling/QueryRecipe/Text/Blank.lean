/-!
# Blank characters

The characters with the property White_Space, and the removal of blanks at the two ends of a text. A
zero-width space or a byte order mark is not blank.
-/

namespace QueryRecipe.Text

/-- Whether `c` has the property White_Space. -/
def isBlank (c : Char) : Bool :=
  let n := c.toNat
  (0x9 ≤ n && n ≤ 0xD) || n == 0x20 || n == 0x85 || n == 0xA0 || n == 0x1680 ||
    (0x2000 ≤ n && n ≤ 0x200A) || n == 0x2028 || n == 0x2029 || n == 0x202F || n == 0x205F ||
    n == 0x3000

/-- The text without the blanks at its start. -/
def trimStart (s : List Char) : List Char :=
  s.dropWhile isBlank

/-- The text without the blanks at its end. -/
def trimEnd (s : List Char) : List Char :=
  (s.reverse.dropWhile isBlank).reverse

/-- The text without the blanks at its two ends. -/
def trimBoth (s : List Char) : List Char :=
  trimEnd (trimStart s)

/-- The string without the blanks at its two ends. -/
def trim (s : String) : String :=
  .ofList (trimBoth s.toList)

/-- The trimmed string, unless nothing is left of it. -/
def nonblank? (s : String) : Option String :=
  let t := trim s
  if t = "" then none else some t

/-- The trimmed texts of a list, those with nothing left dropped. -/
def nonblanks (xs : List String) : List String :=
  xs.filterMap nonblank?

/-- Nothing is left of a text if it is empty once trimmed. -/
theorem nonblank?_eq_none_iff {s : String} : nonblank? s = none ↔ trim s = "" := by
  simp [nonblank?]

/-- What is left of a text is the trimmed text, unless that is empty. -/
theorem nonblank?_eq_some_iff {s t : String} : nonblank? s = some t ↔ trim s = t ∧ t ≠ "" := by
  simp only [nonblank?]
  split
  next h => simp_all
  next h =>
    constructor
    · intro e
      cases e
      exact ⟨rfl, h⟩
    · rintro ⟨rfl, _⟩
      rfl

end QueryRecipe.Text
