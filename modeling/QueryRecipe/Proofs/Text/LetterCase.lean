import Mathlib.Data.List.Basic
import Mathlib.Tactic.Common
import QueryRecipe.Proofs.Text.Blank
import QueryRecipe.Text.CaseMap
import QueryRecipe.Text.Search

/-!
# Texts in the other letter case

Texts that differ in the case of basic letters have the same upper case (`upperChars_map_toUpper`), the same
lower case (`lowerAfter_map_toUpper`) and blanks at the same places (`trimBoth_map_toUpper`), and a text
without letters occurs in both or in neither (`occursIn_map_toUpper`). When they also differ in the blanks
around them (`Respelled`), they have the same upper and lower case once they are trimmed.
-/

namespace QueryRecipe.Text

/-- Only basic characters have another one as their capital. -/
lemma toUpper_eq_self {c : Char} (h : ¬ c.toNat < 128) : c.toUpper = c := by
  have other : ¬ (c.val ≥ 'a'.val ∧ c.val ≤ 'z'.val) := by
    rintro ⟨-, le⟩
    have small : c.toNat ≤ 122 := UInt32.le_iff_toNat_le.1 le
    omega
  exact dif_neg other

/-- What holds of the basic characters and their capitals, and of a character that is its own capital,
holds of all characters and their capitals. -/
lemma toUpper_cases {P : Char → Char → Prop} (basic : ∀ n : Fin 128, P (.ofNat n) (Char.ofNat n).toUpper)
    (same : ∀ c : Char, c.toUpper = c → P c c) (c : Char) : P c c.toUpper := by
  by_cases h : c.toNat < 128
  · have here := basic ⟨c.toNat, h⟩
    rwa [Char.ofNat_toNat] at here
  · rw [toUpper_eq_self h]
    exact same c (toUpper_eq_self h)

/-- A capital is its own capital. -/
@[simp]
lemma toUpper_toUpper (c : Char) : c.toUpper.toUpper = c.toUpper :=
  toUpper_cases (P := fun _ u => u.toUpper = u) (by decide +kernel) (fun _ same => same) c

/-- A character is its own capital, unless both are letters. -/
lemma toUpper_letter (c : Char) : c.toUpper = c ∨ c.isAlpha = true ∧ c.toUpper.isAlpha = true :=
  toUpper_cases (P := fun c u => u = c ∨ c.isAlpha = true ∧ u.isAlpha = true) (by decide +kernel)
    (fun _ _ => .inl rfl) c

/-- A character that is no letter is the capital of itself only. -/
lemma toUpper_eq_iff {c a : Char} (h : a.isAlpha = false) : c.toUpper = a ↔ c = a := by
  obtain same | ⟨letter, letter'⟩ := toUpper_letter c
  · rw [same]
  · refine iff_of_false ?_ ?_
    · rintro rfl
      simp [letter'] at h
    · rintro rfl
      simp [letter] at h

/-- A capital has the same upper case. -/
lemma upperChar_toUpper (c : Char) : upperChar c.toUpper = upperChar c :=
  toUpper_cases (P := fun c u => upperChar u = upperChar c) (by decide +kernel) (fun _ _ => rfl) c

/-- A text in capitals has the same upper case. -/
lemma upperChars_map_toUpper (s : List Char) : upperChars (s.map Char.toUpper) = upperChars s := by
  simp only [upperChars, List.flatMap_map, upperChar_toUpper]

/-- The capital of a character is blank exactly if the character is. -/
lemma isBlank_toUpper (c : Char) : isBlank c.toUpper = isBlank c :=
  toUpper_cases (P := fun c u => isBlank u = isBlank c) (by decide +kernel) (fun _ _ => rfl) c

/-- To trim a text in capitals is to write the trimmed text in capitals. -/
lemma trimBoth_map_toUpper (s : List Char) :
    trimBoth (s.map Char.toUpper) = (trimBoth s).map Char.toUpper := by
  have start (s : List Char) : trimStart (s.map Char.toUpper) = (trimStart s).map Char.toUpper := by
    rw [trimStart, List.dropWhile_map, Function.comp_def, trimStart]
    simp only [isBlank_toUpper]
  rw [trimBoth, start, trimEnd, ← List.map_reverse, ← trimStart, start, ← List.map_reverse]
  rfl

/-- A text without letters occurs in another one whatever the case of the letters there is. -/
lemma occursIn_map_toUpper {m : List Char} (h : ∀ a ∈ m, a.isAlpha = false) (s : List Char) :
    occursIn m (s.map Char.toUpper) = occursIn m s := by
  have first (s : List Char) : m.isPrefixOf (s.map Char.toUpper) = m.isPrefixOf s := by
    induction m generalizing s with
    | nil => simp
    | cons a m ih =>
      obtain ⟨now, later⟩ := List.forall_mem_cons.1 h
      cases s with
      | nil => rfl
      | cons c s =>
        have same : (a == c.toUpper) = (a == c) := by
          rw [Bool.eq_iff_iff, beq_iff_eq, beq_iff_eq, eq_comm, toUpper_eq_iff now, eq_comm]
        rw [List.map_cons, List.isPrefixOf, List.isPrefixOf, same, ih later]
  induction s with
  | nil => rfl
  | cons c s ih =>
    have here := first (c :: s)
    rw [List.map_cons] at here ⊢
    rw [occursIn, occursIn, here, ih]

/-- A character that is no letter occurs in a text whatever the case of the letters there is. -/
lemma contains_map_toUpper {a : Char} (h : a.isAlpha = false) (s : List Char) :
    (s.map Char.toUpper).contains a = s.contains a := by
  rw [Bool.eq_iff_iff]
  simp [toUpper_eq_iff h]

/-- Only the first ranges matter to a basic character if the others begin behind these characters. -/
lemma contains_take {rs : Ranges} {n : ℕ} (behind : ∀ r ∈ rs.drop n, 128 ≤ r.1) {c : Char}
    (basic : c.toNat < 128) : rs.contains c = Ranges.contains (rs.take n) c := by
  have none : Ranges.contains (rs.drop n) c = false := by
    rw [Bool.eq_false_iff, ne_eq, Ranges.contains_iff]
    rintro ⟨r, mem, first, -⟩
    have := behind r mem
    omega
  calc rs.contains c
    _ = Ranges.contains (rs.take n ++ rs.drop n) c := by rw [List.take_append_drop]
    _ = (Ranges.contains (rs.take n) c || Ranges.contains (rs.drop n) c) := List.any_append
    _ = Ranges.contains (rs.take n) c := by rw [none, Bool.or_false]

/-- Only the first ranges of each table matter to basic characters. -/
lemma isCased_basic {c : Char} (basic : c.toNat < 128) :
    isCased c = Ranges.contains (casedRanges.take 2) c ∧
      isCaseIgnorable c = Ranges.contains (caseIgnorableRanges.take 5) c :=
  ⟨contains_take (by decide +kernel) basic, contains_take (by decide +kernel) basic⟩

/-- The other case of a basic letter has the same part in the case of its neighbours. -/
lemma isCased_toUpper (c : Char) :
    isCased c.toUpper = isCased c ∧ isCaseIgnorable c.toUpper = isCaseIgnorable c := by
  have neighbours : ∀ n : Fin 128, (Char.ofNat n).toNat < 128 ∧ (Char.ofNat n).toUpper.toNat < 128 ∧
      Ranges.contains (casedRanges.take 2) (Char.ofNat n).toUpper =
        Ranges.contains (casedRanges.take 2) (.ofNat n) ∧
      Ranges.contains (caseIgnorableRanges.take 5) (Char.ofNat n).toUpper =
        Ranges.contains (caseIgnorableRanges.take 5) (.ofNat n) := by
    decide +kernel
  refine toUpper_cases
    (P := fun c u => isCased u = isCased c ∧ isCaseIgnorable u = isCaseIgnorable c) (fun n => ?_)
    (fun _ _ => ⟨rfl, rfl⟩) c
  obtain ⟨basic, capital, cased, ignorable⟩ := neighbours n
  rw [(isCased_basic basic).1, (isCased_basic basic).2, (isCased_basic capital).1,
    (isCased_basic capital).2]
  exact ⟨cased, ignorable⟩

/-- A capital has the same lower case. -/
lemma lowerChar_toUpper (c : Char) : lowerChar c.toUpper = lowerChar c :=
  toUpper_cases (P := fun c u => lowerChar u = lowerChar c) (by decide +kernel) (fun _ _ => rfl) c

/-- Whether a cased letter comes next is not seen from the case of the letters. -/
lemma meetsCased_map_toUpper (s : List Char) : meetsCased (s.map Char.toUpper) = meetsCased s := by
  have ignorable : isCaseIgnorable ∘ Char.toUpper = isCaseIgnorable :=
    funext fun c => (isCased_toUpper c).2
  rw [meetsCased, meetsCased, List.dropWhile_map, ignorable]
  cases s.dropWhile isCaseIgnorable with
  | nil => rfl
  | cons c r => exact (isCased_toUpper c).1

/-- A text in capitals has the same lower case; whether a sigma ends a word is not seen from the case of
the letters around it. -/
lemma lowerAfter_map_toUpper (before s : List Char) :
    lowerAfter (before.map Char.toUpper) (s.map Char.toUpper) = lowerAfter before s := by
  induction s generalizing before with
  | nil => rfl
  | cons c s ih =>
    rw [List.map_cons, lowerAfter, lowerAfter, ← List.map_cons, ih, meetsCased_map_toUpper,
      meetsCased_map_toUpper, lowerChar_toUpper]
    simp only [toUpper_eq_iff (a := 'Σ') (by decide)]

section Respelled

/-- Whether two texts differ at most in the case of their basic letters and in the blanks around them. -/
def Respelled (s s' : String) : Prop :=
  ∃ before core after before' core' after' : List Char,
    s.toList = before ++ core ++ after ∧ s'.toList = before' ++ core' ++ after' ∧
      (∀ c ∈ before ++ after ++ before' ++ after', isBlank c = true) ∧
        core.map Char.toUpper = core'.map Char.toUpper

variable {s s' : String}

/-- Respelled texts have the same capitals once they are trimmed. -/
lemma Respelled.trim (h : Respelled s s') :
    (Text.trim s).toList.map Char.toUpper = (Text.trim s').toList.map Char.toUpper := by
  obtain ⟨before, core, after, before', core', after', e, e', blank, alike⟩ := h
  simp only [List.forall_mem_append] at blank
  obtain ⟨⟨⟨hb, ha⟩, hb'⟩, ha'⟩ := blank
  rw [Text.trim, Text.trim, String.toList_ofList, String.toList_ofList, e, e', trimBoth_padded hb ha,
    trimBoth_padded hb' ha', ← trimBoth_map_toUpper, alike, trimBoth_map_toUpper]

/-- Respelled texts have the same upper case once they are trimmed. -/
lemma Respelled.upper (h : Respelled s s') : Text.upper (Text.trim s) = Text.upper (Text.trim s') := by
  rw [Text.upper, Text.upper, ← upperChars_map_toUpper, h.trim, upperChars_map_toUpper]

/-- Respelled texts have the same lower case once they are trimmed. -/
lemma Respelled.lower (h : Respelled s s') : Text.lower (Text.trim s) = Text.lower (Text.trim s') := by
  have same := congrArg (lowerAfter []) h.trim
  rw [Text.lower, Text.lower, ← lowerAfter_map_toUpper [], ← lowerAfter_map_toUpper [] (Text.trim s').toList]
  rw [List.map_nil, same]

/-- Of respelled texts both or neither are blank. -/
lemma Respelled.blank (h : Respelled s s') : Text.trim s = "" ↔ Text.trim s' = "" := by
  rw [← String.toList_inj, ← String.toList_inj, String.toList_empty,
    ← List.map_eq_nil_iff (f := Char.toUpper), h.trim, List.map_eq_nil_iff]

end Respelled

end QueryRecipe.Text
