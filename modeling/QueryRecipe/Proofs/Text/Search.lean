import Mathlib.Data.List.Basic
import Mathlib.Tactic.Common
import QueryRecipe.Text.Search

/-!
# Cutting a text loses nothing

A text is cut as any list is cut at an element, so its parts with the separator between them are the text
again, and texts with the same parts are equal.
-/

namespace QueryRecipe.Text

/-- To split at a character is to split as the library does. -/
lemma splitAtChar_eq_splitOn (sep : Char) (s : List Char) : splitAtChar sep s = s.splitOn sep := by
  induction s with
  | nil => rw [splitAtChar, List.splitOn_nil]
  | cons c r ih =>
    rw [splitAtChar, List.splitOn_cons_eq_if_modifyHead, ih]
    by_cases same : c = sep
    · simp [same]
    · cases e : r.splitOn sep with
      | nil => exact absurd (ih.trans e) (splitAtChar_ne_nil sep r)
      | cons part parts => simp [same]

/-- The parts of a string are those that the library finds. -/
lemma split_eq_splitOn (sep : Char) (s : String) :
    split sep s = (s.toList.splitOn sep).map .ofList := by
  rw [split, splitAtChar_eq_splitOn]

/-- Texts with the same parts are equal. -/
lemma split_injective (sep : Char) : Function.Injective (split sep) := by
  intro s t h
  rw [split_eq_splitOn, split_eq_splitOn] at h
  have parts : s.toList.splitOn sep = t.toList.splitOn sep :=
    List.map_injective_iff.2 (fun _ _ => String.ofList_inj.1) h
  have same := congrArg [sep].intercalate parts
  rw [List.intercalate_splitOn, List.intercalate_splitOn] at same
  exact String.toList_inj.1 same

end QueryRecipe.Text
