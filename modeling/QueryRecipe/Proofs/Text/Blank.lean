import Mathlib.Data.List.TakeWhile
import Mathlib.Tactic.Common
import QueryRecipe.Text.Blank

/-!
# Blank texts and trimming

To trim a text that has been trimmed changes nothing (`trim_trim`), and nothing is left of a text if and
only if there are blanks only in it (`trim_eq_empty_iff`). A text is tidy if it is trimmed and not blank,
that is, if a character that is not blank stands at each of its ends (`tidy_iff`).
-/

namespace QueryRecipe.Text

/-- Whether there are blanks only in a string. -/
def Blank (s : String) : Prop :=
  ∀ c ∈ s.toList, isBlank c = true

/-- Nothing is left of a text exactly if it has blanks only. -/
lemma trimBoth_eq_nil_iff {s : List Char} : trimBoth s = [] ↔ ∀ c ∈ s, isBlank c = true := by
  have inner : trimBoth s = [] ↔ ∀ c ∈ trimStart s, isBlank c = true := by
    simp [trimBoth, trimEnd, List.dropWhile_eq_nil_iff]
  rw [inner]
  constructor
  · intro h c mem
    rw [← List.takeWhile_append_dropWhile (p := isBlank) (l := s), List.mem_append] at mem
    cases mem with
    | inl mem => exact List.all_eq_true.1 List.all_takeWhile c mem
    | inr mem => exact h c mem
  · intro h c mem
    exact h c ((List.dropWhile_sublist isBlank).subset mem)

/-- There is no blank at the start of a text that is trimmed there. -/
lemma head?_trimStart {s c} (h : c ∈ (trimStart s).head?) : isBlank c = false := by
  have first := List.head?_dropWhile_not isBlank s
  rw [trimStart] at h
  rw [h] at first
  exact first

/-- A text trimmed at its start begins with what stands behind its first blanks. -/
lemma head?_trimStart_iff {s : List Char} {c : Char} (ink : isBlank c = false) :
    (trimStart s).head? = some c ↔
      ∃ blanks, (∀ b ∈ blanks, isBlank b = true) ∧ blanks ++ [c] <+: s := by
  constructor
  · intro first
    obtain ⟨r, rest⟩ := List.head?_eq_some_iff.1 first
    refine ⟨s.takeWhile isBlank, fun b => List.mem_takeWhile_imp, r, ?_⟩
    rw [List.append_assoc, List.singleton_append, ← rest]
    exact List.takeWhile_append_dropWhile
  · rintro ⟨blanks, blank, r, rfl⟩
    rw [trimStart, List.append_assoc, List.dropWhile_append_of_pos blank]
    simp [ink]

/-- A text without a blank at its start is not trimmed there. -/
lemma trimStart_eq_self {s} (h : ∀ c ∈ s.head?, isBlank c = false) : trimStart s = s := by
  cases s with
  | nil => rfl
  | cons c r => simp [trimStart, h c rfl]

/-- Trimming at the end leaves the start. -/
lemma trimEnd_prefix (s : List Char) : trimEnd s <+: s := by
  rw [trimEnd, ← List.reverse_suffix, List.reverse_reverse]
  exact List.dropWhile_suffix isBlank

/-- No blank stands at the start of a trimmed text. -/
lemma head?_trimBoth {s c} (h : c ∈ (trimBoth s).head?) : isBlank c = false := by
  obtain ⟨r, e⟩ := trimEnd_prefix (trimStart s)
  have first : c ∈ (trimStart s).head? := by
    rw [← e, List.head?_append, show (trimEnd (trimStart s)).head? = some c from h]
    rfl
  exact head?_trimStart first

/-- No blank stands at the end of a trimmed text. -/
lemma getLast?_trimBoth {s c} (h : c ∈ (trimBoth s).getLast?) : isBlank c = false := by
  rw [trimBoth, trimEnd, List.getLast?_reverse] at h
  exact head?_trimStart h

/-- A trimmed text is not trimmed further. -/
lemma trimBoth_trimBoth (s : List Char) : trimBoth (trimBoth s) = trimBoth s := by
  have start : trimStart (trimBoth s) = trimBoth s :=
    trimStart_eq_self fun _ => head?_trimBoth
  have back : (trimBoth s).reverse = trimStart (trimStart s).reverse := by
    simp [trimBoth, trimEnd, trimStart]
  rw [trimBoth, start, trimEnd, back]
  rw [← trimStart, trimStart_eq_self fun _ => head?_trimStart, ← back, List.reverse_reverse]

/-- Blanks around a text are trimmed with it. -/
lemma trimBoth_padded {before s after : List Char} (hb : ∀ c ∈ before, isBlank c = true)
    (ha : ∀ c ∈ after, isBlank c = true) : trimBoth (before ++ s ++ after) = trimBoth s := by
  have start : trimStart (before ++ s ++ after) = trimStart (s ++ after) := by
    rw [trimStart, List.append_assoc, List.dropWhile_append_of_pos hb, trimStart]
  have back (l : List Char) : trimEnd (l ++ after) = trimEnd l := by
    rw [trimEnd, List.reverse_append, List.dropWhile_append_of_pos (by simpa using ha), trimEnd]
  by_cases blank : ∀ c ∈ s, isBlank c = true
  · rw [trimBoth_eq_nil_iff.2 blank, trimBoth_eq_nil_iff]
    exact List.forall_mem_append.2 ⟨List.forall_mem_append.2 ⟨hb, blank⟩, ha⟩
  · have something : trimStart s ≠ [] := mt List.dropWhile_eq_nil_iff.1 (by simpa using blank)
    have rest : trimStart (s ++ after) = trimStart s ++ after := by
      rw [trimStart, List.dropWhile_append, if_neg (by simpa [trimStart] using something), trimStart]
    rw [trimBoth, start, rest, back, trimBoth]

/-- A trimmed string is not trimmed further. -/
@[simp]
lemma trim_trim (s : String) : trim (trim s) = trim s := by
  simp [trim, trimBoth_trimBoth]

/-- Nothing is left of a string exactly if it is blank. -/
lemma trim_eq_empty_iff {s : String} : trim s = "" ↔ Blank s := by
  rw [Blank, ← trimBoth_eq_nil_iff, trim, ← String.toList_inj]
  simp

/-- There is something left of a string exactly if it is not blank. -/
lemma nonblank?_isSome {s : String} : (∃ t, nonblank? s = some t) ↔ ¬ Blank s := by
  rw [← trim_eq_empty_iff, ← nonblank?_eq_none_iff, ← ne_eq, Option.ne_none_iff_exists']

/-- Something is left of a list exactly if one of it is not blank. -/
lemma nonblanks_ne_nil_iff {xs : List String} : nonblanks xs ≠ [] ↔ ∃ x ∈ xs, ¬ Blank x := by
  simp only [nonblanks, ne_eq, List.filterMap_eq_nil_iff, nonblank?_eq_none_iff, trim_eq_empty_iff,
    not_forall, exists_prop]

/-- A name as it is kept: trimmed, and not blank. -/
structure Tidy (s : String) : Prop where
  trimmed : trim s = s
  present : ¬ Blank s

/-- What is left of a text that is not blank is tidy. -/
lemma tidy_of_nonblank? {s t : String} (h : nonblank? s = some t) : Tidy t := by
  obtain ⟨rfl, ne⟩ := nonblank?_eq_some_iff.1 h
  refine ⟨trim_trim s, fun blank => ne ?_⟩
  rw [← trim_trim, trim_eq_empty_iff.2 blank]

/-- What is left of the texts of a list is tidy. -/
lemma tidy_of_mem_nonblanks {xs : List String} {x} (h : x ∈ nonblanks xs) : Tidy x := by
  obtain ⟨y, -, present⟩ := List.mem_filterMap.1 h
  exact tidy_of_nonblank? present

/-- Tidy texts are kept as they are. -/
lemma nonblanks_eq_self {xs : List String} (tidy : ∀ x ∈ xs, Tidy x) : nonblanks xs = xs := by
  induction xs with
  | nil => rfl
  | cons x xs ih =>
    obtain ⟨⟨trimmed, present⟩, later⟩ := List.forall_mem_cons.1 tidy
    have something : x ≠ "" := by
      rwa [← trim_eq_empty_iff, trimmed] at present
    have kept : nonblank? x = some x := nonblank?_eq_some_iff.2 ⟨trimmed, something⟩
    rw [nonblanks, List.filterMap_cons_some kept, ← nonblanks, ih later]

/-- A text is tidy exactly if it begins and ends with characters that are not blank. -/
lemma tidy_iff {s : String} : Tidy s ↔
    (∃ c ∈ s.toList.head?, isBlank c = false) ∧ ∃ c ∈ s.toList.getLast?, isBlank c = false := by
  constructor
  · rintro ⟨trimmed, present⟩
    have same : trimBoth s.toList = s.toList := by
      rw [← String.toList_inj, trim, String.toList_ofList] at trimmed
      exact trimmed
    have ne : s.toList ≠ [] := by
      intro none
      apply present
      simp [Blank, none]
    obtain ⟨c, first⟩ := Option.ne_none_iff_exists'.1 (mt List.head?_eq_none_iff.1 ne)
    obtain ⟨l, last⟩ := Option.ne_none_iff_exists'.1 (mt List.getLast?_eq_none_iff.1 ne)
    refine ⟨⟨c, first, ?_⟩, l, last, ?_⟩
    · exact head?_trimBoth (s := s.toList) (same.symm ▸ first)
    · exact getLast?_trimBoth (s := s.toList) (same.symm ▸ last)
  · rintro ⟨⟨c, first, hc⟩, l, last, hl⟩
    have start : trimStart s.toList = s.toList := by
      refine trimStart_eq_self fun a mem => ?_
      rw [show a = c from Option.mem_unique mem first]
      exact hc
    have back : trimStart s.toList.reverse = s.toList.reverse := by
      refine trimStart_eq_self fun a mem => ?_
      rw [List.head?_reverse] at mem
      rw [show a = l from Option.mem_unique mem last]
      exact hl
    refine ⟨?_, fun blank => ?_⟩
    · rw [trim, trimBoth, start, trimEnd, ← trimStart, back, List.reverse_reverse]
      exact String.ofList_toList
    · have blank' := blank c (List.mem_of_mem_head? first)
      rw [hc] at blank'
      cases blank'

/-- Tidy texts may be put together with anything between. -/
lemma Tidy.append {a b : String} (between : String) (ha : Tidy a) (hb : Tidy b) :
    Tidy (a ++ between ++ b) := by
  obtain ⟨⟨c, first, hc⟩, -⟩ := tidy_iff.1 ha
  obtain ⟨-, l, last, hl⟩ := tidy_iff.1 hb
  refine tidy_iff.2 ⟨⟨c, ?_, hc⟩, l, ?_, hl⟩
  · simp [List.head?_append, show a.toList.head? = some c from first]
  · simp [List.getLast?_append, show b.toList.getLast? = some l from last]

end QueryRecipe.Text
