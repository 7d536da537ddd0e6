import Mathlib.Data.List.Basic
import Mathlib.Tactic.Common
import QueryRecipe.Proofs.Text.Blank
import QueryRecipe.Screening

/-!
# Texts without keywords

A text is free of keywords if none of them counts at any place of it (`Keyword.Free`), which is what the
search for the first keyword finds out (`Keyword.find?_eq_none_iff_free`). Where a keyword counts can also
be said of the whole text (`Keyword.Occurs`), and comes to the same (`Keyword.free_iff`).
-/

namespace QueryRecipe

open Text (isBlank isWord)

namespace Keyword

/-- Whether none of the keywords counts anywhere in a text. -/
def Free (ks : List Keyword) (s : List Char) : Prop :=
  ∀ k ∈ ks, ∀ pre post, s = pre ++ post → k.startsAt pre.getLast? post = false

/-- Whether a keyword counts somewhere in a text. -/
def Occurs (k : Keyword) (s : List Char) : Prop :=
  match k.place with
  | .anywhere => k.word.toList <:+: s
  | .beforeParenthesis =>
    ∃ blanks, (∀ c ∈ blanks, isBlank c = true) ∧ k.word.toList ++ blanks ++ ['('] <:+: s
  | .atWordStart =>
    ∃ pre post, s = pre ++ k.word.toList ++ post ∧ ∀ c ∈ pre.getLast?, isWord c = false

section Search
variable {ks : List Keyword} {before : Option Char} {s : List Char}

/-- No keyword is found at the end if none starts there. -/
lemma find?_nil : find? ks before [] = none ↔ ∀ k ∈ ks, k.startsAt before [] = false := by
  rw [find?.eq_def]
  cases e : ks.find? (startsAt before []) with
  | none => simpa using e
  | some k => simpa using ⟨k, List.mem_of_find?_eq_some e, List.find?_some e⟩

/-- No keyword is found in a text if none starts at its first character and none is found behind it. -/
lemma find?_cons {c : Char} : find? ks before (c :: s) = none ↔
    (∀ k ∈ ks, k.startsAt before (c :: s) = false) ∧ find? ks (some c) s = none := by
  rw [find?.eq_def]
  cases e : ks.find? (startsAt before (c :: s)) with
  | none => simpa using fun _ => by simpa using e
  | some k =>
    simpa using fun h => absurd (h k (List.mem_of_find?_eq_some e)) (by simp [List.find?_some e])

/-- The search finds nothing if no keyword counts at any place, the first one standing after the
character `before`. -/
lemma find?_eq_none_iff : find? ks before s = none ↔
    ∀ k ∈ ks, ∀ pre post, s = pre ++ post → k.startsAt (pre.getLast? <|> before) post = false := by
  induction s generalizing before with
  | nil =>
    rw [find?_nil]
    constructor
    · intro h k mem pre post e
      obtain ⟨rfl, rfl⟩ := List.nil_eq_append_iff.1 e
      exact h k mem
    · exact fun h k mem => h k mem [] [] rfl
  | cons c s ih =>
    have last (c : Char) (pre : List Char) :
        ((c :: pre).getLast? <|> before) = (pre.getLast? <|> some c) := by
      rw [List.getLast?_cons]
      cases pre.getLast? <;> rfl
    rw [find?_cons, ih]
    constructor
    · rintro ⟨here, later⟩ k mem pre post e
      cases pre with
      | nil =>
        rw [List.nil_append] at e
        exact e ▸ here k mem
      | cons c' pre =>
        obtain ⟨rfl, rfl⟩ := List.cons.inj e
        rw [last]
        exact later k mem pre post rfl
    · intro h
      refine ⟨fun k mem => h k mem [] _ rfl, fun k mem pre post e => ?_⟩
      rw [← last]
      exact h k mem (c :: pre) post (by rw [e, List.cons_append])

/-- No keyword is found in a text exactly if it is free of them. -/
lemma find?_eq_none_iff_free : find? ks none s = none ↔ Free ks s := by
  simp [find?_eq_none_iff, Free]

end Search

section Occurs
variable {k : Keyword} {s : List Char}

/-- A text starts with a keyword and a parenthesis, perhaps with blanks between, exactly if the keyword
counts there for this. -/
lemma prefix_blanks_iff {w post : List Char} :
    (w <+: post ∧ (Text.trimStart (post.drop w.length)).head? = some '(') ↔
      ∃ blanks, (∀ c ∈ blanks, isBlank c = true) ∧ w ++ blanks ++ ['('] <+: post := by
  constructor
  · rintro ⟨⟨r, rfl⟩, first⟩
    rw [List.drop_left, Text.head?_trimStart_iff (by decide)] at first
    obtain ⟨blanks, blank, r', rfl⟩ := first
    exact ⟨blanks, blank, r', by simp⟩
  · rintro ⟨blanks, blank, r, rfl⟩
    refine ⟨⟨blanks ++ ['('] ++ r, by simp⟩, ?_⟩
    rw [List.append_assoc, List.append_assoc, List.drop_left, Text.head?_trimStart_iff (by decide)]
    exact ⟨blanks, blank, r, by simp⟩

/-- A keyword counts somewhere in a text exactly if it counts at one of its places. -/
lemma occurs_iff : k.Occurs s ↔ ∃ pre post, s = pre ++ post ∧ k.startsAt pre.getLast? post = true := by
  obtain ⟨word, place⟩ := k
  cases place with
  | anywhere =>
    simp only [Occurs, startsAt, Bool.and_true, List.isPrefixOf_iff_prefix]
    constructor
    · rintro ⟨pre, post, rfl⟩
      exact ⟨pre, word.toList ++ post, by simp, List.prefix_append _ _⟩
    · rintro ⟨pre, post, rfl, here⟩
      exact here.isInfix.trans (List.suffix_append _ _).isInfix
  | beforeParenthesis =>
    simp only [Occurs, startsAt, Bool.and_eq_true, decide_eq_true_iff, List.isPrefixOf_iff_prefix,
      prefix_blanks_iff]
    constructor
    · rintro ⟨blanks, blank, pre, post, rfl⟩
      exact ⟨pre, word.toList ++ blanks ++ ['('] ++ post, by simp, blanks, blank,
        List.prefix_append _ _⟩
    · rintro ⟨pre, post, rfl, blanks, blank, here⟩
      exact ⟨blanks, blank, here.isInfix.trans (List.suffix_append _ _).isInfix⟩
  | atWordStart =>
    have apart (o : Option Char) : (!o.any isWord) = true ↔ ∀ c ∈ o, isWord c = false := by
      cases o <;> simp
    simp only [Occurs, startsAt, Bool.and_eq_true, List.isPrefixOf_iff_prefix, apart]
    constructor
    · rintro ⟨pre, post, rfl, first⟩
      exact ⟨pre, word.toList ++ post, by simp, List.prefix_append _ _, first⟩
    · rintro ⟨pre, _, rfl, ⟨post, rfl⟩, first⟩
      exact ⟨pre, post, by simp, first⟩

/-- A text is free of keywords exactly if none of them counts somewhere in it. -/
lemma free_iff {ks : List Keyword} : Free ks s ↔ ∀ k ∈ ks, ¬ k.Occurs s := by
  refine forall₂_congr fun k _ => ?_
  rw [occurs_iff]
  simp

end Occurs

end Keyword

end QueryRecipe
