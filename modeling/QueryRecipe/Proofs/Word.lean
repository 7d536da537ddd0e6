import QueryRecipe.Proofs.Step.Reachable
import QueryRecipe.Proofs.Text.LetterCase

/-!
# How words are spelled

A word means the same or nothing however its basic letters are cased and whatever blanks stand around it,
and an aggregate function is known again by its title and called by a plain name without keywords
(`words_respelled`).
-/

namespace QueryRecipe

open Text (Respelled trim upper lower)

section Respelled
variable {s s' : String}

/-- A text that is a word in one spelling is one in the other. -/
lemma givenWord?_respelled (h : Respelled s s') :
    (givenWord? (some s) = none ∧ givenWord? (some s') = none) ∨
      (givenWord? (some s) = some (trim s) ∧ givenWord? (some s') = some (trim s')) := by
  simp only [givenWord?, Option.bind_some, Text.nonblank?_eq_none_iff, Text.nonblank?_eq_some_iff,
    true_and]
  by_cases blank : trim s = ""
  · exact .inl ⟨blank, h.blank.1 blank⟩
  · exact .inr ⟨blank, mt h.blank.2 blank⟩

/-- A comparison is known by its word, however that is spelled. -/
lemma Comparison.ofText_respelled (h : Respelled s s') :
    (ofText s').toOption = (ofText s).toOption := by
  unfold ofText
  rw [h.lower]
  generalize named? (Text.replace ' ' '_' (lower (trim s'))) = known
  cases known <;> rfl

/-- A direction is known by its word, however that is spelled. -/
lemma Direction.ofText_respelled (h : Respelled s s') :
    (ofText (some s')).toOption = (ofText (some s)).toOption := by
  unfold ofText
  rcases givenWord?_respelled h with ⟨none, none'⟩ | ⟨word, word'⟩
  · simp only [none, none']
  · simp only [word, word', h.upper]
    generalize upper (trim s') = capitals
    split <;> simp only [Except.toOption]

/-- A kind of join is known by its word, however that is spelled. -/
lemma JoinKind.ofText_respelled (h : Respelled s s') :
    (ofText (some s')).toOption = (ofText (some s)).toOption := by
  unfold ofText
  rcases givenWord?_respelled h with ⟨none, none'⟩ | ⟨word, word'⟩
  · simp only [none, none']
  · simp only [word, word', h.upper]
    generalize upper (trim s') = capitals
    split <;> simp only [Except.toOption]

/-- A connective is known by its word, however that is spelled. -/
lemma Connective.ofText_respelled (h : Respelled s s') :
    (ofText (some s')).toOption = (ofText (some s)).toOption := by
  unfold ofText
  rcases givenWord?_respelled h with ⟨none, none'⟩ | ⟨word, word'⟩
  · simp only [none, none']
  · simp only [word, word', h.upper]
    generalize upper (trim s') = capitals
    split <;> simp only [Except.toOption]

end Respelled

namespace Aggregate

section Plain

/-- A letter of an identifier stays one in the other case. -/
lemma isNameStart_toUpper (c : Char) :
    isNameStart c.toUpper = isNameStart c ∧ c.toUpper.isDigit = c.isDigit :=
  Text.toUpper_cases (P := fun c u => isNameStart u = isNameStart c ∧ u.isDigit = c.isDigit)
    (by decide +kernel) (fun _ _ => ⟨rfl, rfl⟩) c

/-- The case of basic letters has no part in what is a plain identifier. -/
lemma isPlainName_map_toUpper (s : List Char) : isPlainName (s.map Char.toUpper) = isPlainName s := by
  cases s with
  | nil => rfl
  | cons c r =>
    simp only [List.map_cons, isPlainName, List.all_map, Function.comp_def, isNameStart_toUpper]

/-- A plain identifier has basic letters only, each with one capital. -/
lemma upperChars_plain {s : List Char} (h : isPlainName s = true) :
    Text.upperChars s = s.map Char.toUpper := by
  have single {c : Char} (kind : isNameStart c = true ∨ c.isDigit = true) :
      Text.upperChar c = [c.toUpper] :=
    if_pos (toNat_lt_of_plain kind)
  have chars : ∀ c ∈ s, Text.upperChar c = [c.toUpper] := by
    cases s with
    | nil => cases h
    | cons c r =>
      simp only [isPlainName, Bool.and_eq_true, List.all_eq_true, Bool.or_eq_true] at h
      exact List.forall_mem_cons.2 ⟨single (.inl h.1), fun d mem => single (h.2 d mem)⟩
  rw [Text.upperChars, List.flatMap_congr chars, ← List.map_eq_flatMap]

end Plain

/-- A word spells a function that every dialect has, or else it is a plain identifier without a forbidden
keyword and names the function itself. -/
lemma ofText_eq_ok_iff {s : String} {f : Aggregate} : ofText (some s) = .ok f ↔
    named? (Text.replace ' ' '_' (lower (trim s))) = some f ∨
      (named? (Text.replace ' ' '_' (lower (trim s))) = none ∧ isPlainName (trim s).toList = true ∧
        Keyword.Free Keyword.forbidden (upper (trim s)).toList ∧ f = .other (upper (trim s))) := by
  have word : (givenWord? (some s)).getD "" = trim s := by
    rw [givenWord?, Option.bind_some]
    cases e : Text.nonblank? s with
    | none => exact (Text.nonblank?_eq_none_iff.1 e).symm
    | some t => exact (Text.nonblank?_eq_some_iff.1 e).1.symm
  rw [ofText, word]
  dsimp only
  generalize named? (Text.replace ' ' '_' (lower (trim s))) = known
  cases known with
  | some g => simp
  | none =>
    dsimp only
    split
    next plain =>
      rw [Bool.and_eq_true, Option.isNone_iff_eq_none, Keyword.find?_eq_none_iff_free] at plain
      refine ⟨fun e => .inr ⟨rfl, plain.1, plain.2, (Except.ok.inj e).symm⟩, ?_⟩
      rintro (e | ⟨-, -, -, rfl⟩)
      · cases e
      · rfl
    next rejected =>
      rw [Bool.and_eq_true, Option.isNone_iff_eq_none, Keyword.find?_eq_none_iff_free] at rejected
      refine iff_of_false (by simp) ?_
      rintro (e | ⟨-, plain, free, -⟩)
      · cases e
      · exact rejected ⟨plain, free⟩

/-- An aggregate is known by its word, however that is spelled. -/
lemma ofText_respelled {s s' : String} (h : Respelled s s') :
    (ofText (some s')).toOption = (ofText (some s)).toOption := by
  have plain : isPlainName (trim s').toList = isPlainName (trim s).toList := by
    rw [← isPlainName_map_toUpper, ← h.trim, isPlainName_map_toUpper]
  ext f
  rw [toOption_eq_some, toOption_eq_some, ofText_eq_ok_iff,
    ofText_eq_ok_iff, plain, h.lower, h.upper]

/-- A word that is left out counts like an empty one. -/
lemma ofText_getD (w : Option String) : ofText (some (w.getD "")) = ofText w := by
  cases w with
  | none =>
    have blank : givenWord? (some "") = none := by decide
    rw [ofText, ofText, Option.getD_none, blank]
    rfl
  | some s => rfl

/-- A function is known again by its title, however it was spelled. -/
lemma ofText_title {w : Option String} {f : Aggregate} (h : ofText w = .ok f) :
    ofText (some f.title) = .ok f := by
  cases f with
  | count | countDistinct | sum | avg | min | max =>
    exact ofText_eq_ok_iff.2 (.inl (by decide +kernel))
  | other name =>
    rw [← ofText_getD] at h
    generalize w.getD "" = s at h
    obtain known | ⟨unknown, plain, free, same⟩ := ofText_eq_ok_iff.1 h
    · exact absurd known named?_ne_other
    · have capitals : name.toList = (trim s).toList.map Char.toUpper := by
        rw [other.inj same, upper, String.toList_ofList, upperChars_plain plain]
      have alike : Respelled (trim s) name :=
        ⟨[], (trim s).toList, [], [], name.toList, [], by simp, by simp, by simp, by simp [capitals]⟩
      have trimmed : ofText (some (trim s)) = .ok (.other name) :=
        ofText_eq_ok_iff.2 (by rw [Text.trim_trim]; exact .inr ⟨unknown, plain, free, same⟩)
      rw [← toOption_eq_some, title, ofText_respelled alike, trimmed]
      rfl

/-- No forbidden keyword occurs in the title of a function, however it was spelled. -/
lemma free_title {w : Option String} {f : Aggregate} (h : ofText w = .ok f) :
    Keyword.Free Keyword.forbidden f.title.toList := by
  cases f with
  | count | countDistinct | sum | avg | min | max =>
    exact Keyword.find?_eq_none_iff_free.1 (by decide +kernel)
  | other name => exact Step.free_of_ofText h

/-- A function is called by its title, apart from the one with two words. -/
lemma text_sql (f : Aggregate) (d : Dialect) (argument : Sql) : (f.sql argument).text d =
    (if f = .countDistinct then "COUNT(DISTINCT " else f.title ++ "(") ++ argument.text d ++ ")" := by
  rw [← String.toList_inj]
  cases f <;> simp [sql, Sql.text, Sql.spelling, Piece.spelling]

end Aggregate

/-- Each kind of word is read as the same thing, or turned down, in every spelling of it. An accepted
aggregate function is read again from its title, and its call begins with that title, which is a name in
capitals without forbidden keywords, or with the words that count each value once. -/
theorem words_respelled :
    (∀ s s', Respelled s s' →
      (Comparison.ofText s').toOption = (Comparison.ofText s).toOption ∧
      (Direction.ofText (some s')).toOption = (Direction.ofText (some s)).toOption ∧
      (JoinKind.ofText (some s')).toOption = (JoinKind.ofText (some s)).toOption ∧
      (Connective.ofText (some s')).toOption = (Connective.ofText (some s)).toOption ∧
      (Aggregate.ofText (some s')).toOption = (Aggregate.ofText (some s)).toOption) ∧
    ∀ (w : Option String) (f : Aggregate), Aggregate.ofText w = .ok f →
      Aggregate.ofText (some f.title) = .ok f ∧
      (f = .countDistinct ∨ IsFunctionName f.title.toList) ∧
      (∀ k ∈ Keyword.forbidden, ¬ k.Occurs f.title.toList) ∧
      ∀ (d : Dialect) (argument : Sql), (f.sql argument).text d =
        (if f = .countDistinct then "COUNT(DISTINCT " else f.title ++ "(") ++
          argument.text d ++ ")" := by
  constructor
  · intro s s' h
    exact ⟨Comparison.ofText_respelled h, Direction.ofText_respelled h, JoinKind.ofText_respelled h,
      Connective.ofText_respelled h, Aggregate.ofText_respelled h⟩
  · intro w f known
    exact ⟨Aggregate.ofText_title known, isFunctionName_of_ofText known,
      Keyword.free_iff.1 (Aggregate.free_title known), f.text_sql⟩

/-- A comparison with a letter beyond the basic ones, and a function that only some dialects have. -/
theorem words_respelled_padded :
    Respelled " Li\u212aE\n" "LI\u212ae" ∧ Comparison.ofText " Li\u212aE\n" = .ok .like ∧
      (Comparison.ofText "LI\u212ae").toOption = some .like ∧
      Aggregate.ofText (some "\tString_agg") = .ok (.other "STRING_AGG") ∧
      Aggregate.ofText (some "STRING_AGG") = .ok (.other "STRING_AGG") := by
  have alike : Respelled " Li\u212aE\n" "LI\u212ae" :=
    ⟨[' '], ['L', 'i', '\u212a', 'E'], ['\n'], [], ['L', 'I', '\u212a', 'e'], [],
      by decide, by decide, List.all_eq_true.1 (by decide), by decide⟩
  have like : Comparison.ofText " Li\u212aE\n" = .ok .like := by decide +kernel
  have known : Aggregate.ofText (some "\tString_agg") = .ok (.other "STRING_AGG") := by
    decide +kernel
  refine ⟨alike, like, ?_, known, (words_respelled.2 _ _ known).1⟩
  rw [(words_respelled.1 _ _ alike).1, like]
  rfl

end QueryRecipe
