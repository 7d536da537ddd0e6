import Mathlib.Data.List.Find
import QueryRecipe.Proofs.Screening.Keywords
import QueryRecipe.Proofs.Text.LetterCase

/-!
# The language of screened expressions

The expressions that screening accepts, said without its checks and their order (`Screening.Admissible`):
no marks and backslashes, quoted runs that are closed, and none of the forbidden words in the upper case
of the text. Screening accepts exactly these (`Screening.screen_language`), also when the letters are
written in the other case or blanks stand around the text.

Inside a run a doubled delimiter is read like the end of the run and the start of another one
(`Screening.quoteFlaw?_close`), so a text may be cut into runs in more than one way, and it does not matter
in which.
-/

namespace QueryRecipe

open Text (Blank isBlank isWord)

namespace Screening

/-- The delimiters of quoted runs. -/
def delimiters : List Char :=
  ['\'', '"', '`']

/-- A text in which a delimiter stands only doubled. -/
inductive Doubled (q : Char) : List Char → Prop
  | nil : Doubled q []
  | other {c r} (ne : c ≠ q) (rest : Doubled q r) : Doubled q (c :: r)
  | pair {r} (rest : Doubled q r) : Doubled q (q :: q :: r)

/-- A text that is made of plain characters and closed quoted runs. -/
inductive Quoted : List Char → Prop
  | nil : Quoted []
  | plain {c r} (plain : c ∉ '$' :: delimiters) (rest : Quoted r) : Quoted (c :: r)
  | run {q body r} (quote : q ∈ delimiters) (inside : Doubled q body) (rest : Quoted r) :
      Quoted (q :: body ++ q :: r)

/-- The words that are forbidden anywhere. -/
def words : List String :=
  ["SELECT", "INSERT", "UPDATE", "DELETE", "DROP", "CREATE", "ALTER", "TRUNCATE", "UNION", "INTERSECT",
    "EXCEPT", "EXEC", "GRANT", "REVOKE", "INFORMATION_SCHEMA", "WAITFOR", "DELAY", "SHUTDOWN", "PG_",
    "MYSQL."]

/-- Whether a text is in the language of screened expressions. -/
structure Admissible (x : List Char) : Prop where
  present : x ≠ []
  unmarked : ∀ m ∈ ["--", "/*", "*/", ";"], ¬ m.toList <:+: x
  backslash : '\\' ∉ x
  quoted : Quoted x
  words : ∀ w ∈ words, ¬ w.toList <:+: Text.upperChars x
  calls : ∀ w ∈ ["SLEEP", "BENCHMARK"], ∀ blanks, (∀ c ∈ blanks, isBlank c = true) →
    ¬ w.toList ++ blanks ++ ['('] <:+: Text.upperChars x
  procedures : ∀ w ∈ ["XP_", "SP_"], ∀ pre post, Text.upperChars x = pre ++ w.toList ++ post →
    ∃ c ∈ pre.getLast?, isWord c = true

section Quotes
variable {q c : Char} {r : List Char}

/-- The three delimiters are quotes. -/
lemma isQuote_iff : isQuote c = true ↔ c ∈ delimiters := by
  simp [isQuote, delimiters, or_assoc]

/-- A delimiter in its own run ends the run, or it is the first of two: the second one then opens a run
again. -/
lemma quoteFlaw?_close (quote : isQuote q = true) :
    quoteFlaw? (some q) (q :: r) = quoteFlaw? none r := by
  cases r with
  | nil => simp [quoteFlaw?]
  | cons d r =>
    by_cases e : d = q
    · subst e
      simp [quoteFlaw?, quote]
    · simp [quoteFlaw?, e]

/-- Other characters in a run are passed over. -/
lemma quoteFlaw?_inside (ne : c ≠ q) :
    quoteFlaw? (some q) (c :: r) = quoteFlaw? (some q) r := by
  cases r <;> simp [quoteFlaw?, ne]

/-- A quote opens a run. -/
lemma quoteFlaw?_open (quote : isQuote q = true) :
    quoteFlaw? none (q :: r) = quoteFlaw? (some q) r := by
  simp [quoteFlaw?, quote]

/-- Outside runs a plain character is passed over. -/
lemma quoteFlaw?_plain (plain : c ∉ '$' :: delimiters) :
    quoteFlaw? none (c :: r) = quoteFlaw? none r := by
  obtain ⟨dollar, quote⟩ := List.ne_and_not_mem_of_not_mem_cons plain
  rw [← isQuote_iff] at quote
  simp [quoteFlaw?, dollar, quote]

/-- In a run whose delimiter is only doubled the rest counts as after the run. -/
lemma quoteFlaw?_run {body : List Char} (quote : isQuote q = true) (inside : Doubled q body) :
    quoteFlaw? (some q) (body ++ q :: r) = quoteFlaw? none r := by
  induction inside with
  | nil => exact quoteFlaw?_close quote
  | other ne _ ih => rw [List.cons_append, quoteFlaw?_inside ne, ih]
  | pair _ ih => rw [List.cons_append, List.cons_append, quoteFlaw?_close quote, quoteFlaw?_open quote, ih]

/-- A run in which screening finds nothing wrong is closed, and nothing is wrong after it. -/
lemma exists_run {s : List Char} (quote : isQuote q = true) (h : quoteFlaw? (some q) s = none) :
    ∃ body r, s = body ++ q :: r ∧ q ∉ body ∧ quoteFlaw? none r = none := by
  induction s with
  | nil => cases h
  | cons c s ih =>
    by_cases e : c = q
    · subst e
      -- cut at its first delimiter, also when this one is doubled
      rw [quoteFlaw?_close quote] at h
      exact ⟨[], s, rfl, List.not_mem_nil, h⟩
    · rw [quoteFlaw?_inside e] at h
      obtain ⟨body, r, rfl, first, fine⟩ := ih h
      exact ⟨c :: body, r, rfl, by simp [Ne.symm e, first], fine⟩

/-- What can be wrong with quotes is a dollar sign or a run that is not closed. -/
lemma quoteFlaw?_cases {o : Option Char} {s : List Char} {f : Flaw} (h : quoteFlaw? o s = some f) :
    f = .dollar ∨ ∃ q, f = .unbalanced q := by
  fun_induction quoteFlaw? o s with
  | case1 => cases h
  | case2 q =>
    cases h
    exact .inr ⟨q, rfl⟩
  | case3 c r quote ih => exact ih h
  | case4 =>
    cases h
    exact .inl rfl
  | case5 c r quote dollar ih => exact ih h
  | case6 => cases h
  | case7 q =>
    cases h
    exact .inr ⟨q, rfl⟩
  | case8 q r ih => exact ih h
  | case9 q d r ne ih => exact ih h
  | case10 q c d r ne ih => exact ih h

/-- In a body without the quote there is nothing to double. -/
lemma doubled_of_not_mem {body : List Char} (h : q ∉ body) : Doubled q body := by
  induction body with
  | nil => exact .nil
  | cons c body ih =>
    obtain ⟨ne, later⟩ := List.ne_and_not_mem_of_not_mem_cons h
    exact .other (Ne.symm ne) (ih later)

/-- Nothing is wrong with the quotes of a text exactly if it is made of plain characters and closed runs. -/
lemma quoteFlaw?_eq_none_iff {s : List Char} : quoteFlaw? none s = none ↔ Quoted s := by
  constructor
  · intro h
    induction hn : s.length using Nat.strongRecOn generalizing s with
    | _ n ih =>
      subst hn
      cases s with
      | nil => exact .nil
      | cons c r =>
        by_cases quote : isQuote c = true
        · rw [quoteFlaw?_open quote] at h
          obtain ⟨body, r, rfl, first, fine⟩ := exists_run quote h
          exact .run (isQuote_iff.1 quote) (doubled_of_not_mem first)
            (ih r.length (by simp; omega) fine rfl)
        · have plain : c ∉ '$' :: delimiters := by
            refine List.not_mem_cons_of_ne_of_not_mem ?_ (mt isQuote_iff.2 quote)
            rintro rfl
            simp [quoteFlaw?, isQuote] at h
          rw [quoteFlaw?_plain plain] at h
          exact .plain plain (ih r.length (by simp) h rfl)
  · intro h
    induction h with
    | nil => rfl
    | plain plain _ ih => rwa [quoteFlaw?_plain plain]
    | run quote inside _ ih =>
      rw [← isQuote_iff] at quote
      rwa [List.cons_append, quoteFlaw?_open quote, quoteFlaw?_run quote inside]

end Quotes

section Flaw
variable {s : List Char}

/-- The forbidden keywords, by the place where they are forbidden. -/
lemma forbidden_eq : Keyword.forbidden = words.map (⟨·, .anywhere⟩) ++
    (["SLEEP", "BENCHMARK"].map (⟨·, .beforeParenthesis⟩) ++
      ["XP_", "SP_"].map (⟨·, .atWordStart⟩)) := rfl

/-- A text is free of forbidden keywords exactly if it has none of the words, calls and procedures. -/
lemma free_forbidden_iff : Keyword.Free Keyword.forbidden s ↔
    (∀ w ∈ words, ¬ w.toList <:+: s) ∧
      (∀ w ∈ ["SLEEP", "BENCHMARK"], ∀ blanks, (∀ c ∈ blanks, isBlank c = true) →
        ¬ w.toList ++ blanks ++ ['('] <:+: s) ∧
      ∀ w ∈ ["XP_", "SP_"], ∀ pre post, s = pre ++ w.toList ++ post →
        ∃ c ∈ pre.getLast?, isWord c = true := by
  rw [Keyword.free_iff, forbidden_eq, List.forall_mem_append, List.forall_mem_append,
    List.forall_mem_map, List.forall_mem_map, List.forall_mem_map]
  simp only [Keyword.Occurs, not_exists, not_and, not_forall, Bool.not_eq_false, exists_prop]

/-- Keywords that read or change data are forbidden with and without a parenthesis. -/
lemma find?_dml (h : Keyword.find? Keyword.forbidden none s = none) :
    Keyword.find? Keyword.dml none s = none := by
  rw [Keyword.find?_eq_none_iff_free] at h ⊢
  exact fun k mem => h k (List.mem_append_left _ (List.mem_append_left _ mem))

/-- Nothing is wrong with a text exactly if each of the checks finds nothing. The search for a parenthesis
with a keyword that reads or changes data finds nothing more. -/
lemma flaw?_eq_none_iff : flaw? s = none ↔ s ≠ [] ∧ (∀ m ∈ markers, ¬ m.toList <:+: s) ∧ '\\' ∉ s ∧
    quoteFlaw? none s = none ∧ Keyword.find? Keyword.forbidden none (Text.upperChars s) = none := by
  have unmarked : (∀ m ∈ markers, ¬ m.toList <:+: s) ↔
      (markers.find? fun m => Text.occursIn m.toList s) = none := by
    simp [List.find?_eq_none, ← Text.occursIn_iff_infix]
  rw [unmarked, flaw?]
  split
  next empty => simp [empty]
  next present =>
    split
    next m marked => simp [marked]
    next unmarked =>
      have unmarked := Option.eq_none_iff_forall_ne_some.2 unmarked
      split
      next backslash =>
        have escaped : '\\' ∈ s := by simpa using backslash
        simp [escaped]
      next backslash =>
        have bare : '\\' ∉ s := by simpa using backslash
        split
        next f unclosed => simp [unclosed]
        next closed =>
          have closed := Option.eq_none_iff_forall_ne_some.2 closed
          split
          next subquery =>
            refine iff_of_false nofun ?_
            rintro ⟨-, -, -, -, free⟩
            simp [find?_dml free] at subquery
          next => simp [present, unmarked, bare, closed]

/-- Nothing is wrong with a text exactly if it is in the language. -/
lemma flaw?_eq_none_iff_admissible : flaw? s = none ↔ Admissible s := by
  rw [flaw?_eq_none_iff, quoteFlaw?_eq_none_iff, Keyword.find?_eq_none_iff_free, free_forbidden_iff]
  constructor
  · rintro ⟨present, unmarked, backslash, quoted, words, calls, procedures⟩
    exact ⟨present, unmarked, backslash, quoted, words, calls, procedures⟩
  · rintro ⟨present, unmarked, backslash, quoted, words, calls, procedures⟩
    exact ⟨present, unmarked, backslash, quoted, words, calls, procedures⟩

/-- What is reported as a subquery has a forbidden keyword in it in any case. -/
lemma keyword_of_subquery (h : flaw? s = some .subquery) :
    ∃ k, Keyword.find? Keyword.forbidden none (Text.upperChars s) = some k := by
  rw [← Option.ne_none_iff_exists']
  intro free
  rw [flaw?, find?_dml free, free] at h
  split at h
  · cases h
  split at h
  · cases h
  split at h
  · cases h
  split at h
  next f flawed =>
    cases h
    cases quoteFlaw?_cases flawed with
    | inl dollar => cases dollar
    | inr unclosed =>
      obtain ⟨q, ⟨⟩⟩ := unclosed
  next => simp at h

/-- The letter case of basic letters has no part in where quotes open and close. -/
lemma quoteFlaw?_map_toUpper {o : Option Char} (quotes : ∀ q ∈ o, isQuote q = true) :
    quoteFlaw? o (s.map Char.toUpper) = quoteFlaw? o s := by
  have letterless : ∀ q ∈ '$' :: delimiters, q.isAlpha = false ∧ q.toUpper = q :=
    List.forall_iff_forall_mem.1 (by decide)
  induction s generalizing o with
  | nil => rfl
  | cons c s ih =>
    rw [List.map_cons]
    cases o with
    | none =>
      by_cases special : c ∈ '$' :: delimiters
      · rw [(letterless c special).2]
        cases List.mem_cons.1 special with
        | inl dollar => simp [dollar, quoteFlaw?, isQuote]
        | inr quote =>
          rw [← isQuote_iff] at quote
          rw [quoteFlaw?_open quote, quoteFlaw?_open quote, ih (by simpa using quote)]
      · have special' : c.toUpper ∉ '$' :: delimiters := fun mem =>
          special ((Text.toUpper_eq_iff (letterless _ mem).1).1 rfl ▸ mem)
        rw [quoteFlaw?_plain special, quoteFlaw?_plain special', ih (by simp)]
    | some q =>
      have quote : isQuote q = true := quotes q rfl
      have fixed := letterless q (List.mem_cons_of_mem _ (isQuote_iff.1 quote))
      by_cases close : c = q
      · rw [close, fixed.2, quoteFlaw?_close quote, quoteFlaw?_close quote, ih (by simp)]
      · rw [quoteFlaw?_inside close, quoteFlaw?_inside (mt (Text.toUpper_eq_iff fixed.1).1 close),
          ih quotes]

/-- The letter case of basic letters has no part in what is wrong with a text. -/
lemma flaw?_map_toUpper (s : List Char) : flaw? (s.map Char.toUpper) = flaw? s := by
  have marks : (markers.find? fun m => Text.occursIn m.toList (s.map Char.toUpper)) =
      markers.find? fun m => Text.occursIn m.toList s := by
    have letterless : ∀ m ∈ markers, m.toList.Forall fun a => a.isAlpha = false := by decide
    refine List.find?_congr fun m mem => ?_
    exact Text.occursIn_map_toUpper (List.forall_iff_forall_mem.1 (letterless m mem)) s
  have quotes : quoteFlaw? none (s.map Char.toUpper) = quoteFlaw? none s :=
    quoteFlaw?_map_toUpper (by simp)
  have backslash : (s.map Char.toUpper).contains '\\' = s.contains '\\' :=
    Text.contains_map_toUpper (by decide) s
  have parenthesis : (s.map Char.toUpper).contains '(' = s.contains '(' :=
    Text.contains_map_toUpper (by decide) s
  simp only [flaw?, List.map_eq_nil_iff, marks, backslash, quotes, parenthesis,
    Text.upperChars_map_toUpper]

/-- Blanks around a text and the case of its basic letters have no part in what is wrong with it. -/
lemma flaw?_padded {before after e e' : String} (hb : Blank before) (ha : Blank after)
    (alike : e.toList.map Char.toUpper = e'.toList.map Char.toUpper) :
    flaw? (Text.trim (before ++ e' ++ after)).toList = flaw? (Text.trim e).toList := by
  have trimmed : (Text.trim (before ++ e' ++ after)).toList = Text.trimBoth e'.toList := by
    simp only [Text.trim, String.toList_ofList, String.toList_append, Text.trimBoth_padded hb ha]
  have capitals : (Text.trimBoth e'.toList).map Char.toUpper =
      (Text.trim e).toList.map Char.toUpper := by
    rw [← Text.trimBoth_map_toUpper, ← alike, Text.trimBoth_map_toUpper, Text.trim,
      String.toList_ofList]
  rw [trimmed, ← flaw?_map_toUpper, capitals, flaw?_map_toUpper]

end Flaw

/-- Whether a text is rejected for a reason. -/
def Rejects (f : Flaw) (e : String) : Prop :=
  ∃ shown, screen e = .error (.expression shown f)

/-- An expression is rejected for the flaw that its trimmed text has. -/
lemma rejects_iff {f : Flaw} {e : String} : Rejects f e ↔ flaw? (Text.trim e).toList = some f := by
  rw [Rejects, screen]
  split
  next fine => simp [fine]
  next empty => simp [empty, eq_comm]
  next f' _ flawed => simp [flawed, eq_comm]

/-- An expression is accepted if its trimmed text has no flaw. -/
lemma isOk_screen {e : String} :
    (screen e).isOk = true ↔ flaw? (Text.trim e).toList = none := by
  rw [screen]
  split
  next fine => simp [fine, Except.isOk, Except.toBool]
  next empty => simp [empty, Except.isOk, Except.toBool]
  next f' _ flawed => simp [flawed, Except.isOk, Except.toBool]

/-- Screening accepts exactly the trimmed texts in the language, and what it returns it accepts again as it
is. Neither the case of basic letters nor blanks around a text play a part in whether and why it is
rejected. A text that is rejected as a subquery has a forbidden keyword in any case. -/
theorem screen_language (e : String) :
    (∀ t, screen e = .ok t ↔ t = Text.trim e ∧ Admissible t.toList) ∧
      (∀ t, screen e = .ok t → screen t = .ok t) ∧
      (∀ before e' after, Blank before → Blank after →
        e.toList.map Char.toUpper = e'.toList.map Char.toUpper →
          (screen (before ++ e' ++ after)).isOk = (screen e).isOk ∧
            ∀ f, Rejects f (before ++ e' ++ after) ↔ Rejects f e) ∧
      (Rejects .subquery e →
        ∃ k, Keyword.find? Keyword.forbidden none (Text.upperChars (Text.trim e).toList) = some k) := by
  refine ⟨fun t => ?_, fun t accepted => ?_, fun before e' after hb ha alike => ?_, fun rejected => ?_⟩
  · rw [screen_eq_ok_iff, flaw?_eq_none_iff_admissible]
  · obtain ⟨rfl, fine⟩ := screen_eq_ok_iff.1 accepted
    exact screen_eq_ok_iff.2 ⟨(Text.trim_trim e).symm, fine⟩
  · have same := flaw?_padded hb ha alike
    refine ⟨?_, fun f => ?_⟩
    · rw [Bool.eq_iff_iff, isOk_screen, isOk_screen, same]
    · rw [rejects_iff, rejects_iff, same]
  · exact keyword_of_subquery (rejects_iff.1 rejected)

/-- A doubled delimiter does not close its run, and a letter that is no basic one may become a basic one in
the upper case. -/
theorem screen_language_doubled :
    (screen "'it''s' || Size" = .ok "'it''s' || Size" ∧ Admissible "'it''s' || Size".toList ∧
      (screen (" " ++ "'IT''S' || size" ++ "\n")).isOk = true) ∧
      Rejects .subquery "(\u017felect 1)" ∧
        ∃ k, Keyword.find? Keyword.forbidden none
          (Text.upperChars (Text.trim "(\u017felect 1)").toList) = some k := by
  have accepted : screen "'it''s' || Size" = .ok "'it''s' || Size" := by decide +kernel
  have rejected : Rejects .subquery "(\u017felect 1)" :=
    ⟨"(\u017felect 1)", by decide +kernel⟩
  obtain ⟨language, -, padded, -⟩ := screen_language "'it''s' || Size"
  obtain ⟨-, -, -, keyword⟩ := screen_language "(\u017felect 1)"
  obtain ⟨same, -⟩ := padded " " "'IT''S' || size" "\n" (by simp [Blank, isBlank])
    (by simp [Blank, isBlank]) (by decide +kernel)
  refine ⟨⟨accepted, ((language _).1 accepted).2, ?_⟩, rejected, keyword rejected⟩
  rw [same, accepted]
  rfl

end Screening

end QueryRecipe
