import QueryRecipe.Proofs.Lexer.Closed
import QueryRecipe.Proofs.Screening.Language
import QueryRecipe.Screening

/-!
# Containment of screened expressions

A screened expression is written into a statement as it stands, so nothing that it opens may be left
open: what follows it has to be read as if the expression were not there. Screening reads every dialect
in one way, with runs between `'`, `"` and backticks. It overlooks that a backtick delimits nothing in
PostgreSQL, that `#` opens a comment in MySQL and that `[` opens a name in SQLite.

Main statements: an accepted expression is contained if and only if it is closed in the grammar of the
dialect, which it is whenever the dialect's blind spot does not stand outside the quotes
(`screened_contained_iff`); there are accepted expressions that are not contained, in each dialect
(`screened_not_contained`).
-/

namespace QueryRecipe

open Lexer

namespace Screening

/-- The characters that screening reads outside quoted runs, opening delimiters among them. -/
def outer : Option Char → List Char → List Char
  | _, [] => []
  | none, c :: r => c :: outer (if isQuote c then some c else none) r
  | some q, c :: r => outer (if c = q then none else some q) r

/-- The character that a dialect reads in another way than screening does. -/
def blindSpot : Dialect → Char
  | .postgres => '`'
  | .mysql => '#'
  | .sqlite => '['

/-- Whether a text, written after a blank or parenthesis and before a blank, parenthesis or comma, leaves
nothing open, so that what follows is read as if the text were not there. -/
def Contained (d : Dialect) (e : List Char) : Prop :=
  ∀ before ∈ [' ', '('], ∀ after ∈ [' ', ')', ','],
    (scan d .neutral (before :: e)).2.isOpen = false ∧
    ∀ rest, ∃ toks, lex d (before :: e) = some toks ∧
      lex d (before :: e ++ after :: rest) = (lex d (after :: rest)).map (toks ++ ·)

/-- In a text with nothing wrong there are no comment marks and no backslashes. -/
lemma bare_of_flaw {l} (h : flaw? l = none) : Bare l := by
  obtain ⟨-, unmarked, backslash, -⟩ := flaw?_eq_none_iff.1 h
  exact ⟨backslash, unmarked "--" (by decide), unmarked "/*" (by decide)⟩

/-- In a text with nothing wrong the quotes are closed. -/
lemma quotes_of_flaw {l} (h : flaw? l = none) : quoteFlaw? none l = none := by
  obtain ⟨-, -, -, closed, -⟩ := flaw?_eq_none_iff.1 h
  exact closed

/-- Nothing in a closed run stands outside quotes. -/
lemma outer_run {q : Char} {body r : List Char} (first : q ∉ body) :
    outer (some q) (body ++ q :: r) = outer none r := by
  induction body with
  | nil => simp [outer]
  | cons c body ih =>
    rw [List.mem_cons, not_or] at first
    simp [outer, Ne.symm first.1, ih first.2]

/-- The quotes of screening, except for its blind spot, are those of the dialect. -/
lemma quote?_of_isQuote {d c} (quote : isQuote c = true) (ne : c ≠ blindSpot d) :
    ∃ q : Quote, quote? d c = some q ∧ q.opening = c ∧ q.closing = c := by
  simp only [isQuote, Bool.or_eq_true, decide_eq_true_eq] at quote
  rcases quote with (rfl | rfl) | rfl
  · exact ⟨.single, rfl, rfl, rfl⟩
  · exact ⟨.double, rfl, rfl, rfl⟩
  · refine ⟨.back, ?_, rfl, rfl⟩
    cases d with
    | postgres => exact absurd rfl ne
    | mysql | sqlite => rfl

/-- A text in which screening finds all quotes closed is closed in every dialect whose blind spot does
not stand outside quotes. The induction is on the length of the text. -/
lemma closed_of_outer {d w} {s : List Char} (h : quoteFlaw? none s = none)
    (blind : blindSpot d ∉ outer none s) : Closed d w s := by
  induction hn : s.length using Nat.strongRecOn generalizing w s with
  | _ n ih =>
    subst hn
    cases s with
    | nil => exact .nil
    | cons c r =>
      rw [outer, List.mem_cons, not_or] at blind
      obtain ⟨ne, blind⟩ := blind
      cases quote : isQuote c with
      | true =>
        obtain ⟨q, opens, opening, closing⟩ := quote?_of_isQuote quote (Ne.symm ne)
        have inside : quoteFlaw? (some c) r = none := by simpa [quoteFlaw?, quote] using h
        obtain ⟨body, r, rfl, first, fine⟩ := exists_run quote inside
        simp only [quote, if_true, outer_run first] at blind
        -- `r` is shorter by the whole run, hence the induction on the length
        have later : Closed d false r := ih r.length (by simp; omega) fine blind rfl
        have whole := Closed.run (w := w) (opening ▸ opens) (closing ▸ first) later
        rwa [opening, closing] at whole
      | false =>
        have dollar : c ≠ '$' := by
          rintro rfl
          simp [quoteFlaw?, quote] at h
        have fine : quoteFlaw? none r = none := by simpa [quoteFlaw?, quote, dollar] using h
        have none : quote? d c = none := by
          simp only [isQuote, Bool.or_eq_false_iff, decide_eq_false_iff_not] at quote
          have bracket : ¬ (c = '[' ∧ d = .sqlite) := by
            rintro ⟨rfl, rfl⟩
            exact ne rfl
          simp [quote?, quote, bracket]
        have hash : ¬ (c = '#' ∧ d = .mysql) := by
          rintro ⟨rfl, rfl⟩
          exact ne rfl
        refine .plain (by simp [Opens, none, hash, dollar]) (ih r.length (by simp) fine ?_ rfl)
        simpa [quote] using blind

/-- In the mode after a blank or parenthesis a word has not begun. -/
lemma rests_before {d before} (h : before ∈ [' ', '(']) :
    Rests d (step d .neutral before).2 false ∧ pending (step d .neutral before).2 = [] := by
  simp only [List.mem_cons, List.not_mem_nil, or_false] at h
  rcases h with rfl | rfl <;> cases d <;> exact ⟨.neutral, rfl⟩

/-- A bare text is contained if and only if it is closed. -/
lemma contained_iff_closed {d e} (bare : Bare e) : Contained d e ↔ Closed d false e := by
  have scanned {before} (h : before ∈ [' ', '(']) :
      Closed d false e ↔ (scan d .neutral (before :: e)).2.isOpen = false := by
    obtain ⟨rests, none⟩ := rests_before (d := d) h
    exact closed_iff rests (none ▸ bare)
  constructor
  · intro contained
    exact (scanned (List.mem_cons_self)).2 (contained ' ' (by simp) ' ' (by simp)).1
  · intro closed before hb after ha
    have rest := (scanned hb).1 closed
    refine ⟨rest, fun r => ⟨_, lex_eq_some rest, lex_append (lex_eq_some rest) ?_⟩⟩
    rintro c ⟨⟩
    have sub : [' ', ')', ','] ⊆ separators := by decide
    exact .separator rest (sub ha)

/-- An accepted expression is contained in a dialect if and only if it closes there what it opens. It
does so whenever the dialect's blind spot does not stand outside the quotes that screening sees. -/
theorem screened_contained_iff {d s t} (h : screen s = .ok t) :
    (Contained d t.toList ↔ Closed d false t.toList) ∧
      (blindSpot d ∉ outer none t.toList → Closed d false t.toList) := by
  obtain ⟨-, fine⟩ := screen_eq_ok_iff.1 h
  exact ⟨contained_iff_closed (bare_of_flaw fine), closed_of_outer (quotes_of_flaw fine)⟩

/-- A blind spot inside quotes does no harm. -/
theorem screened_hash_in_string :
    screen " code || ' #1' " = .ok "code || ' #1'" ∧
      (Contained .mysql "code || ' #1'".toList ↔ Closed .mysql false "code || ' #1'".toList) ∧
      blindSpot .mysql ∉ outer none "code || ' #1'".toList ∧
      Closed .mysql false "code || ' #1'".toList := by
  have accepted : screen " code || ' #1' " = .ok "code || ' #1'" := by decide +kernel
  have outside : blindSpot .mysql ∉ outer none "code || ' #1'".toList := by decide +kernel
  obtain ⟨iff, closed⟩ := screened_contained_iff (d := .mysql) accepted
  exact ⟨accepted, iff, outside, closed outside⟩

/-- Accepted expressions are not contained in general: in MySQL `#` turns the rest of the line into a
comment, in PostgreSQL a quote between backticks opens a string, and so does in SQLite a quote after one
between brackets. -/
theorem screened_not_contained :
    (screen "price # 2" = .ok "price # 2" ∧ ¬ Contained .mysql "price # 2".toList) ∧
      (screen "`it's`" = .ok "`it's`" ∧ ¬ Contained .postgres "`it's`".toList) ∧
      (screen "[it's] || 'x" = .ok "[it's] || 'x" ∧
        ¬ Contained .sqlite "[it's] || 'x".toList) := by
  have opened {d e} (stays : (scan d .neutral (' ' :: e)).2.isOpen = true) : ¬ Contained d e := by
    intro contained
    have rest := (contained ' ' (by simp) ' ' (by simp)).1
    rw [stays] at rest
    cases rest
  refine ⟨⟨?_, opened ?_⟩, ⟨?_, opened ?_⟩, ⟨?_, opened ?_⟩⟩ <;> decide +kernel

end Screening

end QueryRecipe
