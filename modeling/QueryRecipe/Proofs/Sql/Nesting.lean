import QueryRecipe.Proofs.Lexer.Nesting
import QueryRecipe.Proofs.Sql.Scope

/-!
# Parentheses and clauses of phrases

What a phrase does to the number of open parentheses and which clauses it begins, told from its pieces.
A phrase stays inside a clause if its parentheses match and it begins no clause that sorts, cuts or adds
rows (`Sql.Inline`). The tokens that a dialect reads in a phrase that fits a vocabulary have the shift of
its pieces (`Sql.shift_tokens`), and the words of those clauses are not among them
(`Sql.Inline.word_not_mem`).
-/

namespace QueryRecipe

open Lexer

/-- The word that begins the clause by which the rows of a SELECT are sorted. -/
def wordOrder : Token :=
  .word "ORDER".toList

/-- The word before the number of rows to which a SELECT is cut. -/
def wordLimit : Token :=
  .word "LIMIT".toList

/-- The word before the number of rows that a SELECT passes over. -/
def wordOffset : Token :=
  .word "OFFSET".toList

/-- The words of the clauses that sort and cut the rows of a SELECT. -/
def cutWords : List Token :=
  [wordOrder, wordLimit, wordOffset]

/-- The word that begins a further branch. -/
def wordUnion : Token :=
  .word "UNION".toList

/-- The word after it if repeated rows are kept. -/
def wordAll : Token :=
  .word "ALL".toList

namespace Piece

/-- What a piece does to the number of open parentheses. -/
@[simp]
def shift (p : Piece) : Shift :=
  if p ∈ [fixed "(", fixed " (", fixed "CAST(", fixed "INITCAP(", fixed "REPLACE(",
      fixed "COALESCE(", fixed "UPPER(", fixed "LOWER(", fixed "COUNT(DISTINCT ", fixed "SELECT DISTINCT ON (",
      fixed "SELECT * FROM ("] then ⟨0, 1⟩
  else if p ∈ [fixed ")", fixed ") ", fixed ") AS t0"] then ⟨1, 0⟩
  else if p = fixed "UPPER(SUBSTR(" then ⟨0, 2⟩
  else if p = fixed "CONCAT(UPPER(LEFT(" then ⟨0, 3⟩
  else if p ∈ [fixed ", 1)), LOWER(SUBSTRING(", fixed ", 1, 1)) || LOWER(SUBSTR("] then ⟨2, 2⟩
  else if p = fixed ", 2))" then ⟨2, 0⟩
  else if p = fixed ", 2)))" then ⟨3, 0⟩
  else 1

/-- The word of the clause that a piece begins, if that sorts, cuts or adds rows. -/
@[simp]
def begins (p : Piece) : List Token :=
  if p = fixed " ORDER BY " then [wordOrder]
  else if p = fixed " LIMIT " then [wordLimit]
  else if p = fixed " OFFSET " then [wordOffset]
  else if p ∈ [fixed " UNION ALL ", fixed " UNION "] then [wordUnion]
  else []

/-- Whether a piece leaves the parentheses alone and begins no such clause. -/
@[simp]
def IsFlat (p : Piece) : Prop :=
  p.shift = 1 ∧ p.begins = []

end Piece

namespace Sql

/-- What a phrase does to the number of open parentheses. -/
def shift (q : Sql) : Shift :=
  (q.map Piece.shift).prod

/-- Whether the parentheses of a phrase match and no clause that sorts, cuts or adds rows begins in
it. -/
structure Inline (q : Sql) : Prop where
  shift : q.shift = 1
  plain : ∀ p ∈ q, p.begins = []

section Inline
variable {p s : Piece} {q r : Sql}

/-- The shift of the empty phrase. -/
@[simp]
lemma shift_nil : shift [] = 1 := rfl

/-- The shift of a piece and what follows it. -/
@[simp]
lemma shift_cons : shift (p :: q) = p.shift * shift q := by
  simp [shift]

/-- The shift of phrases in a row. -/
@[simp]
lemma shift_append : shift (q ++ r) = shift q * shift r := by
  simp [shift]

/-- The empty phrase stays inside a clause. -/
lemma Inline.nil : Inline [] :=
  ⟨rfl, by simp⟩

/-- A flat piece may come before a phrase that stays inside a clause. -/
lemma Inline.cons (hp : p.IsFlat) (hq : Inline q) : Inline (p :: q) where
  shift := by rw [shift_cons, hp.1, hq.shift, mul_one]
  plain := List.forall_mem_cons.2 ⟨hp.2, hq.plain⟩

/-- A flat piece stays inside a clause. -/
lemma Inline.one (hp : p.IsFlat) : Inline [p] :=
  .cons hp .nil

/-- Phrases in a row stay inside a clause if each does. -/
lemma Inline.append (hq : Inline q) (hr : Inline r) : Inline (q ++ r) where
  shift := by rw [shift_append, hq.shift, hr.shift, mul_one]
  plain := List.forall_mem_append.2 ⟨hq.plain, hr.plain⟩

/-- A piece with a parenthesis begins no clause. -/
lemma begins_of_shift (h : p.shift ≠ 1) : p.begins = [] := by
  rw [Piece.begins]
  split_ifs with order limit offset union
  · simp [order] at h
  · simp [limit] at h
  · simp [offset] at h
  · simp only [List.mem_cons, List.not_mem_nil, or_false] at union
    rcases union with rfl | rfl <;> simp at h
  · rfl

/-- A phrase that stays inside a clause does so in parentheses. -/
lemma Inline.enclosed (opens : p.shift = ⟨0, 1⟩) (closes : s.shift = ⟨1, 0⟩) (hq : Inline q) :
    Inline (p :: q ++ [s]) where
  shift := by
    rw [shift_append, shift_cons, shift_cons, shift_nil, opens, closes, hq.shift]
    rfl
  plain := by
    simp only [List.cons_append, List.forall_mem_cons, List.forall_mem_append]
    refine ⟨begins_of_shift ?_, hq.plain, begins_of_shift ?_, by simp⟩
    · rw [opens]
      decide
    · rw [closes]
      decide

/-- Separated phrases stay inside a clause if each does and the separator is flat. -/
lemma Inline.separated {sep : String} {qs : List Sql} (flat : (Piece.fixed sep).IsFlat)
    (h : ∀ q ∈ qs, Inline q) : Inline (Sql.separated sep qs) :=
  separated_of .nil (fun hq hr => hq.append (.cons flat hr)) h

end Inline

end Sql

section Tokens
variable {V : Vocabulary} {d : Dialect}

/-- The templates do to the parentheses what their pieces say, and the words of clauses stand only in
those that begin them. -/
lemma templates_nesting : ∀ s ∈ templates, ∀ d ∈ [Dialect.postgres, .mysql, .sqlite],
    Lexer.shift ((Piece.fixed s).tokens d) = (Piece.fixed s).shift ∧
      ∀ w ∈ wordUnion :: cutWords, w ∈ (Piece.fixed s).tokens d → w ∈ (Piece.fixed s).begins := by
  decide +kernel

/-- Truth values have no parentheses and begin no clause. -/
lemma truth_nesting : ∀ d ∈ [Dialect.postgres, .mysql, .sqlite], ∀ b ∈ [true, false],
    Lexer.shift ((Piece.truth b).tokens d) = 1 ∧
      ∀ w ∈ wordUnion :: cutWords, w ∉ (Piece.truth b).tokens d := by
  decide +kernel

/-- The template of a limit is the word for it. -/
lemma Piece.tokens_limit : (fixed " LIMIT ").tokens d = [wordLimit] := by
  cases d <;> decide +kernel

/-- The template of an offset is the word for it. -/
lemma Piece.tokens_offset : (fixed " OFFSET ").tokens d = [wordOffset] := by
  cases d <;> decide +kernel

/-- What is read in a piece has the shift of the piece. -/
lemma Piece.Within.shift_tokens {p : Piece} (h : p.Within V) :
    Lexer.shift (p.tokens d) = p.shift := by
  cases p with
  | fixed s => exact (templates_nesting s h d d.mem_all).1
  | name s => simp [Token.shift]
  | string s => simp [tokens_string, Token.shift]
  | truth b => simpa using (truth_nesting d d.mem_all b (by cases b <;> decide)).1
  | number s =>
    obtain ⟨r, read | read⟩ := tokens_number (d := d) h
    all_goals simp [read, Token.shift]
  | function s => simp [tokens_function h.2, Token.shift]
  | expression s => exact h.elim

/-- A phrase is read with the parentheses of its pieces. -/
lemma Sql.shift_tokens {q : Sql} (within : ∀ p ∈ q, p.Within V) :
    Lexer.shift (q.tokens d) = q.shift := by
  induction q with
  | nil => rfl
  | cons p q ih =>
    obtain ⟨now, later⟩ := List.forall_mem_cons.1 within
    rw [tokens_cons, Lexer.shift_append, now.shift_tokens, ih later, shift_cons]

/-- Whether no function has the name of a clause that sorts, cuts or adds rows. -/
def Vocabulary.SparesClauses (V : Vocabulary) : Prop :=
  ∀ x, V.function x → .word x.toList ∉ wordUnion :: cutWords

/-- The word of a clause is read only in a piece that begins the clause, if it is not the name of a
function. -/
lemma Piece.Within.begins_of_mem {p : Piece} (h : p.Within V) (spared : V.SparesClauses) {w}
    (listed : w ∈ wordUnion :: cutWords) (mem : w ∈ p.tokens d) : w ∈ p.begins := by
  -- what is not read as a word is none of these
  have word : ∃ s, w = .word s := by
    simp only [cutWords, List.mem_cons, List.not_mem_nil, or_false] at listed
    rcases listed with rfl | rfl | rfl | rfl <;> exact ⟨_, rfl⟩
  obtain ⟨x, rfl⟩ := word
  cases p with
  | fixed s => exact (templates_nesting s h d d.mem_all).2 _ listed mem
  | name s => simp at mem
  | string s => simp [tokens_string] at mem
  | truth b => exact absurd mem ((truth_nesting d d.mem_all b (by cases b <;> decide)).2 _ listed)
  | number s =>
    obtain ⟨r, read | read⟩ := tokens_number (d := d) h
    all_goals simp [read] at mem
  | function s =>
    rw [tokens_function h.2, List.mem_singleton, Token.word.injEq] at mem
    exact absurd (mem ▸ listed) (spared s h.1)
  | expression s => exact h.elim

/-- The word of a clause is read in a phrase only if one of its pieces begins the clause. -/
lemma Sql.begins_of_mem {q : Sql} (within : ∀ p ∈ q, p.Within V) (spared : V.SparesClauses) {w}
    (listed : w ∈ wordUnion :: cutWords) (mem : w ∈ q.tokens d) : ∃ p ∈ q, w ∈ p.begins := by
  obtain ⟨p, inside, mem⟩ := List.mem_flatMap.1 mem
  exact ⟨p, inside, (within p inside).begins_of_mem spared listed mem⟩

/-- No word of a clause is read in a phrase that begins none. -/
lemma Sql.Inline.word_not_mem {q : Sql} (h : q.Inline) (within : ∀ p ∈ q, p.Within V)
    (spared : V.SparesClauses) : ∀ w ∈ wordUnion :: cutWords, w ∉ q.tokens d := by
  intro w listed mem
  obtain ⟨p, inside, begins⟩ := Sql.begins_of_mem within spared listed mem
  rw [h.plain p inside] at begins
  cases begins

end Tokens

end QueryRecipe
