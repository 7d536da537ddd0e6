import QueryRecipe.Expr
import QueryRecipe.Proofs.Lexer.Blocks
import QueryRecipe.Proofs.Sql.Scope

/-!
# Blocks of phrases

The phrases of values are sealed: what a dialect reads in them has matching blocks and no connective
outside these (`Sql.Sealed`). Connectives are read only in the templates for them, and the one that stands
in a value is in a case distinction.
-/

namespace QueryRecipe

open Lexer

/-- Whether the blocks that a dialect reads in a phrase match, and no connective stands outside them. -/
def Sql.Sealed (d : Dialect) (q : Sql) : Prop :=
  Blocked connectives (q.tokens d)

/-- Whether a piece is sealed by itself. -/
def Piece.IsSealed (d : Dialect) (p : Piece) : Prop :=
  Blocked connectives (p.tokens d)

/-- Templates of conditions without connectives and without the ends of blocks. -/
@[simp]
abbrev plainTemplates : List String :=
  [".", "t.", ", ", " ", " = ", " IS NULL", " THEN ", " ELSE ", "NULL", "1 = 0", "1 = 1", "TRIM", "LTRIM",
    "RTRIM", "=", "!=", ">", ">=", "<", "<=", "IN", "NOT IN", "LIKE", "NOT LIKE", "IS NULL",
    "IS NOT NULL"]

/-- Templates that begin a list in parentheses. -/
@[simp]
abbrev listTemplates : List String :=
  ["(", " (", "INITCAP(", "REPLACE(", "COALESCE(", "UPPER(", "LOWER("]

/-- Templates around conditions, each with what every dialect reads in it. -/
@[simp]
abbrev blockTemplates : List (String × List Token) :=
  [("(", [.symbol '(']), (")", [.symbol ')']), ("CASE WHEN ", [wordCase, .word "WHEN".toList]),
    (" END", [wordEnd]), (" WHERE ", [wordWhere]), (" AND ", [wordAnd]), (" OR ", [wordOr])]

section Pieces
variable {d : Dialect}

/-- The plain templates are read as plain tokens. -/
lemma plainTemplates_read : ∀ s ∈ plainTemplates, ∀ d ∈ [Dialect.postgres, .mysql, .sqlite],
    ∀ t ∈ (Piece.fixed s).tokens d, t.IsPlain ∧ t ∉ connectives := by
  decide +kernel

/-- A template that opens a list is read as plain tokens with a parenthesis behind them. -/
lemma listTemplates_read : ∀ s ∈ listTemplates, ∀ d ∈ [Dialect.postgres, .mysql, .sqlite],
    (Piece.fixed s).tokens d = ((Piece.fixed s).tokens d).dropLast ++ [.symbol '('] ∧
      ∀ t ∈ ((Piece.fixed s).tokens d).dropLast, t.IsPlain ∧ t ∉ connectives := by
  decide +kernel

/-- Truth values are read as plain tokens. -/
lemma truth_plainTokens : ∀ d ∈ [Dialect.postgres, .mysql, .sqlite], ∀ b ∈ [true, false],
    ∀ t ∈ (Piece.truth b).tokens d, t.IsPlain ∧ t ∉ connectives := by
  decide +kernel

/-- The templates around blocks are read in the same way in every dialect. -/
lemma blockTemplates_read : ∀ r ∈ blockTemplates, ∀ d ∈ [Dialect.postgres, .mysql, .sqlite],
    (Piece.fixed r.1).tokens d = r.2 := by
  decide +kernel

/-- The tokens of a template around a block. -/
lemma tokens_template {s : String} {toks : List Token} (h : (s, toks) ∈ blockTemplates) :
    (Piece.fixed s).tokens d = toks :=
  blockTemplates_read _ h d d.mem_all

/-- A plain template is sealed. -/
@[simp]
lemma Piece.isSealed_fixed {s : String} (h : s ∈ plainTemplates) : (fixed s).IsSealed d :=
  .of_plain (plainTemplates_read s h d d.mem_all)

/-- A name is sealed. -/
@[simp]
lemma Piece.isSealed_name {s : String} : (name s).IsSealed d := by
  rw [IsSealed, tokens_name]
  exact .of_plain (by simp [Token.IsPlain, Token.blockEnd?, blockEnds, connectives, wordCase, wordEnd,
    wordAnd, wordOr])

/-- A string is sealed. -/
@[simp]
lemma Piece.isSealed_string {s : String} : (string s).IsSealed d := by
  rw [IsSealed, tokens_string]
  exact .of_plain (by simp [Token.IsPlain, Token.blockEnd?, blockEnds, connectives, wordCase, wordEnd,
    wordAnd, wordOr])

/-- A truth value is sealed. -/
@[simp]
lemma Piece.isSealed_truth {b : Bool} : (truth b).IsSealed d :=
  .of_plain (truth_plainTokens d d.mem_all b (by cases b <;> decide))

/-- A number is sealed. -/
lemma Piece.isSealed_number {s : String} (h : IsNumber s.toList) : (number s).IsSealed d := by
  rw [IsSealed]
  apply Blocked.of_plain
  obtain ⟨r, read | read⟩ := tokens_number (d := d) h
  all_goals simp [read, Token.IsPlain, Token.blockEnd?, blockEnds, connectives, wordCase,
    wordEnd, wordAnd, wordOr]

end Pieces

namespace Sql

section Separated
variable {d : Dialect} {sep : String} {seps : List Token} {w : Token} {q : Sql} {qs : List Sql}

/-- Phrases with a separator between them are blocked if they and the separator are. -/
lemma blocked_separated (between : Blocked seps ((Piece.fixed sep).tokens d))
    (h : ∀ q ∈ qs, Blocked seps (tokens d q)) : Blocked seps (tokens d (separated sep qs)) := by
  refine separated_of .nil (fun hq hr => ?_) h
  rw [tokens_append, tokens_cons]
  exact hq.append (between.append hr)

/-- Phrases with a word between them are read as the first one and, for each other one, the word and the
phrase. -/
lemma tokens_separated (word : (Piece.fixed sep).tokens d = [w]) :
    tokens d (separated sep (q :: qs)) =
      tokens d q ++ (qs.map fun r => (w, tokens d r)).flatMap fun a => a.1 :: a.2 := by
  induction qs generalizing q with
  | nil => simp
  | cons r qs ih => simp [tokens_append, tokens_cons, word, ih]

/-- Blocked phrases with a separator between are found again. -/
lemma part_separated (word : (Piece.fixed sep).tokens d = [w]) (mem : w ∈ seps)
    (h : ∀ r ∈ q :: qs, Blocked seps (tokens d r)) :
    part seps [] (tokens d (separated sep (q :: qs))) =
      ⟨tokens d q, qs.map fun r => (w, tokens d r)⟩ := by
  obtain ⟨first, others⟩ := List.forall_mem_cons.1 h
  rw [tokens_separated word]
  exact part_flatMap first (List.forall_mem_map.2 fun r listed => ⟨mem, others r listed⟩)

end Separated

section Sealed
variable {d : Dialect} {p : Piece} {q r : Sql}

/-- The empty phrase is sealed. -/
lemma Sealed.nil : Sealed d [] :=
  Blocked.nil

/-- Sealed phrases in a row are sealed. -/
lemma Sealed.append (hq : Sealed d q) (hr : Sealed d r) : Sealed d (q ++ r) := by
  rw [Sealed, tokens_append]
  exact Blocked.append hq hr

/-- A sealed piece may come before a sealed phrase. -/
lemma Sealed.cons (hp : p.IsSealed d) (hq : Sealed d q) : Sealed d (p :: q) := by
  rw [Sealed, tokens_cons]
  exact Blocked.append hp hq

/-- A sealed piece by itself is a sealed phrase. -/
lemma Sealed.one (hp : p.IsSealed d) : Sealed d [p] :=
  .cons hp .nil

/-- A sealed phrase may stand in a block. -/
lemma Sealed.inside (h : Sealed d q) : Blocked [] (q.tokens d) :=
  Blocked.weaken h (List.nil_subset _)

/-- A list in parentheses is sealed if its inside is. -/
lemma Sealed.list {s : String} (begins : s ∈ listTemplates) (h : Sealed d q) :
    Sealed d (.fixed s :: q ++ [Piece.fixed ")"]) := by
  obtain ⟨opens, front⟩ := listTemplates_read s begins d d.mem_all
  have closes : (Piece.fixed ")").tokens d = [.symbol ')'] := tokens_template (by simp)
  have inside : Blocked connectives (.symbol '(' :: q.tokens d ++ [.symbol ')']) :=
    .enclosed rfl (by decide) h.inside
  have whole := (Blocked.of_plain front).append inside
  rw [Sealed, tokens_append, tokens_cons, opens, tokens_cons, tokens_nil, closes]
  simpa using whole

/-- Sealed phrases with a sealed separator between them are sealed. -/
lemma Sealed.separated {sep : String} {qs : List Sql} (plain : (Piece.fixed sep).IsSealed d)
    (h : ∀ q ∈ qs, Sealed d q) : Sealed d (Sql.separated sep qs) :=
  blocked_separated plain h

/-- A dotted name is sealed. -/
lemma Sealed.dotted {column : String} : Sealed d (Sql.dotted column) := by
  refine .separated (by simp) (List.forall_mem_map.2 fun part _ => ?_)
  exact .one (by simp)

/-- A qualified column is sealed. -/
lemma Sealed.qualified {column : String} : Sealed d (Sql.qualified column) := by
  rw [Sql.qualified]
  split
  · exact .dotted
  · exact .cons (by simp) (.one (by simp))

mutual

/-- A literal is sealed. -/
lemma Sealed.literal : ∀ v : Literal, Sealed d (Sql.literal v)
  | .null | .bool _ | .string _ => .one (by simp)
  | .int n => .one (Piece.isSealed_number (isNumber_integerText _))
  | .double x => by
    rw [Sql.literal]
    split
    next finite => exact .one (Piece.isSealed_number (isNumber_numberText finite))
    next => exact .one (by simp)
  | .list items => .list (by simp) (Sealed.literals items)

/-- The items of a list are sealed. -/
lemma Sealed.literals : ∀ vs : List Literal, Sealed d (Sql.literals vs)
  | [] => .nil
  | [v] => Sealed.literal v
  | v :: w :: rest => (Sealed.literal v).append (.cons (by simp) (Sealed.literals (w :: rest)))

end

/-- In title case a value stands in two calls, each in another. -/
lemma Sealed.titleCase {e : Sql} (he : Sealed d e) : Sealed d (Sql.titleCase d e) := by
  have called : ∀ s ∈ ["CONCAT", "UPPER", "LEFT", "LOWER", "SUBSTRING", "SUBSTR"],
      (Token.word s.toList).IsPlain ∧ Token.word s.toList ∉ connectives := by decide +kernel
  have upper := called "UPPER" (by simp)
  have lower := called "LOWER" (by simp)
  have substr := called "SUBSTR" (by simp)
  -- the arguments of the innermost calls
  have argument (more : List Token) (plain : ∀ t ∈ more, t.IsPlain ∧ t ∉ connectives) :
      Blocked connectives (e.tokens d ++ more) := Blocked.append he (.of_plain plain)
  cases d with
  | postgres => exact .list (by simp) he
  | mysql =>
    have opens : (Piece.fixed "CONCAT(UPPER(LEFT(").tokens .mysql = [.word "CONCAT".toList, .symbol '(',
        .word "UPPER".toList, .symbol '(', .word "LEFT".toList, .symbol '('] := by decide +kernel
    have between : (Piece.fixed ", 1)), LOWER(SUBSTRING(").tokens .mysql = [.symbol ',', .number ['1'],
        .symbol ')', .symbol ')', .symbol ',', .word "LOWER".toList, .symbol '(',
        .word "SUBSTRING".toList, .symbol '('] := by decide +kernel
    have closes : (Piece.fixed ", 2)))").tokens .mysql = [.symbol ',', .number ['2'], .symbol ')',
        .symbol ')', .symbol ')'] := by decide +kernel
    have left := Blocked.call (called "LEFT" (by simp))
      (argument [.symbol ',', .number ['1']] (by decide)) .nil
    have substring := Blocked.call (called "SUBSTRING" (by simp))
      (argument [.symbol ',', .number ['2']] (by decide)) .nil
    have second := Blocked.cons (t := .symbol ',') (by decide) (by decide)
      (Blocked.call lower substring .nil)
    have whole := Blocked.call (called "CONCAT" (by simp)) ((Blocked.call upper left .nil).append second)
      .nil
    simpa [Sealed, Sql.titleCase, tokens_append, tokens_cons, tokens_nil, opens, between, closes] using whole
  | sqlite =>
    have opens : (Piece.fixed "UPPER(SUBSTR(").tokens .sqlite = [.word "UPPER".toList, .symbol '(',
        .word "SUBSTR".toList, .symbol '('] := by decide +kernel
    have between : (Piece.fixed ", 1, 1)) || LOWER(SUBSTR(").tokens .sqlite = [.symbol ',', .number ['1'],
        .symbol ',', .number ['1'], .symbol ')', .symbol ')', .symbol '|', .symbol '|',
        .word "LOWER".toList, .symbol '(', .word "SUBSTR".toList, .symbol '('] := by decide +kernel
    have closes : (Piece.fixed ", 2))").tokens .sqlite = [.symbol ',', .number ['2'], .symbol ')',
        .symbol ')'] := by decide +kernel
    have first := Blocked.call upper (Blocked.call substr
      (argument [.symbol ',', .number ['1'], .symbol ',', .number ['1']] (by decide)) .nil) .nil
    have other := Blocked.call lower (Blocked.call substr
      (argument [.symbol ',', .number ['2']] (by decide)) .nil) .nil
    have both : Blocked connectives [.symbol '|', .symbol '|'] := .of_plain (by decide)
    have whole := first.append (both.append other)
    simpa [Sealed, Sql.titleCase, tokens_append, tokens_cons, tokens_nil, opens, between, closes] using whole

end Sealed

end Sql

end QueryRecipe
