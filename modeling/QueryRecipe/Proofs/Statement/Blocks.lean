import QueryRecipe.Proofs.Sql.Blocks
import QueryRecipe.Proofs.Statement.Nesting

/-!
# The conditions of a statement

The text after `WHERE` is read back as the filters of the statement (`Statement.reads_whereSql`). A
condition is sealed, whatever its column, the changes to it and its literals are, so a filter is parted
into its conditions at the connectives outside blocks (`Filter.reads`), and the parentheses around it keep
these from the connectives between the filters.
-/

namespace QueryRecipe

open Lexer

namespace Sql

section Sealed
variable {V : Vocabulary} {d : Dialect}

/-- A replacement within a vocabulary is sealed. -/
lemma Sealed.replacement {r : Replacement} (h : r.Within V) : Sealed d r.sql := by
  cases r with
  | literal v => exact .literal v
  | expression e => exact h.elim

/-- A case distinction is sealed although it may have a connective in it. -/
lemma Sealed.fill {e : Sql} (he : Sealed d e) {value : Literal} {emptyToo : Bool} :
    Sealed d ((Change.fill value emptyToo).sql d e) := by
  have opens : (Piece.fixed "CASE WHEN ").tokens d = [wordCase, .word "WHEN".toList] :=
    tokens_template (by simp)
  have closes : (Piece.fixed " END").tokens d = [wordEnd] := tokens_template (by simp)
  have or : (Piece.fixed " OR ").tokens d = [wordOr] := tokens_template (by simp)
  have empty : Blocked [] (tokens d
      (if emptyToo then .fixed " OR " :: e ++ [Piece.fixed " = ", .string ""] else [])) := by
    split
    · have test : Sealed d (e ++ [Piece.fixed " = ", .string ""]) :=
        he.append (.cons (by simp) (.one (by simp)))
      rw [List.cons_append, tokens_cons, or]
      exact .cons (by decide) (by decide) test.inside
    · exact .nil
  have absent : Sealed d (e ++ [Piece.fixed " IS NULL"]) := he.append (.one (by simp))
  have values : Sealed d (.fixed " THEN " :: Sql.literal value ++ .fixed " ELSE " :: e) :=
    .cons (by simp) (.append (.literal value) (.cons (by simp) he))
  have inside := (absent.inside.append empty).append values.inside
  have whole : Blocked connectives (wordCase :: (.word "WHEN".toList :: _) ++ [wordEnd]) :=
    .enclosed rfl (by decide) (.cons (by decide) (by simp) inside)
  simpa [Sealed, Change.sql, tokens_append, tokens_cons, tokens_nil, opens, closes] using whole

/-- A change of a sealed phrase is sealed. -/
lemma Sealed.change {e : Sql} {c : Change} (he : Sealed d e) (h : c.Within V) :
    Sealed d (c.sql d e) := by
  cases c with
  | cast dataType => exact h.elim
  | substitute old new =>
    have old : Sealed d [.fixed ", ", .string old, .fixed ", "] :=
      .cons (by simp) (.cons (by simp) (.one (by simp)))
    exact .list (by simp) ((he.append old).append (.replacement h.2))
  | coalesce new =>
    have new : Sealed d (.fixed ", " :: new.sql) := .cons (by simp) (.replacement h)
    exact .list (by simp) (he.append new)
  | trim side =>
    have argument : Sealed d (.fixed "(" :: e ++ [Piece.fixed ")"]) := .list (by simp) he
    cases side <;> exact .cons (by simp [TrimSide.function]) argument
  | recase mode =>
    cases mode with
    | upper | lower => exact .list (by simp) he
    | title => exact .titleCase he
  | fill value emptyToo => exact .fill he

/-- An expression within a vocabulary is sealed. -/
lemma Sealed.expr {e : Expr} (h : e.Within V) : Sealed d (e.sql d) := by
  induction e with
  | field column => exact .qualified
  | name column => exact .dotted
  | changed e change ih => exact .change (ih h.1) h.2

/-- A condition is sealed. -/
lemma Sealed.condition {c : Condition} (h : c.Within V) : Sealed d (c.sql d) := by
  obtain ⟨subject, comparison, operand⟩ := c
  have compared : Sealed d (subject.sql d ++ [Piece.fixed " ", .fixed comparison.symbol]) := by
    refine .append (.expr h.1) (.cons (by simp) (.one ?_))
    cases comparison <;> simp [Comparison.symbol]
  cases comparison with
  | isNull | isNotNull => exact compared
  | isIn | notIn =>
    rw [Condition.sql]
    cases operand.members with
    | nil => exact .one (by simp)
    | cons v vs =>
      have members : Sealed d (Sql.commas ((v :: vs).map Sql.literal)) :=
        .separated (by simp) (List.forall_mem_map.2 fun v _ => .literal v)
      have whole := compared.append (.list (s := " (") (by simp) members)
      rwa [← List.append_assoc] at whole
  | like | notLike =>
    rw [Condition.sql]
    refine compared.append (.cons (by simp) (.one ?_))
    split <;> simp
  | _ => exact compared.append (.cons (by simp) (.literal operand))

end Sealed

end Sql

/-- The word for a connective. -/
def Connective.word (k : Connective) : Token :=
  .word k.keyword.toList

/-- Whether tokens are read as the inside of a filter: what stands between the connectives outside blocks
are its conditions in their order, and all these connectives are its own. -/
structure Filter.Reads (d : Dialect) (f : Filter) (inside : List Token) : Prop where
  matched : shift inside = 1
  connectives : ∀ w ∈ (part connectives [] inside).separators, w = f.connective.word
  conditions : List.Forall₂ (fun c toks => lex d ((c.sql d).text d).toList = some toks) f.conditions
    (part Lexer.connectives [] inside).parts

/-- Whether tokens are read as the clause of some filters: nothing without filters, and otherwise the
word for the clause and then, between the words for `AND` outside blocks, each filter in parentheses. -/
def ReadsFilters (d : Dialect) (filters : List Filter) (toks : List Token) : Prop :=
  filters = [] ∧ toks = [] ∨ ∃ rest insides, toks = wordWhere :: rest ∧
    (part [wordAnd] [] rest).parts = insides.map (fun inside => .symbol '(' :: inside ++ [.symbol ')']) ∧
    List.Forall₂ (Filter.Reads d) filters insides

/-- The words and signs behind the clause of the filters. -/
def clauseEnds : List Token :=
  [.word "GROUP".toList, wordOrder, wordLimit, wordOffset, wordUnion, .symbol ')']

/-- The templates that follow the clause of the filters. -/
@[simp]
abbrev followingTemplates : List String :=
  [" GROUP BY ", " ORDER BY ", " LIMIT ", " OFFSET ", " UNION ALL ", " UNION ", ")", ") AS t0"]

/-- Whether a phrase may follow the clause of the filters. -/
def Sql.Follows (q : Sql) : Prop :=
  ∀ p ∈ q.head?, ∃ s ∈ followingTemplates, p = .fixed s

namespace Sql

section Follows
variable {d : Dialect} {q r : Sql}

/-- Two phrases that may follow the clause of the filters may do so one behind the other. -/
lemma Follows.append (hq : q.Follows) (hr : r.Follows) : (q ++ r).Follows := by
  cases q with
  | nil => exact hr
  | cons p q => exact hq

/-- What may follow the clause of the filters is read as nothing or begins with one of its ends. -/
lemma Follows.tokens (h : q.Follows) : ∀ t ∈ (q.tokens d).head?, t ∈ clauseEnds := by
  have begins : ∀ s ∈ followingTemplates, ∀ d ∈ [Dialect.postgres, .mysql, .sqlite],
      ((Piece.fixed s).tokens d).head?.any (· ∈ clauseEnds) = true := by decide +kernel
  cases q with
  | nil => nofun
  | cons p q =>
    obtain ⟨s, known, rfl⟩ := h p rfl
    obtain ⟨t, first, listed⟩ := Option.any_eq_true _ _ |>.1 (begins s known d d.mem_all)
    rw [tokens_cons, List.head?_append, first]
    rintro _ ⟨⟩
    exact of_decide_eq_true listed

end Follows

end Sql

section Filter
variable {V : Vocabulary} {d : Dialect}

/-- A connective is read as its word. -/
lemma Connective.tokens_keyword (k : Connective) :
    (Piece.fixed (" " ++ k.keyword ++ " ")).tokens d = [k.word] := by
  cases k <;> exact tokens_template (by simp [keyword, word, wordAnd, wordOr])

/-- What a filter says in its parentheses. -/
def Filter.insideSql (d : Dialect) (f : Filter) : Sql :=
  Sql.separated (" " ++ f.connective.keyword ++ " ") (f.conditions.map (Condition.sql d))

/-- The tokens of a filter. -/
def Filter.tokens (d : Dialect) (f : Filter) : List Token :=
  Token.symbol '(' :: (f.insideSql d).tokens d ++ [Token.symbol ')']

/-- A filter is read as its inside in parentheses. -/
lemma Filter.tokens_sql {f : Filter} : (f.sql d).tokens d = f.tokens d := by
  have opens : (Piece.fixed "(").tokens d = [.symbol '('] := tokens_template (by simp)
  have closes : (Piece.fixed ")").tokens d = [.symbol ')'] := tokens_template (by simp)
  rw [Filter.sql, Sql.tokens_append, Sql.tokens_cons, Sql.tokens_cons, opens, closes]
  rfl

/-- The conditions of a filter within a vocabulary are sealed. -/
lemma Filter.sealed {f : Filter} (h : ∀ c ∈ f.conditions, c.Within V) :
    ∀ q ∈ f.conditions.map (·.sql d), q.Sealed d :=
  List.forall_mem_map.2 fun c mem => .condition (h c mem)

/-- The blocks inside a filter match. -/
lemma Filter.blocked_inside {f : Filter} (h : ∀ c ∈ f.conditions, c.Within V) :
    Blocked [] ((f.insideSql d).tokens d) := by
  apply Sql.blocked_separated
  · have plain : f.connective.word.IsPlain := by cases f.connective <;> decide
    rw [f.connective.tokens_keyword]
    exact .cons plain List.not_mem_nil .nil
  · exact fun q mem => (Filter.sealed h q mem).inside

/-- A filter is read as its conditions with its connective between them. -/
lemma Filter.reads {f : Filter} (h : ∀ c ∈ f.conditions, c.Within V) (ne : f.conditions ≠ []) :
    f.Reads d ((f.insideSql d).tokens d) := by
  have known : f.connective.word ∈ connectives := by cases f.connective <;> decide
  have texts : ∀ c ∈ f.conditions, lex d ((c.sql d).text d).toList = some ((c.sql d).tokens d) :=
    fun c mem => (Sql.Fits.condition (h c mem)).lex_text
  have sealed := Filter.sealed (d := d) h
  obtain ⟨c, cs, conditions⟩ := List.exists_cons_of_ne_nil ne
  rw [conditions, List.map_cons] at sealed
  rw [conditions] at texts
  have parted := Sql.part_separated f.connective.tokens_keyword known sealed
  rw [← List.map_cons, ← conditions] at parted
  refine ⟨(Filter.blocked_inside h).shift, ?_, ?_⟩
  · rw [insideSql, parted]
    simp [Parted.separators]
  · rw [insideSql, parted, conditions]
    simpa [Parted.parts, List.forall₂_map_right_iff, List.forall₂_same] using texts

end Filter

namespace Statement

section Clause
variable {V : Vocabulary} {d : Dialect} {s : Statement}

/-- The clause of the filters is read as the filters. -/
lemma reads_whereSql (h : s.Within V) (ne : ∀ f ∈ s.filters, f.conditions ≠ []) :
    ReadsFilters d s.filters ((s.whereSql d).tokens d) := by
  have word : (Piece.fixed " WHERE ").tokens d = [wordWhere] := tokens_template (by simp)
  have between : (Piece.fixed " AND ").tokens d = [wordAnd] := tokens_template (by simp)
  have blocked : ∀ q ∈ s.filters.map (·.sql d), Blocked [wordAnd] (Sql.tokens d q) := by
    refine List.forall_mem_map.2 fun f mem => ?_
    rw [Filter.tokens_sql]
    exact .enclosed rfl (by decide) (Filter.blocked_inside (h.filters f mem))
  have reads : List.Forall₂ (Filter.Reads d) s.filters
      (s.filters.map fun f => (f.insideSql d).tokens d) :=
    List.forall₂_map_right_iff.2
      (List.forall₂_same.2 fun f mem => Filter.reads (h.filters f mem) (ne f mem))
  rw [whereSql]
  cases filters : s.filters with
  | nil => exact .inl ⟨rfl, rfl⟩
  | cons f fs =>
    rw [filters] at blocked reads
    let rest := Sql.tokens d (Sql.separated " AND " ((f :: fs).map (·.sql d)))
    refine .inr ⟨rest, _, ?_, ?_, reads⟩
    · show Sql.tokens d (.fixed " WHERE " :: Sql.separated " AND " _) = _
      rw [Sql.tokens_cons, word]
      rfl
    · show (part [wordAnd] [] (Sql.tokens d (Sql.separated " AND " (f.sql d :: _)))).parts = _
      rw [Sql.part_separated between List.mem_cons_self blocked]
      simp [Parted.parts, Filter.tokens_sql, Filter.tokens]

/-- What follows the clause of the filters in the first branch. -/
def tailSql (d : Dialect) (s : Statement) : Sql :=
  Sql.clause " GROUP BY " ", " (s.groupBy.map (·.sql d)) ++ s.cutSql d

/-- What the first branch says behind its filters may follow them. -/
lemma follows_tailSql : (s.tailSql d).Follows := by
  have clause {keyword : String} {parts : List Sql} (known : keyword ∈ followingTemplates) :
      (Sql.clause keyword ", " parts).Follows := by
    cases parts with
    | nil => nofun
    | cons q qs =>
      rintro _ ⟨⟩
      exact ⟨keyword, known, rfl⟩
  have page : (s.page.sql d).Follows := by
    cases limit : s.page.limit <;> cases skip : s.page.skip? <;> cases d <;>
      simp [Page.sql, Sql.Follows, limit, skip]
  exact (clause (by simp)).append ((clause (by simp)).append page)

/-- All SELECTs of a statement have the clause of its filters as their condition. -/
lemma condition_of_mem {r : Select} (mem : r ∈ s.selects d) : r.condition = s.whereSql d := by
  cases List.mem_cons.1 mem with
  | inl first => rw [first, primary]
  | inr other =>
    obtain ⟨u, -, rfl⟩ := List.mem_map.1 other
    rfl

/-- The further branches may follow the clause of the filters. -/
lemma follows_unions {us : List Union} : Sql.Follows (us.flatMap (s.unionSql d)) := by
  cases us with
  | nil => nofun
  | cons u us =>
    rintro _ ⟨⟩
    exact ⟨_, by cases u.all <;> simp, rfl⟩

/-- The first branch is its SELECT and what says how its rows are grouped, sorted and cut. -/
lemma primarySql_eq_tail : s.primarySql d = (s.primary d).sql ++ s.tailSql d := by
  simp [primarySql_split, uncutSql, tailSql]

/-- The SELECT of the first branch stands in it with something before it and behind it. -/
lemma firstSql_between : ∃ front back, s.firstSql d = front ++ (s.primary d).sql ++ back ∧
    back.Follows := by
  rw [firstSql]
  split
  · have closing (p : String) (known : p ∈ followingTemplates) :
        Sql.Follows (s.tailSql d ++ [Piece.fixed p]) := by
      refine follows_tailSql.append ?_
      rintro _ ⟨⟩
      exact ⟨p, known, rfl⟩
    cases d with
    | postgres | mysql =>
      exact ⟨[.fixed "("], _, by simp [Sql.branch, primarySql_eq_tail], closing ")" (by simp)⟩
    | sqlite =>
      exact ⟨[.fixed "SELECT * FROM ("], _, by simp [Sql.branch, primarySql_eq_tail],
        closing ") AS t0" (by simp)⟩
  · exact ⟨[], _, primarySql_eq_tail, follows_tailSql⟩

/-- The phrase of a statement is each of its SELECTs between what precedes this and what may follow the
clause of its filters. -/
lemma select_between {r : Select} (mem : r ∈ s.selects d) :
    ∃ front back, s.sql d = front ++ r.sql ++ back ∧ back.Follows := by
  by_cases several : s.unions = []
  · rw [selects, several, List.map_nil, List.mem_singleton] at mem
    rw [sql, several, mem]
    exact ⟨[], _, primarySql_eq_tail, follows_tailSql⟩
  · rw [sql_unions several]
    cases List.mem_cons.1 mem with
    | inl first =>
      obtain ⟨front, back, split, follows⟩ := s.firstSql_between (d := d)
      exact ⟨front, back ++ s.unions.flatMap (s.unionSql d), by rw [first, split]; simp,
        follows.append follows_unions⟩
    | inr other =>
      obtain ⟨u, listed, rfl⟩ := List.mem_map.1 other
      obtain ⟨pre, post, whole⟩ := List.append_of_mem listed
      -- the first branch and the rows added earlier come before it, those added later behind it
      refine ⟨s.firstSql d ++ pre.flatMap (s.unionSql d) ++
        [Piece.fixed (if u.all then " UNION ALL " else " UNION ")], post.flatMap (s.unionSql d), ?_,
        follows_unions⟩
      simp [whole, unionSql, branch, Select.sql]

end Clause

end Statement

end QueryRecipe
