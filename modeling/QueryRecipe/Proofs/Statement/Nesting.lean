import QueryRecipe.Proofs.Sql.Nesting
import QueryRecipe.Proofs.Statement.Scope

/-!
# The branches of a statement

What a dialect reads at the outermost level of a statement. Everything up to the grouping stays inside
the clauses of a SELECT (`Statement.inline_uncutSql`); only the first branch sorts and cuts its rows, and
then those words stand outside parentheses in it (`Statement.cut_outside`). So a statement with unions is
read as its first branch, in parentheses if it sorts or cuts, and the further branches, each behind the
word for a union (`Statement.split_unions`), and nothing outside parentheses sorts or cuts the whole
(`Statement.uncut_unions`).
-/

namespace QueryRecipe

open Lexer

namespace Sql

section Inline
variable {d : Dialect}

/-- A column stays within a clause. -/
lemma Inline.dotted {column : String} : Inline (Sql.dotted column) := by
  refine .separated (by simp) (List.forall_mem_map.2 fun part _ => ?_)
  exact .one (by simp)

/-- A column with its table stays within a clause. -/
lemma Inline.qualified {column : String} : Inline (Sql.qualified column) := by
  rw [Sql.qualified]
  split
  · exact .dotted
  · exact .cons (by simp) (.one (by simp))

/-- Title case stays inside a clause although its templates open and close several parentheses. -/
lemma Inline.titleCase {e : Sql} (he : Inline e) : Inline (Sql.titleCase d e) := by
  cases d with
  | postgres => exact .enclosed (by simp) (by simp) he
  | mysql | sqlite =>
    constructor
    · simp only [Sql.titleCase, shift_append, shift_cons, shift_nil, he.shift]
      decide
    · simp only [Sql.titleCase, List.cons_append, List.append_assoc, List.forall_mem_cons,
        List.forall_mem_append]
      exact ⟨by simp, he.plain, by simp, he.plain, by simp, by simp⟩

/-- The templates within a clause leave the parentheses alone, those before a phrase in parentheses open
one, and those behind it close one. -/
lemma plainTemplates_nesting :
    (∀ s ∈ innerTemplates, (Piece.fixed s).IsFlat) ∧
      (∀ s ∈ enclosingTemplates, (Piece.fixed s).shift = ⟨0, 1⟩) ∧
        ∀ s ∈ enclosedTemplates, (Piece.fixed s).shift = ⟨1, 0⟩ := by
  unfold Piece.IsFlat
  decide

/-- What stands within a clause stays inside it. -/
lemma inherited_inline : Inherited .whole Inline where
  nil := .nil
  cons {p q} inner hq := by
    refine .cons ?_ hq
    cases p with
    | fixed s => exact plainTemplates_nesting.1 s inner
    | _ => simp
  append := .append
  enclosed opens closes := .enclosed (plainTemplates_nesting.2.1 _ opens)
    (plainTemplates_nesting.2.2 _ closes)
  titleCase := .titleCase
  field _ := .qualified
  name _ := .dotted
  everything := .one (by simp)

end Inline

end Sql

namespace Statement

section Branches
variable {V : Vocabulary} {d : Dialect} {s : Statement}

/-- What the first branch says before it sorts and cuts its rows. -/
def uncutSql (d : Dialect) (s : Statement) : Sql :=
  (s.primary d).sql ++ Sql.clause " GROUP BY " ", " (s.groupBy.map (·.sql d))

/-- How the first branch sorts and cuts its rows. -/
def cutSql (d : Dialect) (s : Statement) : Sql :=
  Sql.clause " ORDER BY " ", " (s.orderBy.map (·.sql d)) ++ s.page.sql d

/-- The first branch is what it says before it sorts and cuts its rows, and how it does so. -/
lemma primarySql_split : s.primarySql d = s.uncutSql d ++ s.cutSql d := by
  simp [primarySql, uncutSql, cutSql, primary, Select.sql]

/-- The source of the rows stays within the clauses of a SELECT. -/
lemma inline_source (schema table : String) (js : List Join) :
    (fromSql schema table ++ js.flatMap fun j => .fixed " " :: j.sql).Inline :=
  Sql.inherited_inline.source (fun _ _ => .cons (by simp) (.cons (by simp) (.one (by simp))))
    (fun _ _ _ _ => ⟨trivial, trivial⟩) schema table

/-- The select list stays within the clauses of a SELECT. -/
lemma inline_listSql : (s.listSql d).Inline :=
  Sql.inherited_inline.listSql s.from_whole

/-- The filters stay within the clauses of a SELECT. -/
lemma inline_whereSql : (s.whereSql d).Inline :=
  Sql.inherited_inline.whereSql s.from_whole

/-- The SELECT of a further branch stays within its clauses. -/
lemma inline_branch (u : Union) : (s.branch d u).sql.Inline := by
  have source : (fromSql u.schema u.table).Inline := by
    simpa using inline_source u.schema u.table []
  exact (inline_listSql.append source).append inline_whereSql

/-- What the first branch says before it sorts and cuts its rows stays within the clauses of a SELECT. -/
lemma inline_uncutSql : (s.uncutSql d).Inline := by
  refine ((inline_listSql.append (inline_source _ _ _)).append inline_whereSql).append ?_
  exact Sql.inherited_inline.clause (.cons (by simp)) (by simp)
    (List.forall_mem_map.2 fun e mem => Sql.inherited_inline.expr (s.from_whole.groupBy e mem))

/-- The sort terms of the first branch. -/
def termsSql (d : Dialect) (s : Statement) : Sql :=
  Sql.separated ", " (s.orderBy.map (·.sql d))

/-- The sort terms stay within their clause. -/
lemma inline_termsSql : (s.termsSql d).Inline :=
  .separated (by simp) (List.forall_mem_map.2 fun t mem =>
    Sql.inherited_inline.sortTerm (s.from_whole.orderBy t mem))

/-- The rows are sorted if there is a sort term, and then cut. -/
lemma cutSql_eq : s.cutSql d =
    (if s.orderBy = [] then [] else .fixed " ORDER BY " :: s.termsSql d) ++ s.page.sql d := by
  rw [cutSql, termsSql]
  cases s.orderBy <;> simp [Sql.clause]

/-- A window has no parentheses, and no further branch begins in it. -/
lemma page_plain {p : Page} : (p.sql d).shift = 1 ∧ ∀ x ∈ p.sql d, wordUnion ∉ x.begins := by
  cases limit : p.limit <;> cases skip : p.skip? <;> cases d <;>
    simp [Page.sql, limit, skip, wordUnion, wordLimit, wordOffset]

/-- The parentheses match in the clauses that sort and cut the rows. -/
lemma shift_cutSql : (s.cutSql d).shift = 1 := by
  have order : Sql.shift (if s.orderBy = [] then [] else .fixed " ORDER BY " :: s.termsSql d) = 1 := by
    split
    · rfl
    · simp [inline_termsSql.shift]
  rw [cutSql_eq, Sql.shift_append, order, page_plain.1, mul_one]

/-- No further branch begins in the clauses that sort and cut the rows. -/
lemma union_not_begins_cutSql : ∀ p ∈ s.cutSql d, wordUnion ∉ p.begins := by
  have order : ∀ p ∈ (if s.orderBy = [] then [] else .fixed " ORDER BY " :: s.termsSql d : Sql),
      wordUnion ∉ p.begins := by
    split
    · simp
    · refine List.forall_mem_cons.2 ⟨by decide, fun p mem => ?_⟩
      rw [inline_termsSql.plain p mem]
      exact List.not_mem_nil
  rw [cutSql_eq]
  exact List.forall_mem_append.2 ⟨order, page_plain.2⟩

/-- A window that does not hold all rows begins with the word for its limit or its offset. -/
lemma begins_page {p : Page} (cut : p.isAll = false) :
    ∃ r, p.sql d = .fixed " LIMIT " :: r ∨ p.sql d = .fixed " OFFSET " :: r := by
  rw [Page.isAll] at cut
  cases limit : p.limit <;> cases skip : p.skip? <;> cases d <;>
    simp_all [Page.sql]

/-- A page with all rows is not written. -/
lemma page_of_isAll {p : Page} (all : p.isAll = true) : p.sql d = [] := by
  rw [Page.isAll, Bool.and_eq_true, Option.isNone_iff_eq_none, Option.isNone_iff_eq_none] at all
  cases d <;> simp [Page.sql, all]

/-- The first branch sorts or cuts its rows exactly if a word for that stands outside parentheses where
it does so. -/
lemma cut_outside : s.isCut = true ↔ ∃ w ∈ cutWords, w ∈ outside 0 ((s.cutSql d).tokens d) := by
  have order : (Piece.fixed " ORDER BY ").tokens d = [wordOrder, .word ['B', 'Y']] := by
    cases d <;> decide +kernel
  have first {w toks} (plain : w.shift = 1) : w ∈ outside 0 (w :: toks) := by simp [outside, plain]
  constructor
  · intro cut
    rw [cutSql_eq]
    by_cases sorted : s.orderBy = []
    · have paged : s.page.isAll = false := by simpa [isCut, sorted] using cut
      rw [if_pos sorted, List.nil_append]
      obtain ⟨r, e | e⟩ := begins_page (d := d) paged
      · exact ⟨wordLimit, by simp [cutWords], by rw [e, Sql.tokens_cons, Piece.tokens_limit]; exact first rfl⟩
      · exact ⟨wordOffset, by simp [cutWords], by rw [e, Sql.tokens_cons, Piece.tokens_offset]; exact first rfl⟩
    · refine ⟨wordOrder, by simp [cutWords], ?_⟩
      rw [if_neg sorted, List.cons_append, Sql.tokens_cons, order]
      exact first rfl
  · rintro ⟨w, -, mem⟩
    by_contra whole
    have none : s.orderBy = [] ∧ s.page.isAll = true := by simpa [isCut] using whole
    rw [cutSql_eq, if_pos none.1, page_of_isAll none.2] at mem
    cases mem

/-- The parentheses in the first branch match, no further branch begins in it, and it has a word for
sorting or cutting outside parentheses exactly if it sorts or cuts its rows. -/
lemma primary_outside (h : s.Within V) (spared : V.SparesClauses) :
    Lexer.shift ((s.primarySql d).tokens d) = 1 ∧ wordUnion ∉ (s.primarySql d).tokens d ∧
      (s.isCut = true ↔ ∃ w ∈ cutWords, w ∈ outside 0 ((s.primarySql d).tokens d)) := by
  have within : ∀ p ∈ s.uncutSql d ++ s.cutSql d, p.Within V :=
    primarySql_split ▸ (fits_primarySql h).within
  obtain ⟨uncut, cut⟩ := List.forall_mem_append.1 within
  have matched : Lexer.shift ((s.uncutSql d).tokens d) = 1 := by
    rw [Sql.shift_tokens uncut, inline_uncutSql.shift]
  have words := inline_uncutSql.word_not_mem (d := d) uncut spared
  refine ⟨?_, fun mem => ?_, ?_⟩
  · rw [primarySql_split, Sql.shift_tokens within, Sql.shift_append, inline_uncutSql.shift, shift_cutSql,
      one_mul]
  · rw [primarySql_split, Sql.tokens_append] at mem
    rcases List.mem_append.1 mem with mem | mem
    · exact words wordUnion List.mem_cons_self mem
    · obtain ⟨p, inside, begins⟩ := Sql.begins_of_mem cut spared List.mem_cons_self mem
      exact union_not_begins_cutSql p inside begins
  -- up to the grouping no such word is read at all, so only those behind it count
  · rw [cut_outside, primarySql_split, Sql.tokens_append, outside_matched matched]
    refine exists_congr fun w => and_congr_right fun listed => ?_
    rw [List.mem_append, or_iff_right fun mem => ?_]
    exact words w (List.mem_cons_of_mem _ listed) (outside_subset mem)

/-- The first branch of a statement with unions. -/
def firstSql (d : Dialect) (s : Statement) : Sql :=
  if s.isCut then (s.primarySql d).branch d else s.primarySql d

/-- A statement with unions is its first branch and the further branches behind it. -/
lemma sql_unions (several : s.unions ≠ []) :
    s.sql d = s.firstSql d ++ s.unions.flatMap (s.unionSql d) := by
  rw [sql]
  cases e : s.unions with
  | nil => exact absurd e several
  | cons u us => rfl

/-- A phrase that is made the first of several branches is read in parentheses, and what is read before
and after them belongs to no clause that sorts, cuts or adds rows. -/
lemma tokens_branch {q : Sql} : ∃ front back,
    (q.branch d).tokens d = front ++ (.symbol '(' :: q.tokens d ++ .symbol ')' :: back) ∧
      Lexer.shift front = 1 ∧ Lexer.shift back = 1 ∧
        ∀ w ∈ wordUnion :: cutWords, w ∉ front ++ back := by
  have opens : (Piece.fixed "(").tokens d = [.symbol '('] := by cases d <;> decide +kernel
  have closes : (Piece.fixed ")").tokens d = [.symbol ')'] := by cases d <;> decide +kernel
  cases d with
  | postgres | mysql =>
    refine ⟨[], [], ?_, rfl, rfl, by simp⟩
    simp [Sql.branch, Sql.tokens_cons, Sql.tokens_append, Sql.tokens_nil, opens, closes]
  | sqlite =>
    have front : (Piece.fixed "SELECT * FROM (").tokens .sqlite =
        [.word "SELECT".toList, .symbol '*', .word "FROM".toList] ++ [.symbol '('] := by decide +kernel
    have back : (Piece.fixed ") AS t0").tokens .sqlite =
        .symbol ')' :: [wordAs, .word "t0".toList] := by decide +kernel
    refine ⟨[.word "SELECT".toList, .symbol '*', .word "FROM".toList], [wordAs, .word "t0".toList],
      ?_, by decide, by decide, by decide⟩
    simp [Sql.branch, Sql.tokens_cons, Sql.tokens_append, Sql.tokens_nil, front, back]

/-- The first of several branches has matching parentheses, and outside them it has no word for sorting,
cutting or adding rows. -/
lemma first_outside (h : s.Within V) (spared : V.SparesClauses) :
    Lexer.shift ((s.firstSql d).tokens d) = 1 ∧
      ∀ w ∈ wordUnion :: cutWords, w ∉ outside 0 ((s.firstSql d).tokens d) := by
  obtain ⟨matched, union, cut⟩ := primary_outside (d := d) h spared
  rw [firstSql]
  split
  next =>
    obtain ⟨front, back, e, before, after, none⟩ := tokens_branch (d := d) (q := s.primarySql d)
    rw [e]
    constructor
    · simp only [shift_append, shift_cons, before, matched, after]
      decide
    · rw [outside_matched before, outside_enclosed matched]
      intro w listed mem
      refine none w listed (List.mem_append.2 ?_)
      exact (List.mem_append.1 mem).imp (outside_subset ·) (outside_subset ·)
  next whole =>
    refine ⟨matched, List.forall_mem_cons.2 ⟨fun mem => union (outside_subset mem), ?_⟩⟩
    intro w listed mem
    exact whole (cut.2 ⟨w, listed, mem⟩)

/-- The tokens of a further branch behind the word for a union. -/
def rowTokens (d : Dialect) (s : Statement) (u : Union) : List Token :=
  (if u.all then [wordAll] else []) ++ (s.branch d u).sql.tokens d

/-- A further branch has matching parentheses and no word for sorting, cutting or adding rows. -/
lemma row_outside (h : s.Within V) (spared : V.SparesClauses) {u} (mem : u ∈ s.unions) :
    Lexer.shift (s.rowTokens d u) = 1 ∧ ∀ w ∈ wordUnion :: cutWords, w ∉ s.rowTokens d u := by
  have within : ∀ p ∈ (s.branch d u).sql, p.Within V := fun p inside =>
    (fits_unionSql h (h.unions u mem)).within p ((branch_suffix u).subset inside)
  have words := (inline_branch u).word_not_mem (d := d) within spared
  have all : Lexer.shift (if u.all then [wordAll] else []) = 1 ∧
      ∀ w ∈ wordUnion :: cutWords, w ∉ (if u.all then [wordAll] else [] : List Token) := by
    cases u.all <;> decide
  constructor
  · rw [rowTokens, shift_append, all.1, Sql.shift_tokens within, (inline_branch u).shift, one_mul]
  · intro w listed inside
    exact (List.mem_append.1 inside).elim (all.2 w listed) (words w listed)

/-- A statement with unions is read as its first branch and the others, each behind the word for a
union. -/
lemma tokens_unions (several : s.unions ≠ []) : (s.sql d).tokens d =
    (s.firstSql d).tokens d ++ s.unions.flatMap fun u => wordUnion :: s.rowTokens d u := by
  have row (u : Union) : (s.unionSql d u).tokens d = wordUnion :: s.rowTokens d u := by
    have all : (Piece.fixed " UNION ALL ").tokens d = [wordUnion, wordAll] := by
      cases d <;> decide +kernel
    have each : (Piece.fixed " UNION ").tokens d = [wordUnion] := by cases d <;> decide +kernel
    have branch : s.unionSql d u = 
        .fixed (if u.all then " UNION ALL " else " UNION ") :: (s.branch d u).sql := by
      simp [unionSql, branch, Select.sql]
    rw [branch, Sql.tokens_cons, rowTokens]
    cases u.all <;> simp [all, each]
  have rows (us : List Union) : Sql.tokens d (us.flatMap (s.unionSql d)) =
      us.flatMap fun u => wordUnion :: s.rowTokens d u := by
    rw [Sql.tokens, List.flatMap_assoc]
    exact List.flatMap_congr fun u _ => row u
  rw [sql_unions several, Sql.tokens_append, rows]

/-- The branches of a statement with unions stand between the words for a union outside parentheses. -/
lemma split_unions (h : s.Within V) (spared : V.SparesClauses) (several : s.unions ≠ []) :
    splitOutside wordUnion 0 ((s.sql d).tokens d) =
      (s.firstSql d).tokens d :: s.unions.map (s.rowTokens d) := by
  obtain ⟨matched, none⟩ := first_outside (d := d) h spared
  rw [tokens_unions several]
  refine splitOutside_flatMap (by decide) matched (none _ List.mem_cons_self) fun u mem => ?_
  obtain ⟨closed, words⟩ := row_outside (d := d) h spared mem
  exact ⟨closed, fun inside => words _ List.mem_cons_self (outside_subset inside)⟩

/-- Outside parentheses a statement with unions neither sorts nor cuts. -/
lemma uncut_unions (h : s.Within V) (spared : V.SparesClauses) (several : s.unions ≠ []) :
    ∀ w ∈ cutWords, w ∉ outside 0 ((s.sql d).tokens d) := by
  intro w listed
  obtain ⟨matched, none⟩ := first_outside (d := d) h spared
  rw [tokens_unions several, outside_matched matched]
  refine List.not_mem_append (none w (List.mem_cons_of_mem _ listed)) fun inside => ?_
  obtain ⟨u, mem, inside⟩ := List.mem_flatMap.1 (outside_subset inside)
  rcases List.mem_cons.1 inside with rfl | inside
  · exact absurd listed (by decide)
  · exact (row_outside h spared mem).2 w (List.mem_cons_of_mem _ listed) inside

end Branches

end Statement

end QueryRecipe
