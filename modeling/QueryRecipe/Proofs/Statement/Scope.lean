import QueryRecipe.Proofs.Sql.Scope
import QueryRecipe.Proofs.Statement.Fits
import QueryRecipe.Proofs.Statement.Inherited

/-!
# The tables that a SELECT refers to

Each SELECT of a statement has a select list, a source of rows and a condition (`Select`). The list and
the condition refer to tables by `t` and by the first parts of dotted column names; the source of the
first SELECT brings in `t` and the aliases of the joins, that of a further one `t` alone
(`Statement.reads_selects`).
-/

namespace QueryRecipe

/-- The table that a dotted column name begins with. -/
def Sql.root? (column : String) : Option String :=
  if isDotted column then (Text.split '.' column).head? else none

/-- Columns that begin with a table with a property, if they are dotted, and whatever else. -/
def Stock.rooted (P : String → Prop) : Stock where
  column c := ∀ x ∈ Sql.root? c, P x
  change _ := True
  operand _ _ := True

/-- A SELECT: what stands before its source of rows, the source, and the condition on the rows. -/
structure Select where
  list : Sql
  source : Sql
  condition : Sql

namespace Statement

/-- The first SELECT of a statement. -/
def primary (d : Dialect) (s : Statement) : Select where
  list := s.listSql d
  source := fromSql s.source.schema s.source.table ++ s.joins.flatMap fun j => .fixed " " :: j.sql
  condition := s.whereSql d

/-- The SELECT of a further branch. -/
def branch (d : Dialect) (s : Statement) (u : Union) : Select where
  list := s.listSql d
  source := fromSql u.schema u.table
  condition := s.whereSql d

/-- The SELECTs of a statement. -/
def selects (d : Dialect) (s : Statement) : List Select :=
  s.primary d :: s.unions.map (s.branch d)

end Statement

namespace Select

/-- The phrase of a SELECT without what groups, sorts and cuts its rows. -/
def sql (s : Select) : Sql :=
  s.list ++ s.source ++ s.condition

/-- The names that qualify others in the select list and the condition, as a dialect reads them. -/
def qualifiers? (d : Dialect) (s : Select) : Option (List String) := do
  let list ← Lexer.lex d (s.list.spelling d)
  let condition ← Lexer.lex d (s.condition.spelling d)
  return Lexer.qualifiers list ++ Lexer.qualifiers condition

/-- The aliases that the source brings in, as a dialect reads them. -/
def aliases? (d : Dialect) (s : Select) : Option (List String) :=
  Lexer.aliases <$> Lexer.lex d (s.source.spelling d)

/-- Whether each qualifier that a dialect reads in a SELECT is `t` or an alias of its own source. -/
def IsScoped (d : Dialect) (s : Select) : Prop :=
  ∃ used bound, s.qualifiers? d = some used ∧ s.aliases? d = some bound ∧
    ∀ x ∈ used, x = "t" ∨ x ∈ bound

end Select

namespace Sql

section Scoped
variable {P : String → Prop} {d : Dialect}

/-- A dotted name refers to the table that it begins with. -/
lemma Scoped.name {column} (h : ∀ x ∈ root? column, P x) : Scoped P (Sql.dotted column) := by
  cases e : Text.split '.' column with
  | nil => simp [Text.split, Text.splitAtChar_ne_nil] at e
  | cons n ns =>
    rw [Sql.dotted, e, ← List.append_nil (Sql.separated _ _)]
    refine .dotted (fun parts => h n ?_) .nil
    have dots : isDotted column = true := by
      by_contra plain
      have alone : '.' ∉ column.toList := by simpa [isDotted] using plain
      rw [Text.split, Text.splitAtChar_of_not_mem alone] at e
      exact parts (List.cons.inj e).2.symm
    rw [root?, if_pos dots, e]
    rfl

/-- A column refers to the source table or to the table that it begins with. -/
lemma Scoped.qualified {column} (own : P "t") (h : ∀ x ∈ root? column, P x) :
    Scoped P (Sql.qualified column) := by
  rw [Sql.qualified]
  split
  · exact .name h
  · exact .own own .nil

/-- No template within a clause or around a phrase has a dot. -/
lemma plainTemplates_dot : ∀ s ∈ innerTemplates ++ (enclosingTemplates ++ enclosedTemplates),
    ¬ (Piece.fixed s).HasDot := by
  unfold Piece.HasDot
  decide

/-- Phrases refer to what the columns in them do, and to the source table. -/
lemma inherited_scoped (own : P "t") : Inherited (.rooted P) (Scoped P) where
  nil := .nil
  cons {p q} inner hq := by
    refine .cons ?_ hq
    cases p with
    | fixed s => exact plainTemplates_dot s (List.mem_append_left _ inner)
    | _ => simp
  append := .append
  enclosed opens closes hq := by
    have front := plainTemplates_dot _ (List.mem_append_right _ (List.mem_append_left _ opens))
    have back := plainTemplates_dot _ (List.mem_append_right _ (List.mem_append_right _ closes))
    exact .cons front (hq.append (.one back))
  titleCase {d q} hq := by
    cases d with
    | postgres => exact .cons (by simp) (hq.append (.one (by simp)))
    | mysql | sqlite =>
      exact .cons (by simp) ((hq.append (.cons (by simp) hq)).append (.one (by simp)))
  field := .qualified own
  name := .name
  everything := .star own .nil

end Scoped

section Binds

/-- A column brings in no table. -/
lemma binds_dotted {column : String} : Binds (Sql.dotted column) [] := by
  refine .separated (by simp) (List.forall_mem_map.2 fun n _ => ?_)
  exact .of_plain (by simp)

/-- The name of a table brings in no alias. -/
lemma binds_table {schema table : String} : Binds (Sql.table schema table) [] := by
  rw [Sql.table]
  split <;> exact .of_plain (by simp)

/-- The condition of a join brings in nothing. -/
lemma binds_key {label : String} {key : String × String} : Binds (Join.keySql label key) [] := by
  have left : Binds (Sql.qualified key.1) [] := by
    rw [Sql.qualified]
    split
    · exact binds_dotted
    · exact .of_plain (by simp)
  rw [Join.keySql]
  refine left.append (.cons (by simp) ?_)
  split
  · exact binds_dotted
  · exact .of_plain (by simp)

/-- A join brings in its alias. -/
lemma binds_join {j : Join} : Binds j.sql [j.label] := by
  have table : Binds (.fixed j.kind.keyword :: .fixed " " :: Sql.table j.schema j.table) [] := by
    cases j.kind <;>
      exact .cons (by simp [JoinKind.keyword]) (.cons (by simp) binds_table)
  rw [Join.sql]
  refine (table.append (.label .nil)).append ?_
  split
  · exact .nil
  · exact .cons (by simp) (.separated (by simp) (List.forall_mem_map.2 fun k _ => binds_key))

end Binds

end Sql

namespace Statement

section Select
variable {V : Vocabulary} {P : String → Prop} {d : Dialect} {s : Statement}

/-- The source of rows of a SELECT brings in `t` for its table. -/
lemma binds_fromSql {schema table : String} : (fromSql schema table).Binds ["t"] :=
  Sql.Binds.cons (by simp) (Sql.binds_table.append (.source .nil))

/-- The first SELECT brings in `t` and the aliases of the joins. -/
lemma binds_primary : (s.primary d).source.Binds ("t" :: s.joins.map (·.label)) := by
  have joins : ∀ js : List Join,
      Sql.Binds (js.flatMap fun j => .fixed " " :: j.sql) (js.map (·.label)) := by
    intro js
    induction js with
    | nil => exact .nil
    | cons j js ih => exact (Sql.Binds.cons (by simp) Sql.binds_join).append ih
  exact binds_fromSql.append (joins s.joins)

/-- The first SELECT begins the first branch. -/
lemma primary_prefix : (s.primary d).sql <+: s.primarySql d := by
  refine ⟨Sql.clause " GROUP BY " ", " (s.groupBy.map (·.sql d)) ++
    Sql.clause " ORDER BY " ", " (s.orderBy.map (·.sql d)) ++ s.page.sql d, ?_⟩
  simp [Select.sql, primary, primarySql]

/-- A further SELECT is what follows the keyword of its branch. -/
lemma branch_suffix (u : Union) : (s.branch d u).sql <:+ s.unionSql d u := by
  refine ⟨[.fixed (if u.all then " UNION ALL " else " UNION ")], ?_⟩
  simp [Select.sql, branch, unionSql]

/-- The qualifiers of a SELECT are those in the tokens of its select list and its condition. -/
lemma qualifiers?_eq {r : Select} (fits : r.sql.Fits V) : r.qualifiers? d =
    some (Lexer.qualifiers (r.list.tokens d) ++ Lexer.qualifiers (r.condition.tokens d)) := by
  have list : r.list.Fits V :=
    fits.of_part ((List.prefix_append _ _).trans (List.prefix_append _ _)).isInfix
  have condition : r.condition.Fits V := fits.of_part (List.suffix_append _ _).isInfix
  rw [Select.qualifiers?, list.lex, condition.lex]
  rfl

/-- The aliases of a SELECT are those that its source binds. -/
lemma aliases?_eq {r : Select} {names} (source : r.source.Fits V) (binds : r.source.Binds names) :
    r.aliases? d = some names := by
  rw [Select.aliases?, source.lex, ← binds.aliases (d := d) source.within]
  rfl

/-- The source of a SELECT fits if the SELECT does. -/
lemma fits_source {r : Select} (fits : r.sql.Fits V) : r.source.Fits V :=
  fits.of_part ⟨r.list, r.condition, rfl⟩

/-- What the dialect reads in the SELECTs of a statement: all of them have the same qualifiers, which
are `t` and tables that dotted columns begin with, but the aliases of the joins are those of the first
one only. -/
lemma reads_selects (h : s.Within V) : ∃ used,
    (s.primary d).qualifiers? d = some used ∧
    (s.primary d).aliases? d = some ("t" :: s.joins.map (·.label)) ∧
    (∀ u ∈ s.unions, (s.branch d u).qualifiers? d = some used ∧
      (s.branch d u).aliases? d = some ["t"]) ∧
    ∀ P : String → Prop, P "t" → s.From (.rooted P) → ∀ x ∈ used, P x := by
  have first : (s.primary d).sql.Fits V := (fits_primarySql h).of_part primary_prefix.isInfix
  have others : ∀ u ∈ s.unions, (s.branch d u).sql.Fits V := fun u mem =>
    (fits_unionSql h (h.unions u mem)).of_part (branch_suffix u).isInfix
  refine ⟨_, qualifiers?_eq first, aliases?_eq (fits_source first) binds_primary, fun u mem => ?_, ?_⟩
  · exact ⟨qualifiers?_eq (others u mem), aliases?_eq (fits_source (others u mem)) binds_fromSql⟩
  · intro P own known
    refine List.forall_mem_append.2 ⟨?_, ?_⟩
    · exact (((Sql.inherited_scoped own).listSql known).tokens (fits_listSql h).within).qualifiers
    · exact (((Sql.inherited_scoped own).whereSql known).tokens (fits_whereSql h).within).qualifiers

end Select

end Statement

end QueryRecipe
