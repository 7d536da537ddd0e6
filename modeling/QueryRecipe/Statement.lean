import QueryRecipe.Query

/-!
# Statements

A statement is a query brought into the clauses of SQL: the items of the select list in their final
order, the sort order, the window on the rows, and the branches of a union. Its phrase puts the clauses
one after the other; a clause with nothing in it is left out.
-/

namespace QueryRecipe

/-- A table that rows are read from. -/
structure Source where
  schema : String
  table : String
  deriving DecidableEq, Repr

/-- What an item of the select list shows. -/
inductive ItemValue where
  /-- All columns of the source table. -/
  | everything
  | expr (e : Expr)
  /-- An aggregate of the values of an expression, or of whole rows. -/
  | aggregate (f : Aggregate) (argument : Option Expr)
  /-- A screened expression. -/
  | written (expression : String)
  deriving DecidableEq, Repr

/-- An item of the select list. -/
structure SelectItem where
  value : ItemValue
  label : Option String := none
  deriving DecidableEq, Repr

/-- How a select list begins. -/
inductive Head where
  | all
  | distinct
  | distinctOn (columns : List Expr)
  deriving DecidableEq, Repr

/-- A statement. -/
structure Statement where
  head : Head
  items : List SelectItem
  source : Source
  joins : List Join
  filters : List Filter
  groupBy : List Expr
  orderBy : List SortTerm
  page : Page
  unions : List Union
  deriving DecidableEq, Repr

/-- The phrase of a value in the select list. -/
def ItemValue.sql (d : Dialect) : ItemValue → Sql
  | .everything => [.fixed "t.*"]
  | .expr e => e.sql d
  | .aggregate f none => f.sql [.fixed "*"]
  | .aggregate f (some e) => f.sql (e.sql d)
  | .written expression => [.expression expression]

/-- The phrase of an item. -/
def SelectItem.sql (d : Dialect) (i : SelectItem) : Sql :=
  match i.label with
  | none => i.value.sql d
  | some label => i.value.sql d ++ [.fixed " AS ", .name label]

/-- The phrase of a condition. Membership in nothing never holds. -/
def Condition.sql (d : Dialect) (c : Condition) : Sql :=
  let symbol : Sql := [.fixed " ", .fixed c.comparison.symbol]
  match c.comparison with
  | .isNull | .isNotNull => c.subject.sql d ++ symbol
  | .isIn | .notIn =>
    match c.operand.members with
    | [] => [.fixed (if c.comparison = .isIn then "1 = 0" else "1 = 1")]
    | vs => c.subject.sql d ++ symbol ++ .fixed " (" :: Sql.commas (vs.map Sql.literal) ++ [.fixed ")"]
  | .like | .notLike =>
    let pattern : Piece := if c.operand.isNull then .fixed "NULL" else .string c.operand.text
    c.subject.sql d ++ symbol ++ [.fixed " ", pattern]
  | _ => c.subject.sql d ++ symbol ++ .fixed " " :: Sql.literal c.operand

/-- The phrase of a filter, in parentheses. -/
def Filter.sql (d : Dialect) (f : Filter) : Sql :=
  .fixed "(" ::
    Sql.separated (" " ++ f.connective.keyword ++ " ") (f.conditions.map (·.sql d)) ++ [.fixed ")"]

/-- The phrase of a sort term. -/
def SortTerm.sql (d : Dialect) (t : SortTerm) : Sql :=
  t.subject.sql d ++ [.fixed " ", .fixed t.direction.keyword]

/-- The condition that a pair of columns is equal. A right column without a table belongs to the joined
one. -/
def Join.keySql (label : String) (key : String × String) : Sql :=
  let right :=
    if Sql.isDotted key.2 then Sql.dotted key.2 else [.name label, .fixed ".", .name key.2]
  Sql.qualified key.1 ++ .fixed " = " :: right

/-- The phrase of a join. -/
def Join.sql (j : Join) : Sql :=
  let on :=
    if j.kind = .cross then []
    else .fixed " ON " :: Sql.separated " AND " (j.keys.map (keySql j.label))
  .fixed j.kind.keyword :: .fixed " " :: Sql.table j.schema j.table ++
    [.fixed " AS ", .name j.label] ++ on

/-- The greatest number of rows that MySQL counts, in place of having no limit. -/
def Page.mostRows : String :=
  "18446744073709551615"

/-- The clauses of a window. Passing over rows without a limit needs a limit that holds all rows, except
in PostgreSQL. -/
def Page.sql (d : Dialect) (p : Page) : Sql :=
  let number (n : UInt64) : Piece := .number (Text.naturalText n.toNat)
  let limit := p.limit.elim [] fun n => [.fixed " LIMIT ", number n]
  let offset := p.skip?.elim [] fun m => [.fixed " OFFSET ", number m]
  match d, p.limit, p.skip? with
  | .mysql, some n, some m => [.fixed " LIMIT ", number m, .fixed ", ", number n]
  | .mysql, none, some m => [.fixed " LIMIT ", number m, .fixed ", ", .number Page.mostRows]
  | .sqlite, none, some _ => .fixed " LIMIT " :: .number "-1" :: offset
  | _, _, _ => limit ++ offset

/-- The phrase of a head. -/
def Head.sql (d : Dialect) : Head → Sql
  | .all => [.fixed "SELECT "]
  | .distinct => [.fixed "SELECT DISTINCT "]
  | .distinctOn columns =>
    .fixed "SELECT DISTINCT ON (" :: Sql.commas (columns.map (·.sql d)) ++ [.fixed ") "]

/-- A clause with its keyword, if there is anything in it. -/
def Sql.clause (keyword sep : String) : List Sql → Sql
  | [] => []
  | parts => .fixed keyword :: Sql.separated sep parts

/-- A statement in the form that may be the first branch of a union although it sorts or cuts its
rows. -/
def Sql.branch (d : Dialect) (q : Sql) : Sql :=
  match d with
  | .postgres | .mysql => .fixed "(" :: q ++ [.fixed ")"]
  | .sqlite => .fixed "SELECT * FROM (" :: q ++ [.fixed ") AS t0"]

namespace Statement

/-- The head and the select list, which all branches share. -/
def listSql (d : Dialect) (s : Statement) : Sql :=
  s.head.sql d ++ Sql.commas (s.items.map (·.sql d))

/-- The clause of a table under the alias of the source table. -/
def fromSql (schema table : String) : Sql :=
  .fixed " FROM " :: Sql.table schema table ++ [.fixed " AS t"]

/-- The clause of the filters, which all branches share. -/
def whereSql (d : Dialect) (s : Statement) : Sql :=
  Sql.clause " WHERE " " AND " (s.filters.map (·.sql d))

/-- The first branch. -/
def primarySql (d : Dialect) (s : Statement) : Sql :=
  s.listSql d ++ fromSql s.source.schema s.source.table ++
    s.joins.flatMap (fun j => .fixed " " :: j.sql) ++ s.whereSql d ++
    Sql.clause " GROUP BY " ", " (s.groupBy.map (·.sql d)) ++
    Sql.clause " ORDER BY " ", " (s.orderBy.map (·.sql d)) ++ s.page.sql d

/-- A further branch. -/
def unionSql (d : Dialect) (s : Statement) (u : Union) : Sql :=
  .fixed (if u.all then " UNION ALL " else " UNION ") :: s.listSql d ++ fromSql u.schema u.table ++
    s.whereSql d

/-- Whether the first branch sorts or cuts its rows. -/
def isCut (s : Statement) : Bool :=
  s.orderBy != [] || !s.page.isAll

/-- The phrase of a statement. -/
def sql (d : Dialect) (s : Statement) : Sql :=
  match s.unions with
  | [] => s.primarySql d
  | unions =>
    let primary := s.primarySql d
    (if s.isCut then primary.branch d else primary) ++ unions.flatMap (s.unionSql d)

end Statement

/-- The phrase that counts the rows of a statement. -/
def Sql.counted (q : Sql) : Sql :=
  .fixed "SELECT COUNT(*) AS total FROM (" :: q ++ [.fixed ") AS count_subquery"]

end QueryRecipe
