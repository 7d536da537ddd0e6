import QueryRecipe.Proofs.Sql.Phrase
import QueryRecipe.Proofs.Statement.Stock

/-!
# Properties that phrases inherit

A property of phrases is inherited if it goes from the columns in a phrase to the phrase
(`Sql.Inherited`): the templates within a clause may be put before a phrase that has it, phrases that have
it may be put one behind the other and in parentheses. All parts of a statement then have the property,
one kind of part after the other, from literals up to the select list and the condition
(`Sql.Inherited.listSql`, `Sql.Inherited.whereSql`). What begins the other clauses is not among the
templates, so a property may well be about these.
-/

namespace QueryRecipe

/-- The templates that stand before and between phrases within a clause. -/
@[simp]
abbrev innerTemplates : List String :=
  [", ", " ", " = ", " AS ", "NULL", "CASE WHEN ", " IS NULL", " OR ", " THEN ", " ELSE ", " END", "TRIM",
    "LTRIM", "RTRIM", "*", "1 = 0", "1 = 1", "=", "!=", ">", ">=", "<", "<=", "IN", "NOT IN", "LIKE",
    "NOT LIKE", "IS NULL", "IS NOT NULL", " AND ", "ASC", "DESC", "INNER JOIN", "LEFT JOIN", "RIGHT JOIN",
    "FULL JOIN", "CROSS JOIN", " ON ", "SELECT ", "SELECT DISTINCT ", " FROM ", " AS t", " WHERE "]

/-- The templates before a phrase in parentheses. -/
@[simp]
abbrev enclosingTemplates : List String :=
  ["(", " (", "CAST(", "REPLACE(", "COALESCE(", "UPPER(", "LOWER(", "COUNT(DISTINCT ",
    "SELECT DISTINCT ON ("]

/-- The templates behind it. -/
@[simp]
abbrev enclosedTemplates : List String :=
  [")", ") "]

/-- Whether a piece may stand anywhere within a clause. -/
@[simp]
def Piece.IsInner : Piece → Prop
  | .fixed s => s ∈ innerTemplates
  | _ => True

/-- Whether a property of phrases is inherited from the columns of a stock. -/
structure Sql.Inherited (S : Stock) (P : Sql → Prop) : Prop where
  nil : P []
  cons {p q} : p.IsInner → P q → P (p :: q)
  append {q r} : P q → P r → P (q ++ r)
  enclosed {s s' q} : s ∈ enclosingTemplates → s' ∈ enclosedTemplates → P q →
    P (.fixed s :: q ++ [.fixed s'])
  titleCase {d q} : P q → P (titleCase d q)
  field {column} : S.column column → P (qualified column)
  name {column} : S.column column → P (dotted column)
  everything : P [.fixed "t.*"]

namespace Sql.Inherited

section Parts
variable {S : Stock} {P : Sql → Prop} {d : Dialect} (h : Inherited S P)
include h

/-- A single piece that may stand within a clause has the property. -/
lemma one {p : Piece} (inner : p.IsInner) : P [p] :=
  h.cons inner h.nil

/-- Phrases in a row have the property if each of them has it. -/
lemma separated {sep : String} {qs : List Sql} (inner : (Piece.fixed sep).IsInner)
    (all : ∀ q ∈ qs, P q) : P (Sql.separated sep qs) :=
  separated_of h.nil (fun hq hr => h.append hq (h.cons inner hr)) all

/-- A clause has the property if its keyword keeps it and each of its parts has it. -/
lemma clause {keyword sep : String} {parts : List Sql} (begins : ∀ {q}, P q → P (.fixed keyword :: q))
    (inner : (Piece.fixed sep).IsInner) (all : ∀ q ∈ parts, P q) : P (Sql.clause keyword sep parts) := by
  cases parts with
  | nil => exact h.nil
  | cons q qs => exact begins (h.separated inner all)

/-- Phrases one behind the other have the property if each of them has it. -/
lemma flatMap {α : Type} {l : List α} {f : α → Sql} (all : ∀ a ∈ l, P (f a)) : P (l.flatMap f) := by
  induction l with
  | nil => exact h.nil
  | cons a l ih =>
    obtain ⟨now, later⟩ := List.forall_mem_cons.1 all
    exact h.append now (ih later)

mutual

/-- A literal has the property. -/
lemma literal : ∀ v : Literal, P (Sql.literal v)
  | .null | .bool _ | .int _ | .string _ => h.one (by simp)
  | .double x => by
    rw [Sql.literal]
    split <;> exact h.one (by simp)
  | .list items => h.enclosed (by simp) (by simp) (literals items)

/-- Literals in a row have the property. -/
lemma literals : ∀ vs : List Literal, P (Sql.literals vs)
  | [] => h.nil
  | [v] => literal v
  | v :: w :: rest => h.append (literal v) (h.cons (by simp) (literals (w :: rest)))

end

/-- A replacement has the property. -/
lemma replacement (r : Replacement) : P r.sql := by
  cases r with
  | literal v => exact h.literal v
  | expression e => exact h.one (by simp)

/-- A changed value has the property if the value has. -/
lemma change {e : Sql} (he : P e) (c : Change) : P (c.sql d e) := by
  cases c with
  | cast dataType =>
    have type : P [.fixed " AS ", .expression dataType] := h.cons (by simp) (h.one (by simp))
    have whole : P (.fixed "CAST(" :: (e ++ _) ++ [Piece.fixed ")"]) :=
      h.enclosed (by simp) (by simp) (h.append he type)
    simpa [Change.sql] using whole
  | substitute old new =>
    have old : P [.fixed ", ", .string old, .fixed ", "] :=
      h.cons (by simp) (h.cons (by simp) (h.one (by simp)))
    exact h.enclosed (by simp) (by simp) (h.append (h.append he old) (h.replacement new))
  | coalesce new =>
    have new : P (.fixed ", " :: new.sql) := h.cons (by simp) (h.replacement new)
    exact h.enclosed (by simp) (by simp) (h.append he new)
  | trim side =>
    have argument : P (.fixed "(" :: e ++ [Piece.fixed ")"]) := h.enclosed (by simp) (by simp) he
    cases side <;> exact h.cons (by simp [TrimSide.function]) argument
  | recase mode =>
    cases mode with
    | upper | lower => exact h.enclosed (by simp) (by simp) he
    | title => exact h.titleCase he
  | fill value emptyToo =>
    have empty : P (if emptyToo then .fixed " OR " :: e ++ [Piece.fixed " = ", .string ""] else []) := by
      split
      · exact h.cons (by simp) (h.append he (h.cons (by simp) (h.one (by simp))))
      · exact h.nil
    have absent : P (.fixed "CASE WHEN " :: e) := h.cons (by simp) he
    have test : P (.fixed " IS NULL" :: _) := h.cons (by simp) empty
    have value : P (.fixed " THEN " :: Sql.literal value) := h.cons (by simp) (h.literal value)
    have other : P (.fixed " ELSE " :: e) := h.cons (by simp) he
    exact h.append (h.append (h.append (h.append absent test) value) other) (h.one (by simp))

/-- An expression has the property if its column has. -/
lemma expr {e : Expr} (made : e.From S) : P (e.sql d) := by
  induction e with
  | field column => exact h.field made
  | name column => exact h.name made
  | changed e c ih => exact h.change (ih made.1) c

/-- A call of an aggregate has the property if its argument has it. -/
lemma aggregate {argument : Sql} (known : P argument) (f : Aggregate) : P (f.sql argument) := by
  cases f with
  | countDistinct => exact h.enclosed (by simp) (by simp) known
  | _ => exact h.cons (by simp) (h.enclosed (by simp) (by simp) known)

/-- An item whose value is made from the stock has the property. -/
lemma item {i : SelectItem} (made : ∀ e ∈ i.value.exprs, e.From S) : P (i.sql d) := by
  obtain ⟨value, label⟩ := i
  have shown : P (value.sql d) := by
    cases value with
    | everything => exact h.everything
    | expr e => exact h.expr (made e List.mem_cons_self)
    | aggregate f argument =>
      cases argument with
      | none => exact h.aggregate (h.one (by simp)) f
      | some e => exact h.aggregate (h.expr (made e List.mem_cons_self)) f
    | written e => exact h.one (by simp)
  cases label with
  | none => exact shown
  | some label => exact h.append shown (h.cons (by simp) (h.one (by simp)))

/-- A condition has the property if its subject has. -/
lemma condition {c : Condition} (made : c.subject.From S) : P (c.sql d) := by
  obtain ⟨subject, comparison, operand⟩ := c
  have compared : P (subject.sql d ++ [Piece.fixed " ", .fixed comparison.symbol]) := by
    refine h.append (h.expr made) (h.cons (by simp) (h.one ?_))
    cases comparison <;> simp [Comparison.symbol]
  cases comparison with
  | isNull | isNotNull => exact compared
  | isIn | notIn =>
    rw [Condition.sql]
    cases operand.members with
    | nil => exact h.one (by simp)
    | cons v vs =>
      have members : P (Sql.commas ((v :: vs).map Sql.literal)) :=
        h.separated (by simp) (List.forall_mem_map.2 fun v _ => h.literal v)
      have listed : P (.fixed " (" :: Sql.commas ((v :: vs).map Sql.literal) ++ [Piece.fixed ")"]) :=
        h.enclosed (by simp) (by simp) members
      have whole := h.append compared listed
      rwa [← List.append_assoc] at whole
  | like | notLike =>
    rw [Condition.sql]
    refine h.append compared (h.cons (by simp) (h.one ?_))
    split <;> simp
  | _ => exact h.append compared (h.cons (by simp) (h.literal operand))

/-- A filter whose subjects are made from the stock has the property. -/
lemma filter {f : Filter} (made : ∀ c ∈ f.conditions, c.subject.From S) : P (f.sql d) := by
  refine h.enclosed (by simp) (by simp) (h.separated ?_ ?_)
  · cases f.connective <;> simp [Connective.keyword]
  · exact List.forall_mem_map.2 fun c mem => h.condition (made c mem)

/-- A sort term whose subject is made from the stock has the property. -/
lemma sortTerm {t : SortTerm} (made : t.subject.From S) : P (t.sql d) := by
  refine h.append (h.expr made) (h.cons (by simp) (h.one ?_))
  cases t.direction <;> simp [Direction.keyword]

/-- A head that is made from the stock has the property. -/
lemma head {head : Head} (made : ∀ e ∈ head.exprs, e.From S) : P (head.sql d) := by
  cases head with
  | all | distinct => exact h.one (by simp)
  | distinctOn columns =>
    refine h.enclosed (by simp) (by simp) (h.separated (by simp) ?_)
    exact List.forall_mem_map.2 fun e mem => h.expr (made e mem)

end Parts

section Source
-- tables are written with their schemas, so the property has to hold of any two names with a dot between
variable {S : Stock} {P : Sql → Prop} (h : Inherited S P)
  (dot : ∀ x y : String, P [.name x, .fixed ".", .name y])
include h dot

/-- A table with its schema has the property. -/
lemma table (schema table : String) : P (Sql.table schema table) := by
  rw [Sql.table]
  split
  · exact h.one (by simp)
  · exact dot schema table

/-- The key of a join has the property if the stock has its columns. -/
lemma key {label : String} {key : String × String} (made : S.column key.1 ∧ S.column key.2) :
    P (Join.keySql label key) := by
  rw [Join.keySql]
  refine h.append (h.field made.1) (h.cons (by simp) ?_)
  split
  · exact h.name made.2
  · exact dot label key.2

/-- A join has the property if the stock has the columns of its keys. -/
lemma join {j : Join} (made : ∀ k ∈ j.keys, S.column k.1 ∧ S.column k.2) : P j.sql := by
  have table : P (.fixed j.kind.keyword :: .fixed " " :: Sql.table j.schema j.table) := by
    refine h.cons ?_ (h.cons (by simp) (h.table dot j.schema j.table))
    cases j.kind <;> simp [JoinKind.keyword]
  have label : P [.fixed " AS ", .name j.label] := h.cons (by simp) (h.one (by simp))
  rw [Join.sql]
  refine h.append (h.append table label) ?_
  split
  · exact h.nil
  · refine h.cons (by simp) (h.separated (by simp) ?_)
    exact List.forall_mem_map.2 fun k mem => h.key dot (made k mem)

/-- The source of rows has the property if the columns in the joins have. -/
lemma source {js : List Join} (made : ∀ j ∈ js, ∀ k ∈ j.keys, S.column k.1 ∧ S.column k.2)
    (schema table : String) :
    P (Statement.fromSql schema table ++ js.flatMap fun j => .fixed " " :: j.sql) := by
  have joins : P (js.flatMap fun j => .fixed " " :: j.sql) :=
    h.flatMap fun j mem => h.cons (by simp) (h.join dot (made j mem))
  exact h.append (h.cons (by simp) (h.append (h.table dot schema table) (h.one (by simp)))) joins

end Source

section Clauses
variable {S : Stock} {P : Sql → Prop} {d : Dialect} {s : Statement} (h : Inherited S P) (made : s.From S)
include h made

/-- The select list has the property if the columns of a statement have. -/
lemma listSql : P (s.listSql d) := by
  refine h.append (h.head made.head) (h.separated (by simp) ?_)
  exact List.forall_mem_map.2 fun i mem => h.item (made.items i mem)

/-- The condition has the property if the columns of a statement have. -/
lemma whereSql : P (s.whereSql d) := by
  refine h.clause (h.cons (by simp)) (by simp) ?_
  exact List.forall_mem_map.2 fun f mem => h.filter fun c inside => (made.filters f mem c inside).subject

end Clauses

end Sql.Inherited

end QueryRecipe
