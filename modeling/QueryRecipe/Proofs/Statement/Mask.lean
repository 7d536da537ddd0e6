import QueryRecipe.Proofs.Sql.Mask
import QueryRecipe.Statement

/-!
# Statements with their strings emptied

A statement holds strings in the operands of conditions and in the changes to columns. Emptying them
changes its phrase in its strings only (`Statement.mask_sql`): which pieces a statement is written with
does not depend on what its strings say. The one exception is a single string under a membership test,
which is cut at its commas and therefore stays as it is.
-/

namespace QueryRecipe

namespace Literal

mutual

/-- A literal with its strings emptied. -/
def mask : Literal → Literal
  | .string _ => .string ""
  | .list items => .list (maskList items)
  | v => v

/-- The items of a list with their strings emptied. -/
def maskList : List Literal → List Literal
  | [] => []
  | v :: rest => mask v :: maskList rest

end

/-- An operand with its strings emptied, as far as they do not decide how it is written: a string that
is tested for membership is cut at its commas. -/
def maskOperand : Comparison → Literal → Literal
  | .isIn, .string s => .string s
  | .notIn, .string s => .string s
  | _, v => v.mask

/-- The items of a list are emptied one by one. -/
lemma maskList_eq_map {vs : List Literal} : maskList vs = vs.map mask := by
  induction vs with
  | nil => rfl
  | cons v vs ih => rw [maskList, ih, List.map_cons]

end Literal

/-- A replacement with its strings emptied. -/
def Replacement.mask : Replacement → Replacement
  | .literal v => .literal v.mask
  | .expression e => .expression e

/-- A change with its strings emptied. -/
def Change.mask : Change → Change
  | .substitute _ new => .substitute "" new.mask
  | .coalesce new => .coalesce new.mask
  | .fill value emptyToo => .fill value.mask emptyToo
  | c => c

/-- An expression with its strings emptied. -/
def Expr.mask : Expr → Expr
  | .changed e change => .changed e.mask change.mask
  | e => e

/-- A value of the select list with its strings emptied. -/
def ItemValue.mask : ItemValue → ItemValue
  | .expr e => .expr e.mask
  | .aggregate f argument => .aggregate f (argument.map Expr.mask)
  | v => v

/-- An item with its strings emptied. -/
def SelectItem.mask (i : SelectItem) : SelectItem :=
  { i with value := i.value.mask }

/-- A head with its strings emptied. -/
def Head.mask : Head → Head
  | .distinctOn columns => .distinctOn (columns.map Expr.mask)
  | h => h

/-- A condition with its strings emptied. -/
def Condition.mask (c : Condition) : Condition where
  subject := c.subject.mask
  comparison := c.comparison
  operand := c.operand.maskOperand c.comparison

/-- A filter with its strings emptied. -/
def Filter.mask (f : Filter) : Filter :=
  { f with conditions := f.conditions.map Condition.mask }

/-- A sort term with its strings emptied. -/
def SortTerm.mask (t : SortTerm) : SortTerm :=
  { t with subject := t.subject.mask }

/-- A statement with its strings emptied. -/
def Statement.mask (s : Statement) : Statement :=
  { s with
    head := s.head.mask
    items := s.items.map SelectItem.mask
    filters := s.filters.map Filter.mask
    groupBy := s.groupBy.map Expr.mask
    orderBy := s.orderBy.map SortTerm.mask }

section Mask
variable {d : Dialect}

mutual

/-- A literal with its strings emptied is written like the literal, but for strings. -/
lemma Literal.mask_sql : ∀ v : Literal, (Sql.literal v.mask).mask = (Sql.literal v).mask
  | .null | .bool _ | .int _ | .double _ => rfl
  | .string s => rfl
  | .list items => by
    simp [Literal.mask, Sql.literal, Literal.maskList_sql items]

/-- Literals with their strings emptied are written like the literals, but for strings. -/
lemma Literal.maskList_sql : ∀ vs : List Literal,
    (Sql.literals (Literal.maskList vs)).mask = (Sql.literals vs).mask
  | [] => rfl
  | [v] => Literal.mask_sql v
  | v :: w :: rest => by
    have later := Literal.maskList_sql (w :: rest)
    rw [Literal.maskList] at later
    simp [Literal.maskList, Sql.literals, Literal.mask_sql v, later]

end

/-- A replacement with its strings emptied is written like the replacement, but for strings. -/
lemma Replacement.mask_sql (r : Replacement) : r.mask.sql.mask = r.sql.mask := by
  cases r with
  | literal v => exact v.mask_sql
  | expression e => rfl

/-- A change is written around phrases that are the same up to strings in the same way. -/
lemma Change.mask_sql (c : Change) {e e' : Sql} (h : e.mask = e'.mask) :
    (c.mask.sql d e).mask = (c.sql d e').mask := by
  cases c with
  | cast dataType => simp [Change.mask, Change.sql, h]
  | substitute old new => simp [Change.mask, Change.sql, h, new.mask_sql]
  | coalesce new => simp [Change.mask, Change.sql, h, new.mask_sql]
  | trim side => simp [Change.mask, Change.sql, h]
  | recase mode =>
    cases mode with
    | upper | lower => simp [Change.mask, Change.sql, h]
    | title => cases d <;> simp [Change.mask, Change.sql, Sql.titleCase, h]
  | fill value emptyToo => cases emptyToo <;> simp [Change.mask, Change.sql, h, value.mask_sql]

/-- An expression with its strings emptied is written like the expression, but for strings. -/
lemma Expr.mask_sql (e : Expr) : (e.mask.sql d).mask = (e.sql d).mask := by
  induction e with
  | field column | name column => rfl
  | changed e change ih => exact change.mask_sql ih

/-- Calls of an aggregate are written alike but for strings if their arguments are. -/
lemma Aggregate.mask_sql (f : Aggregate) {e e' : Sql} (h : e.mask = e'.mask) :
    (f.sql e).mask = (f.sql e').mask := by
  cases f <;> simp [Aggregate.sql, h]

/-- A value with its strings emptied is written like the value, but for strings. -/
lemma ItemValue.mask_sql (v : ItemValue) : (v.mask.sql d).mask = (v.sql d).mask := by
  cases v with
  | everything | written => rfl
  | expr e => exact e.mask_sql
  | aggregate f argument =>
    cases argument with
    | none => rfl
    | some e => exact f.mask_sql e.mask_sql

/-- An item with its strings emptied is written like the item, but for strings. -/
lemma SelectItem.mask_sql (i : SelectItem) : (i.mask.sql d).mask = (i.sql d).mask := by
  obtain ⟨value, label⟩ := i
  cases label with
  | none => exact value.mask_sql
  | some label => simp [SelectItem.mask, SelectItem.sql, value.mask_sql]

/-- The members of an emptied operand are written like those of the operand, up to strings. -/
lemma Literal.members_maskOperand (v : Literal) {c : Comparison} (h : c = .isIn ∨ c = .notIn) :
    ((v.maskOperand c).members.map Sql.literal).map Sql.mask =
      (v.members.map Sql.literal).map Sql.mask := by
  have list (items : List Literal) : ((Literal.maskList items).map Sql.literal).map Sql.mask =
      (items.map Sql.literal).map Sql.mask := by
    rw [maskList_eq_map]
    exact Sql.map_mask_eq Literal.mask_sql items
  rcases h with rfl | rfl <;>
    cases v <;> simp only [maskOperand, Literal.mask, members, list]

/-- A literal with its strings emptied is null exactly if the literal is. -/
lemma Literal.isNull_mask (v : Literal) : v.mask.isNull = v.isNull := by
  cases v <;> rfl

/-- A condition with its strings emptied is written like the condition, but for strings. -/
lemma Condition.mask_sql (c : Condition) : (c.mask.sql d).mask = (c.sql d).mask := by
  obtain ⟨subject, comparison, operand⟩ := c
  have compared := subject.mask_sql (d := d)
  have literal := operand.mask_sql
  have members := operand.members_maskOperand (c := comparison)
  cases comparison with
  | isNull | isNotNull => simp [Condition.mask, Condition.sql, compared]
  | isIn | notIn =>
    have members := members (by simp)
    simp only [Condition.mask, Condition.sql]
    cases e : operand.members with
    | nil =>
      rw [e, List.map_nil, List.map_nil, List.map_eq_nil_iff, List.map_eq_nil_iff] at members
      simp [members]
    | cons v vs =>
      rw [e] at members
      split
      next none => simp [none] at members
      next =>
        have listed := Sql.mask_separated_eq ", " members
        simp [Sql.commas, compared, listed]
  | like | notLike =>
    have null := operand.isNull_mask
    cases e : operand.isNull <;> simp [Condition.mask, Literal.maskOperand, Condition.sql, compared, null, e]
  | _ => simp [Condition.mask, Literal.maskOperand, Condition.sql, compared, literal]

/-- A filter with its strings emptied is written like the filter, but for strings. -/
lemma Filter.mask_sql (f : Filter) : (f.mask.sql d).mask = (f.sql d).mask := by
  have conditions := Sql.mask_separated_eq (" " ++ f.connective.keyword ++ " ")
    (Sql.map_mask_eq (Condition.mask_sql (d := d)) f.conditions)
  simp only [Filter.mask, Filter.sql, Sql.mask_append, Sql.mask_cons, conditions]

/-- A sort term with its strings emptied is written like the term, but for strings. -/
lemma SortTerm.mask_sql (t : SortTerm) : (t.mask.sql d).mask = (t.sql d).mask := by
  simp [SortTerm.mask, SortTerm.sql, t.subject.mask_sql]

/-- A head with its strings emptied is written like the head, but for strings. -/
lemma Head.mask_sql (h : Head) : (h.mask.sql d).mask = (h.sql d).mask := by
  cases h with
  | all | distinct => rfl
  | distinctOn columns =>
    have listed := Sql.mask_separated_eq ", " (Sql.map_mask_eq (Expr.mask_sql (d := d)) columns)
    simp only [Head.mask, Head.sql, Sql.commas, Sql.mask_append, Sql.mask_cons, listed]

/-- Clauses are written alike but for strings if their parts are. -/
lemma Sql.mask_clause_eq (keyword sep : String) {qs qs' : List Sql}
    (h : qs.map mask = qs'.map mask) :
    (Sql.clause keyword sep qs).mask = (Sql.clause keyword sep qs').mask := by
  have joined := mask_separated_eq sep h
  cases qs with
  | nil =>
    rw [List.map_nil, eq_comm, List.map_eq_nil_iff] at h
    rw [h]
  | cons q qs =>
    cases qs' with
    | nil => cases h
    | cons q' qs' => simp only [Sql.clause, mask_cons, joined]

namespace Statement

variable (s : Statement)

/-- The select list depends on the strings in its own strings only. -/
lemma mask_listSql : (s.mask.listSql d).mask = (s.listSql d).mask := by
  have items := Sql.mask_separated_eq ", " (Sql.map_mask_eq (SelectItem.mask_sql (d := d)) s.items)
  simp only [Statement.mask, listSql, Sql.commas, Sql.mask_append, s.head.mask_sql, items]

/-- The filters depend on the strings in their own strings only. -/
lemma mask_whereSql : (s.mask.whereSql d).mask = (s.whereSql d).mask :=
  Sql.mask_clause_eq _ _ (Sql.map_mask_eq (Filter.mask_sql (d := d)) s.filters)

/-- The first branch depends on the strings in its own strings only. -/
lemma mask_primarySql : (s.mask.primarySql d).mask = (s.primarySql d).mask := by
  have groupBy := Sql.mask_clause_eq " GROUP BY " ", "
    (Sql.map_mask_eq (Expr.mask_sql (d := d)) s.groupBy)
  have orderBy := Sql.mask_clause_eq " ORDER BY " ", "
    (Sql.map_mask_eq (SortTerm.mask_sql (d := d)) s.orderBy)
  simp only [primarySql, Sql.mask_append, s.mask_listSql, s.mask_whereSql]
  simp only [Statement.mask, groupBy, orderBy]

/-- A further branch depends on the strings in its own strings only. -/
lemma mask_unionSql (u : Union) : (s.mask.unionSql d u).mask = (s.unionSql d u).mask := by
  simp only [unionSql, Sql.mask_append, Sql.mask_cons, s.mask_listSql, s.mask_whereSql]

/-- A statement with its strings emptied is written in the same way, up to strings. -/
theorem mask_sql : (s.mask.sql d).mask = (s.sql d).mask := by
  have cut : s.mask.isCut = s.isCut := by
    simp only [isCut, Statement.mask]
    cases s.orderBy <;> rfl
  have first : (if s.mask.isCut then (s.mask.primarySql d).branch d else s.mask.primarySql d).mask =
      (if s.isCut then (s.primarySql d).branch d else s.primarySql d).mask := by
    rw [cut]
    split
    · cases d <;> simp [Sql.branch, s.mask_primarySql]
    · exact s.mask_primarySql
  have others (us : List Union) : Sql.mask (us.flatMap (s.mask.unionSql d)) =
      Sql.mask (us.flatMap (s.unionSql d)) := by
    induction us with
    | nil => rfl
    | cons u us ih => simp only [List.flatMap_cons, Sql.mask_append, s.mask_unionSql u, ih]
  have unions : s.mask.unions = s.unions := rfl
  rw [sql, sql, unions]
  cases s.unions with
  | nil => exact s.mask_primarySql
  | cons u us => rw [Sql.mask_append, Sql.mask_append, first, others]

end Statement

end Mask

end QueryRecipe
