import QueryRecipe.Proofs.Sql.Phrase
import QueryRecipe.Proofs.Statement.Lists
import QueryRecipe.Proofs.Statement.Stock

/-!
# What SQLite and PostgreSQL write alike

The two dialects quote names and strings in the same way. They differ in the spelling of truth values, in
the change to title case, in how rows are passed over without a limit, and in how a branch that sorts or
cuts its rows enters a union. A statement without these (`Statement.Common`) has one text in both
(`Statement.Common.alike`).
-/

namespace QueryRecipe

namespace Literal

mutual

/-- Whether there is no truth value in a literal. -/
def Truthless : Literal → Prop
  | .bool _ => False
  | .list items => TruthlessAll items
  | _ => True

/-- Whether there is no truth value in any of some literals. -/
def TruthlessAll : List Literal → Prop
  | [] => True
  | v :: rest => v.Truthless ∧ TruthlessAll rest

end

/-- Literals are without truth values exactly if each of them is. -/
lemma truthlessAll_iff {vs : List Literal} : TruthlessAll vs ↔ ∀ v ∈ vs, v.Truthless := by
  induction vs with
  | nil => simp [TruthlessAll]
  | cons v vs ih => rw [TruthlessAll, ih, List.forall_mem_cons]

end Literal

/-- Whether there is no truth value in the literal of a replacement. -/
def Replacement.Truthless : Replacement → Prop
  | .literal v => v.Truthless
  | .expression _ => True

/-- Whether a change is one that both dialects write alike. -/
def Change.Common : Change → Prop
  | .substitute _ new | .coalesce new => new.Truthless
  | .fill v _ => v.Truthless
  | .recase mode => mode ≠ .title
  | .cast _ | .trim _ => True

/-- The literals that are written for an operand without truth values have none. -/
lemma Literal.Truthless.written {v : Literal} (h : v.Truthless) {comparison : Comparison} :
    ∀ w ∈ v.written comparison, w.Truthless := by
  have members : ∀ w ∈ v.members, w.Truthless := by
    cases v with
    | list items => exact truthlessAll_iff.1 h
    | string s =>
      rw [members]
      split
      · exact List.forall_mem_map.2 fun _ _ => trivial
      · exact List.forall_mem_singleton.2 trivial
    | bool b => cases h
    | null => exact nofun
    | _ => exact List.forall_mem_singleton.2 trivial
  cases comparison with
  | isNull | isNotNull | like | notLike => exact nofun
  | isIn | notIn => exact members
  | _ => exact List.forall_mem_singleton.2 h

/-- All columns, and the changes and literals that both dialects write alike. -/
def Stock.common : Stock where
  column _ := True
  change c := c.Common
  operand comparison operand := ∀ v ∈ operand.written comparison, v.Truthless

/-- Whether rows are passed over only up to a limit. -/
def Page.Bounded (p : Page) : Prop :=
  p.limit = none → p.skip? = none

/-- Whether a statement is one that both dialects write alike. -/
structure Statement.Common (s : Statement) : Prop where
  made : s.From .common
  bounded : s.page.Bounded
  single : s.unions = [] ∨ s.isCut = false

/-- Whether one phrase has the text in SQLite that the other has in PostgreSQL. -/
def Sql.Alike (p q : Sql) : Prop :=
  p.spelling .sqlite = q.spelling .postgres

namespace Sql

section Alike
variable {p q p' q' : Sql} {x : Piece}

/-- The empty phrase is written alike. -/
@[simp]
lemma alike_nil : Alike [] [] := rfl

/-- A piece other than a truth value has one spelling. -/
@[simp]
lemma alike_cons (plain : ∀ b, x ≠ .truth b) : Alike (x :: p) (x :: q) ↔ p.Alike q := by
  have same : x.spelling .sqlite = x.spelling .postgres := by
    cases x with
    | truth b => exact absurd rfl (plain b)
    | _ => rfl
  show x.spelling .sqlite ++ p.spelling .sqlite = x.spelling .postgres ++ q.spelling .postgres ↔ _
  rw [same]
  exact List.append_right_inj _

/-- Behind phrases that are written alike it depends on the others whether the whole is. -/
@[simp]
lemma alike_append (h : p.Alike q) : (p ++ p').Alike (q ++ q') ↔ p'.Alike q' := by
  rw [Alike, spelling_append, spelling_append, h]
  exact List.append_right_inj _

/-- A phrase without truth values has one text. -/
lemma alike_self (plain : ∀ x ∈ q, ∀ b, x ≠ .truth b) : q.Alike q := by
  induction q with
  | nil => exact alike_nil
  | cons x q ih =>
    obtain ⟨now, later⟩ := List.forall_mem_cons.1 plain
    exact (alike_cons now).2 (ih later)

/-- Phrases in a row are written alike if each of them is. -/
lemma alike_separated {α : Type} (sep : String) {f g : α → Sql} {l : List α}
    (h : ∀ a ∈ l, (f a).Alike (g a)) : (separated sep (l.map f)).Alike (separated sep (l.map g)) := by
  induction l with
  | nil => exact alike_nil
  | cons a l ih =>
    obtain ⟨now, later⟩ := List.forall_mem_cons.1 h
    cases l with
    | nil => simpa using now
    | cons b l => simpa [now] using ih later

/-- A clause is written alike if each of its parts is. -/
lemma alike_clause {α : Type} (keyword sep : String) {f g : α → Sql} {l : List α}
    (h : ∀ a ∈ l, (f a).Alike (g a)) :
    (clause keyword sep (l.map f)).Alike (clause keyword sep (l.map g)) := by
  cases l with
  | nil => exact alike_nil
  | cons a l => exact (alike_cons (by simp)).2 (alike_separated sep h)

/-- Phrases one behind the other are written alike if each of them is. -/
lemma alike_flatMap {α : Type} {f g : α → Sql} {l : List α} (h : ∀ a ∈ l, (f a).Alike (g a)) :
    Alike (l.flatMap f) (l.flatMap g) := by
  induction l with
  | nil => exact alike_nil
  | cons a l ih =>
    obtain ⟨now, later⟩ := List.forall_mem_cons.1 h
    simpa [now] using ih later

mutual

/-- A literal without truth values is written alike. -/
lemma alike_literal : ∀ v : Literal, v.Truthless → (literal v).Alike (literal v)
  | .null, _ | .int _, _ | .string _, _ => alike_self (by simp [literal])
  | .double x, _ => by
    rw [literal]
    split <;> exact alike_self (by simp)
  | .list items, h => by
    simp [literal, literals_eq, commas, alike_separated ", " (alike_literals items h)]

/-- Literals without truth values are written alike. -/
lemma alike_literals : ∀ vs : List Literal, Literal.TruthlessAll vs →
    ∀ v ∈ vs, (literal v).Alike (literal v)
  | [], _ => nofun
  | v :: rest, h => List.forall_mem_cons.2 ⟨alike_literal v h.1, alike_literals rest h.2⟩

end

/-- A column is written alike. -/
lemma alike_dotted (column : String) : (dotted column).Alike (dotted column) :=
  alike_separated "." fun _ _ => alike_self (by simp)

/-- A column with its table is written alike. -/
lemma alike_qualified (column : String) : (qualified column).Alike (qualified column) := by
  rw [qualified]
  split
  · exact alike_dotted column
  · exact alike_self (by simp)

/-- A table with its schema is written alike. -/
lemma alike_table (schema table : String) :
    (Sql.table schema table).Alike (Sql.table schema table) := by
  rw [Sql.table]
  split <;> exact alike_self (by simp)

end Alike

end Sql

section Alike

/-- A replacement without truth values is written alike. -/
lemma Replacement.alike {r : Replacement} (h : r.Truthless) : r.sql.Alike r.sql := by
  cases r with
  | literal v => exact Sql.alike_literal v h
  | expression e => exact Sql.alike_self (by simp [Replacement.sql])

/-- A change is written alike around phrases that are. -/
lemma Change.alike {c : Change} (h : c.Common) {e e' : Sql} (he : e.Alike e') :
    (c.sql .sqlite e).Alike (c.sql .postgres e') := by
  cases c with
  | cast dataType => simp [Change.sql, he]
  | substitute old new | coalesce new => simp [Change.sql, he, Replacement.alike h]
  | trim side => simp [Change.sql, he]
  | recase mode =>
    cases mode with
    | upper | lower => simp [Change.sql, he]
    | title => exact absurd rfl h
  | fill value emptyToo => cases emptyToo <;> simp [Change.sql, he, Sql.alike_literal value h]

/-- An expression with nothing but common changes is written alike. -/
lemma Expr.alike {e : Expr} (h : e.From .common) : (e.sql .sqlite).Alike (e.sql .postgres) := by
  induction e with
  | field column => exact Sql.alike_qualified column
  | name column => exact Sql.alike_dotted column
  | changed e change ih => exact change.alike h.2 (ih h.1)

/-- A call of an aggregate is written alike if its argument is. -/
lemma Aggregate.alike (f : Aggregate) {e e' : Sql} (he : e.Alike e') : (f.sql e).Alike (f.sql e') := by
  cases f <;> simp [Aggregate.sql, he]

/-- A value of the select list with nothing but common changes is written alike. -/
lemma ItemValue.alike {v : ItemValue} (h : ∀ e ∈ v.exprs, e.From .common) :
    (v.sql .sqlite).Alike (v.sql .postgres) := by
  cases v with
  | everything | written => exact Sql.alike_self (by simp [ItemValue.sql])
  | expr e => exact Expr.alike (h e List.mem_cons_self)
  | aggregate f argument =>
    cases argument with
    | none => exact f.alike (Sql.alike_self (by simp))
    | some e => exact f.alike (Expr.alike (h e List.mem_cons_self))

/-- An item with nothing but common changes is written alike. -/
lemma SelectItem.alike {i : SelectItem} (h : ∀ e ∈ i.value.exprs, e.From .common) :
    (i.sql .sqlite).Alike (i.sql .postgres) := by
  rw [SelectItem.sql, SelectItem.sql]
  cases i.label with
  | none => exact ItemValue.alike h
  | some label => simp [ItemValue.alike h]

/-- A condition with nothing but common changes and operands is written alike. -/
lemma Condition.alike {c : Condition} (h : c.From .common) :
    (c.sql .sqlite).Alike (c.sql .postgres) := by
  obtain ⟨subject, comparison, operand⟩ := c
  obtain ⟨subject', written⟩ := h
  have compared := Expr.alike subject'
  cases comparison with
  | isNull | isNotNull => simp [Condition.sql, compared]
  | isIn | notIn =>
    have listed : (Sql.commas (operand.members.map Sql.literal)).Alike
        (Sql.commas (operand.members.map Sql.literal)) :=
      Sql.alike_separated ", " fun v mem => Sql.alike_literal v (written v mem)
    rw [Condition.sql, Condition.sql]
    cases e : operand.members with
    | nil => exact Sql.alike_self (by simp)
    | cons v vs =>
      rw [e, List.map_cons] at listed
      simp [compared, listed]
  | like | notLike =>
    rw [Condition.sql, Condition.sql]
    cases operand.isNull <;> simp [compared]
  | _ => simp [Condition.sql, compared, Sql.alike_literal operand (written _ List.mem_cons_self)]

/-- A filter with nothing but common conditions is written alike. -/
lemma Filter.alike {f : Filter} (h : ∀ c ∈ f.conditions, c.From .common) :
    (f.sql .sqlite).Alike (f.sql .postgres) := by
  have conditions := Sql.alike_separated (" " ++ f.connective.keyword ++ " ")
    fun c mem => Condition.alike (h c mem)
  simp [Filter.sql, conditions]

/-- A sort term with nothing but common changes is written alike. -/
lemma SortTerm.alike {t : SortTerm} (h : t.subject.From .common) :
    (t.sql .sqlite).Alike (t.sql .postgres) := by
  simp [SortTerm.sql, Expr.alike h]

/-- A head with nothing but common changes is written alike. -/
lemma Head.alike {h : Head} (made : ∀ e ∈ h.exprs, e.From .common) :
    (h.sql .sqlite).Alike (h.sql .postgres) := by
  cases h with
  | all | distinct => exact Sql.alike_self (by simp [Head.sql])
  | distinctOn columns =>
    have listed : (Sql.commas (columns.map (Expr.sql .sqlite))).Alike
        (Sql.commas (columns.map (Expr.sql .postgres))) :=
      Sql.alike_separated ", " fun e mem => Expr.alike (made e mem)
    simp [Head.sql, listed]

/-- A join is written alike. -/
lemma Join.alike (j : Join) : j.sql.Alike j.sql := by
  have keys : (Sql.separated " AND " (j.keys.map (keySql j.label))).Alike
      (Sql.separated " AND " (j.keys.map (keySql j.label))) := by
    refine Sql.alike_separated " AND " fun key _ => ?_
    rw [keySql]
    split <;> simp [Sql.alike_qualified, Sql.alike_dotted]
  rw [Join.sql]
  split <;> simp [Sql.alike_table, keys]

/-- A window that passes over rows only up to a limit is written alike. -/
lemma Page.alike {p : Page} (h : p.Bounded) : (p.sql .sqlite).Alike (p.sql .postgres) := by
  obtain ⟨limit, offset⟩ := p
  simp only [Page.sql]
  cases limit with
  | none => simp [h rfl]
  | some n => cases Page.skip? ⟨some n, offset⟩ <;> simp

namespace Statement
variable {s : Statement}

/-- The select list of a common statement is written alike. -/
lemma Common.alike_listSql (h : s.Common) : (s.listSql .sqlite).Alike (s.listSql .postgres) := by
  have items : (Sql.commas (s.items.map (SelectItem.sql .sqlite))).Alike
      (Sql.commas (s.items.map (SelectItem.sql .postgres))) :=
    Sql.alike_separated ", " fun i mem => SelectItem.alike (h.made.items i mem)
  exact (Sql.alike_append (Head.alike h.made.head)).2 items

/-- The filters of a common statement are written alike. -/
lemma Common.alike_whereSql (h : s.Common) : (s.whereSql .sqlite).Alike (s.whereSql .postgres) :=
  Sql.alike_clause " WHERE " " AND " fun f mem => Filter.alike (h.made.filters f mem)

/-- The source table is written alike. -/
lemma alike_fromSql (schema table : String) :
    (fromSql schema table).Alike (fromSql schema table) := by
  simp [fromSql, Sql.alike_table]

/-- The first branch of a common statement is written alike. -/
lemma Common.alike_primarySql (h : s.Common) :
    (s.primarySql .sqlite).Alike (s.primarySql .postgres) := by
  have joins : Sql.Alike (s.joins.flatMap fun j => .fixed " " :: j.sql)
      (s.joins.flatMap fun j => .fixed " " :: j.sql) :=
    Sql.alike_flatMap fun j _ => (Sql.alike_cons (by simp)).2 j.alike
  have groupBy := Sql.alike_clause " GROUP BY " ", "
    fun e mem => Expr.alike (h.made.groupBy e mem)
  have orderBy := Sql.alike_clause " ORDER BY " ", "
    fun t mem => SortTerm.alike (h.made.orderBy t mem)
  simp [primarySql, h.alike_listSql, alike_fromSql, joins, h.alike_whereSql, groupBy, orderBy,
    Page.alike h.bounded]

/-- The further branches of a common statement are written alike. -/
lemma Common.alike_unionSql (h : s.Common) (u : Union) :
    (s.unionSql .sqlite u).Alike (s.unionSql .postgres u) := by
  simp [unionSql, h.alike_listSql, alike_fromSql, h.alike_whereSql]

/-- A statement without what the dialects write differently has one text in both. -/
theorem Common.alike (h : s.Common) : (s.sql .sqlite).Alike (s.sql .postgres) := by
  have others (us : List Union) : Sql.Alike (us.flatMap (s.unionSql .sqlite))
      (us.flatMap (s.unionSql .postgres)) :=
    Sql.alike_flatMap fun u _ => h.alike_unionSql u
  rw [sql, sql]
  cases unions : s.unions with
  | nil => exact h.alike_primarySql
  | cons u us =>
    have uncut : s.isCut = false := h.single.resolve_left (by simp [unions])
    rw [uncut]
    exact (Sql.alike_append h.alike_primarySql).2 (others (u :: us))

end Statement

end Alike

end QueryRecipe
