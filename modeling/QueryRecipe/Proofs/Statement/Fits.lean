import QueryRecipe.Proofs.Sql.Phrase
import QueryRecipe.Statement

/-!
# The phrase of a statement fits

When the names, strings and functions in a statement belong to a vocabulary and no screened expression
is in it (`Statement.Within`), the phrase of the statement fits that vocabulary (`Statement.fits`). The
same is shown for each kind of part, from literals upwards.
-/

namespace QueryRecipe

open Lexer

/-- Whether the parts of a name between its dots belong to a vocabulary. -/
def Vocabulary.Parts (V : Vocabulary) (column : String) : Prop :=
  ∀ part ∈ Text.split '.' column, V.name part

namespace Literal

mutual

/-- The strings in a literal. -/
def strings : Literal → List String
  | .string s => [s]
  | .list items => stringsList items
  | _ => []

/-- The strings in the items of a list. -/
def stringsList : List Literal → List String
  | [] => []
  | v :: rest => strings v ++ stringsList rest

end

/-- The strings that are written for the operand of a comparison. -/
def operandStrings (comparison : Comparison) (operand : Literal) : List String :=
  match comparison with
  | .isNull | .isNotNull => []
  | .isIn | .notIn => operand.members.flatMap strings
  | .like | .notLike => if operand.isNull then [] else [operand.text]
  | _ => operand.strings

end Literal

section Within
variable (V : Vocabulary)

/-- Whether a replacement is a literal with strings of a vocabulary. -/
def Replacement.Within : Replacement → Prop
  | .literal v => ∀ s ∈ v.strings, V.string s
  | .expression _ => False

/-- Whether a change writes strings of a vocabulary only. -/
def Change.Within : Change → Prop
  | .cast _ => False
  | .substitute old new => V.string old ∧ new.Within V
  | .coalesce new => new.Within V
  | .trim _ | .recase _ => True
  | .fill value emptyToo => (∀ s ∈ value.strings, V.string s) ∧ (emptyToo = true → V.string "")

/-- Whether an expression has a column and changes of a vocabulary. -/
def Expr.Within : Expr → Prop
  | .field column | .name column => V.Parts column
  | .changed e change => e.Within ∧ change.Within V

/-- Whether a function belongs to a vocabulary. -/
def Aggregate.Within (f : Aggregate) : Prop :=
  f = .countDistinct ∨ (V.function f.title ∧ IsFunctionName f.title.toList)

/-- Whether a value of the select list belongs to a vocabulary. -/
def ItemValue.Within : ItemValue → Prop
  | .everything => True
  | .expr e => e.Within V
  | .aggregate f argument => f.Within V ∧ ∀ e ∈ argument, e.Within V
  | .written _ => False

/-- Whether an item belongs to a vocabulary. -/
def SelectItem.Within (i : SelectItem) : Prop :=
  i.value.Within V ∧ ∀ label ∈ i.label, V.name label

/-- Whether a condition belongs to a vocabulary. -/
def Condition.Within (c : Condition) : Prop :=
  c.subject.Within V ∧ ∀ s ∈ c.operand.operandStrings c.comparison, V.string s

/-- Whether a joined table and its keys belong to a vocabulary. -/
structure Join.Within (j : Join) : Prop where
  schema : V.name j.schema
  table : V.name j.table
  label : V.name j.label
  keys : ∀ k ∈ j.keys, V.Parts k.1 ∧ V.Parts k.2

/-- Whether the columns of a head belong to a vocabulary. -/
def Head.Within : Head → Prop
  | .all | .distinct => True
  | .distinctOn columns => ∀ e ∈ columns, e.Within V

/-- Whether a statement has names, strings and functions of a vocabulary only, and no screened
expression. -/
structure Statement.Within (s : Statement) : Prop where
  head : s.head.Within V
  items : ∀ i ∈ s.items, i.Within V
  source : V.name s.source.schema ∧ V.name s.source.table
  joins : ∀ j ∈ s.joins, j.Within V
  filters : ∀ f ∈ s.filters, ∀ c ∈ f.conditions, c.Within V
  groupBy : ∀ e ∈ s.groupBy, e.Within V
  orderBy : ∀ t ∈ s.orderBy, t.subject.Within V
  unions : ∀ u ∈ s.unions, V.name u.schema ∧ V.name u.table

end Within

namespace Sql

section Fits
variable {V : Vocabulary} {d : Dialect}

/-- A name without dots is its only part. -/
lemma name_of_parts {column} (h : V.Parts column) (plain : isDotted column = false) :
    V.name column := by
  refine h column ?_
  have alone : '.' ∉ column.toList := by simpa [isDotted] using plain
  rw [Text.split, Text.splitAtChar_of_not_mem alone]
  simp

/-- A column of the source table fits if its parts do. -/
lemma Fits.qualified {column} (h : V.Parts column) : Fits V (qualified column) := by
  rw [Sql.qualified]
  split
  next => exact .dotted h
  next plain =>
    have name : V.name column := name_of_parts h (by simpa using plain)
    simp [name]

mutual

/-- A literal fits if its strings do. -/
lemma Fits.literal : ∀ {v : Literal}, (∀ s ∈ v.strings, V.string s) → Fits V (Sql.literal v)
  | .null, _ => by simp [Sql.literal]
  | .bool b, _ => by simp [Sql.literal]
  | .int n, _ => by simp [Sql.literal, isNumber_integerText]
  | .double x, _ => by
    rw [Sql.literal]
    split
    next finite => simp [isNumber_numberText finite]
    next => simp
  | .string s, h => by simpa [Sql.literal, Literal.strings] using h
  | .list items, h => by
    have inside : Fits V (Sql.literals items) := Fits.literals h
    simp [Sql.literal, inside]

/-- Literals with commas between fit if their strings do. -/
lemma Fits.literals : ∀ {vs : List Literal}, (∀ s ∈ Literal.stringsList vs, V.string s) →
    Fits V (Sql.literals vs)
  | [], _ => .nil
  | [v], h => by
    rw [Literal.stringsList, List.forall_mem_append] at h
    exact Fits.literal h.1
  | v :: w :: rest, h => by
    rw [Literal.stringsList, List.forall_mem_append] at h
    have first : Fits V (Sql.literal v) := Fits.literal h.1
    have others : Fits V (Sql.literals (w :: rest)) := Fits.literals h.2
    simp [Sql.literals, first, others]

end

/-- A replacement fits if it belongs to the vocabulary. -/
lemma Fits.replacement {r : Replacement} (h : r.Within V) : Fits V r.sql := by
  cases r with
  | literal v => exact .literal h
  | expression e => exact h.elim

/-- A changed value fits if the value and the change do. -/
lemma Fits.change {e : Sql} {c : Change} (he : Fits V e) (h : c.Within V) : Fits V (c.sql d e) := by
  cases c with
  | cast dataType => exact h.elim
  | substitute old new =>
    obtain ⟨old, new⟩ := h
    simp [Change.sql, he, old, Fits.replacement new]
  | coalesce new => simp [Change.sql, he, Fits.replacement h]
  | trim side => cases side <;> simp [Change.sql, he, TrimSide.function]
  | recase mode =>
    cases mode with
    | upper | lower => simp [Change.sql, he]
    | title => cases d <;> simp [Change.sql, Sql.titleCase, he]
  | fill value emptyToo =>
    obtain ⟨value, empty⟩ := h
    cases emptyToo with
    | false => simp [Change.sql, he, Fits.literal value]
    | true => simp [Change.sql, he, Fits.literal value, empty]

/-- An expression fits if it belongs to the vocabulary. -/
lemma Fits.expr {e : Expr} (h : e.Within V) : Fits V (e.sql d) := by
  induction e with
  | field column => exact .qualified h
  | name column => exact .dotted h
  | changed e change ih => exact .change (ih h.1) h.2

/-- An aggregate fits if its function and its argument do. -/
lemma Fits.aggregate {f : Aggregate} {argument : Sql} (hf : f.Within V) (h : Fits V argument) :
    Fits V (f.sql argument) := by
  cases f with
  | countDistinct => simp [Aggregate.sql, h]
  | _ =>
    simp only [Aggregate.Within, reduceCtorEq, false_or] at hf
    simp [Aggregate.sql, h, hf]

/-- An item of the select list fits if it belongs to the vocabulary. -/
lemma Fits.item {i : SelectItem} (h : i.Within V) : Fits V (i.sql d) := by
  obtain ⟨value, label⟩ := i
  obtain ⟨hv, hl⟩ := h
  have shown : Fits V (value.sql d) := by
    cases value with
    | everything => simp [ItemValue.sql]
    | expr e => exact .expr hv
    | aggregate f argument =>
      obtain ⟨hf, he⟩ := hv
      cases argument with
      | none => exact .aggregate hf (by simp)
      | some e => exact .aggregate hf (.expr (he e rfl))
    | written e => exact hv.elim
  cases label with
  | none => exact shown
  | some label =>
    have name : V.name label := hl label rfl
    simp [SelectItem.sql, shown, name]

/-- A condition fits if it belongs to the vocabulary. -/
lemma Fits.condition {c : Condition} (h : c.Within V) : Fits V (c.sql d) := by
  obtain ⟨subject, comparison, operand⟩ := c
  obtain ⟨hs, ho⟩ := h
  have subject : Fits V (subject.sql d) := .expr hs
  have members (h : ∀ s ∈ operand.members.flatMap Literal.strings, V.string s) :
      Fits V (Sql.commas (operand.members.map Sql.literal)) := by
    refine .commas (List.forall_mem_map.2 fun v mem => .literal fun s hs => ?_)
    exact h s (List.mem_flatMap.2 ⟨v, mem, hs⟩)
  cases comparison with
  | isNull | isNotNull => simp [Condition.sql, Comparison.symbol, subject]
  | isIn | notIn =>
    have members := members ho
    cases e : operand.members with
    | nil => simp [Condition.sql, e]
    | cons v vs =>
      rw [e, List.map_cons] at members
      simp [Condition.sql, e, Comparison.symbol, subject, members]
  | like | notLike =>
    cases null : operand.isNull with
    | true => simp [Condition.sql, Comparison.symbol, subject, null]
    | false =>
      have text : V.string operand.text := by simpa [Literal.operandStrings, null] using ho
      simp [Condition.sql, Comparison.symbol, subject, null, text]
  | _ =>
    have value : Fits V (Sql.literal operand) := .literal ho
    simp [Condition.sql, Comparison.symbol, subject, value]

/-- A filter fits if its conditions belong to the vocabulary. -/
lemma Fits.filter {f : Filter} (h : ∀ c ∈ f.conditions, c.Within V) : Fits V (f.sql d) := by
  have known : " " ++ f.connective.keyword ++ " " ∈ separating := by
    cases f.connective <;> simp [Connective.keyword]
  have joined : Fits V (Sql.separated (" " ++ f.connective.keyword ++ " ")
      (f.conditions.map (·.sql d))) :=
    .separated known (List.forall_mem_map.2 fun c mem => .condition (h c mem))
  simp [Filter.sql, joined]

/-- A sort term fits if what it sorts by does. -/
lemma Fits.sortTerm {t : SortTerm} (h : t.subject.Within V) : Fits V (t.sql d) := by
  have subject : Fits V (t.subject.sql d) := .expr h
  cases e : t.direction <;> simp [SortTerm.sql, subject, e, Direction.keyword]

/-- A table fits if its schema and its name do. -/
lemma Fits.table {schema table : String} (hs : V.name schema) (ht : V.name table) :
    Fits V (Sql.table schema table) := by
  rw [Sql.table]
  split <;> simp [hs, ht]

/-- A pair of columns fits if the columns and the name of the joined table do. -/
lemma Fits.key {label : String} {key : String × String} (hl : V.name label) (left : V.Parts key.1)
    (right : V.Parts key.2) : Fits V (Join.keySql label key) := by
  have left : Fits V (Sql.qualified key.1) := .qualified left
  rw [Join.keySql]
  cases e : isDotted key.2 with
  | true => simp [left, Fits.dotted right]
  | false => simp [left, hl, name_of_parts right e]

/-- A join fits if it belongs to the vocabulary. -/
lemma Fits.join {j : Join} (h : j.Within V) : Fits V j.sql := by
  have table : Fits V (Sql.table j.schema j.table) := .table h.schema h.table
  have keys : Fits V (Sql.separated " AND " (j.keys.map (Join.keySql j.label))) := by
    refine .separated (by simp) ?_
    exact List.forall_mem_map.2 fun k mem => .key h.label (h.keys k mem).1 (h.keys k mem).2
  rw [Join.sql]
  cases e : j.kind <;>
    simp [JoinKind.keyword, table, keys, h.label]

/-- Joins in a row fit if each of them belongs to the vocabulary. -/
lemma Fits.allJoins {js : List Join} (h : ∀ j ∈ js, j.Within V) :
    Fits V (js.flatMap fun j => .fixed " " :: j.sql) := by
  refine .flatMap (fun j mem => ?_) fun j => by simp [Leads]
  have join : Fits V j.sql := .join (h j mem)
  simp [join]

/-- A window fits every vocabulary. -/
lemma Fits.page {p : Page} : Fits V (p.sql d) := by
  have number (n : UInt64) : IsNumber (Text.naturalText n.toNat).toList := isNumber_naturalText _
  have most : IsNumber Page.mostRows.toList :=
    .plain (.of_digits (by decide) (List.all_eq_true.1 (by decide)))
  have all : IsNumber ['-', '1'] :=
    .negative (.of_digits (List.cons_ne_nil '1' []) (List.all_eq_true.1 (by decide)))
  cases limit : p.limit <;> cases skip : p.skip? <;> cases d <;>
    simp [Page.sql, limit, skip, number, most, all]

/-- A window runs on from nothing. -/
lemma leads_page {p : Page} : Leads (p.sql d) := by
  cases limit : p.limit <;> cases skip : p.skip? <;> cases d <;>
    simp [Page.sql, Leads, limit, skip]

/-- A head may be put before any phrase if its columns belong to the vocabulary. -/
lemma Fits.head {h : Head} {q : Sql} (within : h.Within V) (hq : Fits V q) :
    Fits V (h.sql d ++ q) := by
  cases h with
  | all | distinct => simp [Head.sql, hq]
  | distinctOn columns =>
    have inside : Fits V (Sql.commas (columns.map (·.sql d))) :=
      .commas (List.forall_mem_map.2 fun e mem => .expr (within e mem))
    simp [Head.sql, inside, hq]

/-- A clause fits if its parts do. -/
lemma Fits.clause {keyword sep : String} {parts : List Sql}
    (known : keyword ∈ separating) (inside : Fits V (Sql.separated sep parts)) :
    Fits V (Sql.clause keyword sep parts) := by
  cases parts with
  | nil => exact .nil
  | cons q qs =>
    have within : (Piece.fixed keyword).Within V :=
      List.mem_append_left _ (List.mem_append_left _ (List.mem_append_left _ known))
    exact (fits_cons_apart (List.mem_append_left _ known)).2 ⟨within, inside⟩

/-- A clause runs on from nothing if its keyword does. -/
lemma leads_clause {keyword sep : String} {parts : List Sql}
    (known : keyword ∈ separating) : Leads (Sql.clause keyword sep parts) := by
  cases parts with
  | nil => simp [Sql.clause, Leads]
  | cons q qs =>
    rintro _ ⟨⟩
    exact List.mem_append_left _ known

end Fits

end Sql

namespace Statement

section Fits
variable {V : Vocabulary} {d : Dialect} {s : Statement}

/-- The clause of a table fits if the table does. -/
lemma fits_fromSql {schema table} (hs : V.name schema) (ht : V.name table) :
    Sql.Fits V (fromSql schema table) := by
  have table : Sql.Fits V (Sql.table schema table) := .table hs ht
  simp [fromSql, table]

/-- The clause of a table runs on from nothing. -/
lemma leads_fromSql {schema table} : Sql.Leads (fromSql schema table) := by
  simp [fromSql, Sql.Leads]

/-- The head and the select list fit. -/
lemma fits_listSql (h : s.Within V) : Sql.Fits V (s.listSql d) := by
  have items : Sql.Fits V (Sql.commas (s.items.map (·.sql d))) :=
    .commas (List.forall_mem_map.2 fun i mem => .item (h.items i mem))
  exact .head h.head items

/-- The clause of the filters fits. -/
lemma fits_whereSql (h : s.Within V) : Sql.Fits V (s.whereSql d) := by
  refine .clause (by simp) ?_
  refine .separated (by simp) ?_
  exact List.forall_mem_map.2 fun f mem => .filter (h.filters f mem)

/-- The clause of the filters runs on from nothing. -/
lemma leads_whereSql : Sql.Leads (s.whereSql d) :=
  Sql.leads_clause (by simp)

/-- The first branch fits. -/
lemma fits_primarySql (h : s.Within V) : Sql.Fits V (s.primarySql d) := by
  have joins : Sql.Fits V (s.joins.flatMap fun j => .fixed " " :: j.sql) := .allJoins h.joins
  have groupBy : Sql.Fits V (Sql.clause " GROUP BY " ", " (s.groupBy.map (·.sql d))) :=
    .clause (by simp)
      (.commas (List.forall_mem_map.2 fun e mem => .expr (h.groupBy e mem)))
  have orderBy : Sql.Fits V (Sql.clause " ORDER BY " ", " (s.orderBy.map (·.sql d))) :=
    .clause (by simp)
      (.commas (List.forall_mem_map.2 fun t mem => .sortTerm (h.orderBy t mem)))
  -- each clause runs on from nothing, so they can be put in a row one by one
  have start := (fits_listSql (d := d) h).append (fits_fromSql h.source.1 h.source.2) leads_fromSql
  have joined := start.append joins (.flatMap fun j => by simp [Sql.Leads])
  have filtered := joined.append (fits_whereSql (d := d) h) leads_whereSql
  have grouped := filtered.append groupBy (Sql.leads_clause (by simp))
  have ordered := grouped.append orderBy (Sql.leads_clause (by simp))
  exact ordered.append .page Sql.leads_page

/-- A further branch fits if its table does. -/
lemma fits_unionSql {u : Union} (h : s.Within V) (hu : V.name u.schema ∧ V.name u.table) :
    Sql.Fits V (s.unionSql d u) := by
  have start := (fits_listSql (d := d) h).append (fits_fromSql hu.1 hu.2) leads_fromSql
  have branch := start.append (fits_whereSql (d := d) h) leads_whereSql
  rw [List.append_assoc] at branch
  cases e : u.all <;> simp [unionSql, e, branch]

/-- A statement whose parts belong to a vocabulary fits it. -/
theorem fits (h : s.Within V) : Sql.Fits V (s.sql d) := by
  have primary : Sql.Fits V (s.primarySql d) := fits_primarySql h
  have first : Sql.Fits V (if s.isCut then (s.primarySql d).branch d else s.primarySql d) := by
    split
    · cases d <;> simp [Sql.branch, primary]
    · exact primary
  have starts : ∀ u : Union, (s.unionSql d u).Leads := by
    intro u
    cases e : u.all <;> simp [unionSql, Sql.Leads, e]
  have others : Sql.Fits V (s.unions.flatMap (s.unionSql d)) :=
    .flatMap (fun u mem => fits_unionSql h (h.unions u mem)) starts
  rw [sql]
  cases e : s.unions with
  | nil => exact primary
  | cons u us =>
    rw [e] at others
    exact first.append others (.flatMap starts)

end Fits

end Statement

end QueryRecipe
