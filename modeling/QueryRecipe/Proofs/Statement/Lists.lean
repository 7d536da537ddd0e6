import QueryRecipe.Proofs.Sql.Lists
import QueryRecipe.Proofs.Statement.Stock

/-!
# The lists of a statement

When the phrase of a statement is free of empty lists: the select list has an item, and no literal that
is written has an empty list in it (`Statement.noEmptyList_iff`). Clauses are left out when there is
nothing in them, and membership in nothing is written as a constant, so no other list can be empty.
-/

namespace QueryRecipe

namespace Literal

mutual

/-- Whether no list in a literal is empty. -/
def Filled : Literal → Prop
  | .list items => items ≠ [] ∧ FilledAll items
  | _ => True

/-- Whether no list in any of some literals is empty. -/
def FilledAll : List Literal → Prop
  | [] => True
  | v :: rest => v.Filled ∧ FilledAll rest

end

/-- The literals that are written for the operand of a comparison. -/
def written (comparison : Comparison) (operand : Literal) : List Literal :=
  match comparison with
  | .isNull | .isNotNull | .like | .notLike => []
  | .isIn | .notIn => operand.members
  | _ => [operand]

end Literal

/-- Whether no list in the literal of a replacement is empty. -/
def Replacement.Filled : Replacement → Prop
  | .literal v => v.Filled
  | .expression _ => True

/-- Whether no list in the literal of a change is empty. -/
def Change.Filled : Change → Prop
  | .substitute _ new | .coalesce new => new.Filled
  | .fill v _ => v.Filled
  | .cast _ | .trim _ | .recase _ => True

/-- All columns, and literals without an empty list. -/
def Stock.filled : Stock where
  column _ := True
  change c := c.Filled
  operand comparison operand := ∀ v ∈ operand.written comparison, v.Filled

/-- Whether a condition does not depend on its subject: it asks for membership in nothing. -/
def Condition.IsConstant (c : Condition) : Prop :=
  (c.comparison = .isIn ∨ c.comparison = .notIn) ∧ c.operand.members = []

/-- Whether no literal that is written in a statement has an empty list in it. -/
structure Statement.Filled (s : Statement) : Prop where
  head : ∀ e ∈ s.head.exprs, e.From .filled
  items : ∀ i ∈ s.items, ∀ e ∈ i.value.exprs, e.From .filled
  filters : ∀ f ∈ s.filters, ∀ c ∈ f.conditions, c.IsConstant ∨ c.From .filled
  groupBy : ∀ e ∈ s.groupBy, e.From .filled
  orderBy : ∀ t ∈ s.orderBy, t.subject.From .filled

namespace Sql

section Lists
variable {d : Dialect}

/-- A phrase without lists is an item. -/
lemma isItem_of_plain {q : Sql} (ne : q ≠ []) (h : ∀ p ∈ q, ¬ p.Opens ∧ ¬ p.Closes) : IsItem q := by
  obtain ⟨p, r, rfl⟩ := List.exists_cons_of_ne_nil ne
  exact ⟨starts_cons.2 (h p List.mem_cons_self).2, ends_of_plain fun p mem => (h p mem).1⟩

/-- A literal is an item. -/
lemma isItem_literal (v : Literal) : IsItem (Sql.literal v) := by
  cases v with
  | double x =>
    rw [Sql.literal]
    split <;> exact isItem_of_plain (by simp) (by simp)
  | list items => exact ⟨starts_cons.2 (by simp), ends_concat.2 (by simp)⟩
  | _ => exact isItem_of_plain (by simp [Sql.literal]) (by simp [Sql.literal])

/-- The literals in a list are written with commas between them. -/
lemma literals_eq (vs : List Literal) : Sql.literals vs = Sql.commas (vs.map Sql.literal) := by
  induction vs with
  | nil => rfl
  | cons v vs ih =>
    cases vs with
    | nil => simp [Sql.literals, Sql.commas]
    | cons w rest =>
      rw [Sql.literals.eq_3 v (w :: rest) (List.cons_ne_nil w rest), ih]
      simp [Sql.commas]

/-- A list is written without an empty list if it has items and they are. -/
lemma full_list (items : List Literal) :
    Full (.fixed "(" :: Sql.literals items ++ [Piece.fixed ")"]) ↔
      items ≠ [] ∧ ∀ v ∈ items, Full (Sql.literal v) := by
  cases items with
  | nil =>
    have empty : ¬ Full ([] ++ [Piece.fixed "(", .fixed ")"]) := not_full (by simp) (by simp)
    simpa [Sql.literals] using empty
  | cons v vs =>
    rw [literals_eq, Sql.commas, full_enclosed (by simp) (List.forall_mem_map.2 fun v _ => isItem_literal v),
      List.forall_mem_map]
    simp

mutual

/-- A literal is written without an empty list if there is none in it. -/
lemma full_literal : ∀ v : Literal, Full (Sql.literal v) ↔ v.Filled
  | .null | .bool _ | .int _ | .string _ => by simp [Sql.literal, Literal.Filled]
  | .double x => by
    rw [Sql.literal]
    split <;> simp [Literal.Filled]
  | .list items => by rw [Sql.literal, full_list, Literal.Filled, full_literals items]

/-- The same for the items of a list. -/
lemma full_literals : ∀ vs : List Literal,
    (∀ v ∈ vs, Full (Sql.literal v)) ↔ Literal.FilledAll vs
  | [] => by simp [Literal.FilledAll]
  | v :: rest => by
    rw [List.forall_mem_cons, full_literal v, full_literals rest, Literal.FilledAll]

end

/-- A replacement is an item. -/
lemma isItem_replacement (r : Replacement) : IsItem r.sql := by
  cases r with
  | literal v => exact isItem_literal v
  | expression e => exact isItem_of_plain (by simp [Replacement.sql]) (by simp [Replacement.sql])

/-- No list in a replacement is empty exactly if its literal is filled. -/
lemma full_replacement (r : Replacement) : Full r.sql ↔ r.Filled := by
  cases r with
  | literal v => exact full_literal v
  | expression e => simp [Replacement.sql, Replacement.Filled]

/-- A change is an item, whatever it changes. -/
lemma isItem_change {e : Sql} (c : Change) : IsItem (c.sql d e) := by
  cases c with
  | cast dataType => exact ⟨starts_cons.2 (by simp), .after (by simp [Ends])⟩
  | trim side =>
    cases side <;> exact ⟨starts_cons.2 (by simp [TrimSide.function]), ends_concat.2 (by simp)⟩
  | recase mode =>
    cases mode with
    | upper | lower => exact ⟨starts_cons.2 (by simp), ends_concat.2 (by simp)⟩
    | title => cases d <;> exact ⟨starts_cons.2 (by simp), ends_concat.2 (by simp)⟩
  | _ => exact ⟨starts_cons.2 (by simp), ends_concat.2 (by simp)⟩

/-- A changed value is written without an empty list if the value is and the change has none. -/
lemma full_change {e : Sql} {c : Change} (he : IsItem e) :
    Full (c.sql d e) ↔ Full e ∧ c.Filled := by
  obtain ⟨starts, ends⟩ := he
  cases c with
  | cast dataType => simp [Change.sql, Change.Filled, ends]
  | substitute old new | coalesce new =>
    obtain ⟨starts', ends'⟩ := isItem_replacement new
    simp [Change.sql, Change.Filled, ends, starts', ends', full_replacement]
  | trim side => cases side <;> simp [Change.sql, Change.Filled, TrimSide.function, starts, ends]
  | recase mode =>
    cases mode with
    | upper | lower => simp [Change.sql, Change.Filled, ends]
    | title => cases d <;> simp [Change.sql, Sql.titleCase, Change.Filled, ends]
  | fill value emptyToo =>
    obtain ⟨starts', ends'⟩ := isItem_literal value
    -- the value stands in the phrase two or three times
    by_cases full : Full e <;> cases emptyToo <;>
      simp [Change.sql, Change.Filled, ends, ends', full_literal, full]

/-- A column is an item. -/
lemma isItem_dotted (column : String) : IsItem (Sql.dotted column) := by
  have ne : (Text.split '.' column).map (fun part => [Piece.name part]) ≠ [] := by
    simp [Text.split, Text.splitAtChar_ne_nil]
  exact isItem_separated ne (List.forall_mem_map.2 fun n _ => isItem_of_plain (by simp) (by simp))

/-- There is no empty list in a column. -/
lemma full_dotted (column : String) : Full (Sql.dotted column) := by
  refine (full_separated ?_).2 (List.forall_mem_map.2 fun n _ => full_one)
  exact List.forall_mem_map.2 fun n _ => isItem_of_plain (by simp) (by simp)

/-- An expression is an item. -/
lemma isItem_expr (e : Expr) : IsItem (e.sql d) := by
  cases e with
  | field column =>
    rw [Expr.sql, Sql.qualified]
    split
    · exact isItem_dotted column
    · exact isItem_of_plain (by simp) (by simp)
  | name column => exact isItem_dotted column
  | changed e change => exact isItem_change change

/-- An expression is written without an empty list if its changes have none. -/
lemma full_expr (e : Expr) : Full (e.sql d) ↔ e.From .filled := by
  induction e with
  | field column =>
    refine iff_of_true ?_ trivial
    rw [Expr.sql, Sql.qualified]
    split
    · exact full_dotted column
    · exact full_of_plain (by simp)
  | name column => exact iff_of_true (full_dotted column) trivial
  | changed e change ih =>
    rw [Expr.sql, full_change (isItem_expr e), ih]
    rfl

/-- A call of an aggregate is an item if its argument is. -/
lemma isItem_aggregate (f : Aggregate) (argument : Sql) : IsItem (f.sql argument) := by
  cases f with
  | _ => exact ⟨starts_cons.2 (by simp), ends_concat.2 (by simp)⟩

/-- No list in a call of an aggregate is empty exactly if none in its argument is. -/
lemma full_aggregate {f : Aggregate} {argument : Sql} (item : IsItem argument) :
    Full (f.sql argument) ↔ Full argument := by
  obtain ⟨starts, ends⟩ := item
  cases f <;> simp [Aggregate.sql, starts, ends]

/-- A value of the select list is an item. -/
lemma isItem_value (v : ItemValue) : IsItem (v.sql d) := by
  cases v with
  | everything | written => exact isItem_of_plain (by simp [ItemValue.sql]) (by simp [ItemValue.sql])
  | expr e => exact isItem_expr e
  | aggregate f argument => cases argument <;> exact isItem_aggregate _ _

/-- No list in a value of the select list is empty exactly if its expressions are filled. -/
lemma full_value (v : ItemValue) : Full (v.sql d) ↔ ∀ e ∈ v.exprs, e.From .filled := by
  cases v with
  | everything | written => simp [ItemValue.sql, ItemValue.exprs]
  | expr e => simp [ItemValue.sql, ItemValue.exprs, full_expr]
  | aggregate f argument =>
    cases argument with
    | none =>
      have star : IsItem [.fixed "*"] := isItem_of_plain (by simp) (by simp)
      simp [ItemValue.sql, ItemValue.exprs, full_aggregate star]
    | some e => simp [ItemValue.sql, ItemValue.exprs, full_aggregate (isItem_expr e), full_expr]

/-- An item of the select list is an item of a list. -/
lemma isItem_item (i : SelectItem) : IsItem (i.sql d) := by
  obtain ⟨starts, ends⟩ := isItem_value (d := d) i.value
  rw [SelectItem.sql]
  cases i.label with
  | none => exact ⟨starts, ends⟩
  | some label => exact ⟨starts.append, .after (by simp)⟩

/-- No list in an item is empty exactly if the expressions in its value are filled. -/
lemma full_item (i : SelectItem) : Full (i.sql d) ↔ ∀ e ∈ i.value.exprs, e.From .filled := by
  rw [SelectItem.sql, ← full_value (d := d)]
  cases i.label with
  | none => exact Iff.rfl
  | some label => simp [(isItem_value i.value).ends]

/-- The sign of a comparison neither opens nor closes a list. -/
lemma symbol_plain (comparison : Comparison) :
    ¬ (Piece.fixed comparison.symbol).Opens ∧ ¬ (Piece.fixed comparison.symbol).Closes := by
  cases comparison <;> simp [Comparison.symbol]

/-- A condition is an item. -/
lemma isItem_condition (c : Condition) : IsItem (c.sql d) := by
  obtain ⟨subject, comparison, operand⟩ := c
  obtain ⟨starts, -⟩ := isItem_expr (d := d) subject
  obtain ⟨symbol, -⟩ := symbol_plain comparison
  cases comparison with
  | isNull | isNotNull => exact ⟨starts.append, .after (ends_concat (q := [_]).2 symbol)⟩
  | isIn | notIn =>
    rw [Condition.sql]
    cases operand.members with
    | nil => exact isItem_of_plain (by simp) (by simp)
    | cons v vs => exact ⟨starts.append.append.append, ends_concat.2 (by simp)⟩
  | like | notLike =>
    rw [Condition.sql]
    refine ⟨starts.append.append, .after ?_⟩
    split <;> simp
  | _ =>
    obtain ⟨starts', ends'⟩ := isItem_literal operand
    exact ⟨starts.append.append, .after ((ends_cons starts').2 ends')⟩

/-- A condition is written without an empty list if its subject and its operand are, or if it is written
without both. -/
lemma full_condition (c : Condition) : Full (c.sql d) ↔ c.IsConstant ∨ c.From .filled := by
  obtain ⟨subject, comparison, operand⟩ := c
  obtain ⟨-, ends⟩ := isItem_expr (d := d) subject
  have compared : Full (subject.sql d ++ [Piece.fixed " ", .fixed comparison.symbol]) ↔
      subject.From .filled := by
    simp [ends, full_expr]
  have symbol : Ends (subject.sql d ++ [Piece.fixed " ", .fixed comparison.symbol]) :=
    .after (ends_concat (q := [_]).2 (symbol_plain comparison).1)
  have made : Condition.From .filled ⟨subject, comparison, operand⟩ ↔
      subject.From .filled ∧ ∀ v ∈ operand.written comparison, v.Filled :=
    ⟨fun h => ⟨h.1, h.2⟩, fun h => ⟨h.1, h.2⟩⟩
  rw [made]
  cases comparison with
  | isNull | isNotNull =>
    refine compared.trans ?_
    simp [Condition.IsConstant, Literal.written]
  | isIn | notIn =>
    rw [Condition.sql]
    cases e : operand.members with
    | nil => simp [Condition.IsConstant, e]
    | cons v vs =>
      have listed : Full (.fixed " (" :: Sql.commas ((v :: vs).map Sql.literal) ++ [Piece.fixed ")"]) ↔
          ∀ v ∈ operand.members, v.Filled := by
        rw [Sql.commas, full_enclosed (by simp) (List.forall_mem_map.2 fun v _ => isItem_literal v),
          List.forall_mem_map]
        simp only [full_literal, e]
      dsimp only
      rw [List.append_assoc, full_append symbol, compared]
      refine (and_congr_right fun _ => listed).trans ?_
      simp [Condition.IsConstant, e, Literal.written]
  | like | notLike =>
    dsimp only [Condition.sql]
    rw [full_append symbol, compared]
    simp [Condition.IsConstant, Literal.written]
  | _ =>
    obtain ⟨starts', -⟩ := isItem_literal operand
    dsimp only [Condition.sql]
    rw [full_append symbol, compared, full_open starts', full_literal]
    simp [Condition.IsConstant, Literal.written]

/-- A filter is an item. -/
lemma isItem_filter (f : Filter) : IsItem (f.sql d) :=
  ⟨starts_cons.2 (by simp), ends_concat.2 (by simp)⟩

/-- No list in a filter is empty exactly if each of its conditions is constant or filled. -/
lemma full_filter {f : Filter} (ne : f.conditions ≠ []) :
    Full (f.sql d) ↔ ∀ c ∈ f.conditions, c.IsConstant ∨ c.From .filled := by
  rw [Filter.sql, full_enclosed (by simpa using ne) (List.forall_mem_map.2 fun c _ => isItem_condition c),
    List.forall_mem_map]
  simp only [full_condition]

/-- A sort term is an item. -/
lemma isItem_sortTerm (t : SortTerm) : IsItem (t.sql d) := by
  refine ⟨(isItem_expr t.subject).starts.append, .after (ends_concat (q := [_]).2 ?_)⟩
  cases t.direction <;> simp [Direction.keyword]

/-- No list in a sort term is empty exactly if what it sorts by is filled. -/
lemma full_sortTerm (t : SortTerm) : Full (t.sql d) ↔ t.subject.From .filled := by
  simp [SortTerm.sql, (isItem_expr t.subject).ends, full_expr]

/-- A clause is written without an empty list if its parts are. -/
lemma full_clause {keyword sep : String} {parts : List Sql} (h : ∀ q ∈ parts, IsItem q) :
    Full (Sql.clause keyword sep parts) ↔ ∀ q ∈ parts, Full q := by
  cases parts with
  | nil => simp [Sql.clause]
  | cons q qs =>
    show Full (.fixed keyword :: Sql.separated sep (q :: qs)) ↔ _
    rw [full_open (isItem_separated (List.cons_ne_nil q qs) h).starts, full_separated h]

/-- No list is left without an item at the end of a clause of items. -/
lemma ends_clause {keyword sep : String} {parts : List Sql} (h : ∀ q ∈ parts, IsItem q) :
    Ends (Sql.clause keyword sep parts) := by
  cases parts with
  | nil => exact ends_nil
  | cons q qs =>
    have listed : IsItem (Sql.separated sep (q :: qs)) := isItem_separated (List.cons_ne_nil q qs) h
    exact (ends_cons listed.starts).2 listed.ends

/-- A window has no empty list in it. -/
lemma noEmptyList_page (p : Page) : NoEmptyList (p.sql d) := by
  cases limit : p.limit <;> cases skip : p.skip? <;> cases d <;>
    simp [NoEmptyList, Page.sql, limit, skip]

end Lists

end Sql

namespace Statement

section Lists
variable {d : Dialect} {s : Statement}

/-- Whether the columns of a `DISTINCT ON` and the conditions of a filter are there at all. -/
structure Regular (s : Statement) : Prop where
  head : ∀ columns, s.head = .distinctOn columns → columns ≠ []
  filters : ∀ f ∈ s.filters, f.conditions ≠ []

/-- A select list without items leaves a list empty. -/
lemma not_full_listSql {r : Sql} (none : s.items = []) :
    ¬ Sql.Full (s.listSql d ++ .fixed " FROM " :: r) := by
  rw [listSql, none]
  cases s.head with
  | all | distinct => exact Sql.not_full (q := []) (by simp) (by simp)
  | distinctOn columns =>
    have listed := Sql.not_full (q := .fixed "SELECT DISTINCT ON (" :: Sql.commas (columns.map (·.sql d)))
      (p := .fixed ") ") (s := .fixed " FROM ") (r := r) (by simp) (by simp)
    simpa [Head.sql, Sql.commas, Sql.separated] using listed

/-- A select list with items has no empty list in it if they have none. -/
lemma full_listSql (nonempty : s.items ≠ []) (regular : s.Regular) : Sql.Full (s.listSql d) ↔
    (∀ e ∈ s.head.exprs, e.From .filled) ∧ ∀ i ∈ s.items, ∀ e ∈ i.value.exprs, e.From .filled := by
  have isItems : ∀ q ∈ s.items.map (·.sql d), Sql.IsItem q :=
    List.forall_mem_map.2 fun i _ => Sql.isItem_item i
  have starts : Sql.Starts (Sql.commas (s.items.map (·.sql d))) :=
    (Sql.isItem_separated (by simpa using nonempty) isItems).starts
  have items : Sql.Full (Sql.commas (s.items.map (·.sql d))) ↔
      ∀ i ∈ s.items, ∀ e ∈ i.value.exprs, e.From .filled := by
    rw [Sql.commas, Sql.full_separated isItems, List.forall_mem_map]
    simp only [Sql.full_item]
  rw [listSql]
  cases e : s.head with
  | all | distinct =>
    rw [Head.sql, List.singleton_append, Sql.full_open starts, items]
    simp [Head.exprs]
  | distinctOn columns =>
    have isItems : ∀ q ∈ columns.map (·.sql d), Sql.IsItem q :=
      List.forall_mem_map.2 fun e _ => Sql.isItem_expr e
    have listed : Sql.IsItem (Sql.commas (columns.map (·.sql d))) :=
      Sql.isItem_separated (by simpa using regular.head columns e) isItems
    rw [Head.sql, List.append_assoc, List.singleton_append,
      Sql.full_append ((Sql.ends_cons listed.starts).2 listed.ends), Sql.full_open starts, items,
      Sql.full_open listed.starts, Sql.commas, Sql.full_separated isItems, List.forall_mem_map]
    simp only [Sql.full_expr, Head.exprs]

/-- No list opens in a table with its schema. -/
lemma plain_table {schema table : String} : ∀ p ∈ Sql.table schema table, ¬ p.Opens := by
  rw [Sql.table]
  split <;> simp

/-- No list opens in a column. -/
lemma plain_dotted {column : String} : ∀ p ∈ Sql.dotted column, ¬ p.Opens := by
  intro p mem
  rcases Sql.mem_separated mem with rfl | ⟨q, listed, mem⟩
  · simp
  · obtain ⟨part, -, rfl⟩ := List.mem_map.1 listed
    simp [List.mem_singleton.1 mem]

/-- A join has no list in it. -/
lemma plain_join {j : Join} : ∀ p ∈ j.sql, ¬ p.Opens := by
  have key {k} : ∀ p ∈ Join.keySql j.label k, ¬ p.Opens := by
    have left : ∀ p ∈ Sql.qualified k.1, ¬ p.Opens := by
      rw [Sql.qualified]
      split
      · exact plain_dotted
      · simp
    rw [Join.keySql, List.forall_mem_append, List.forall_mem_cons]
    refine ⟨left, by simp, ?_⟩
    split
    · exact plain_dotted
    · simp
  have on : ∀ p ∈ Sql.separated " AND " (j.keys.map (Join.keySql j.label)), ¬ p.Opens := by
    intro p mem
    rcases Sql.mem_separated mem with rfl | ⟨q, listed, mem⟩
    · simp
    · obtain ⟨k, -, rfl⟩ := List.mem_map.1 listed
      exact key p mem
  rw [Join.sql, List.forall_mem_append, List.cons_append, List.cons_append, List.forall_mem_cons,
    List.forall_mem_cons, List.forall_mem_append]
  refine ⟨⟨?_, by simp, plain_table, by simp⟩, ?_⟩
  · cases j.kind <;> simp [JoinKind.keyword]
  · split
    · simp
    · exact List.forall_mem_cons.2 ⟨by simp, on⟩

/-- The source of rows has no list in it. -/
lemma plain_source (schema table : String) (js : List Join) :
    ∀ p ∈ fromSql schema table ++ js.flatMap fun j => .fixed " " :: j.sql, ¬ p.Opens := by
  refine List.forall_mem_append.2 ⟨?_, fun p mem => ?_⟩
  · rw [fromSql, List.cons_append, List.forall_mem_cons, List.forall_mem_append]
    exact ⟨by simp, plain_table, by simp⟩
  · obtain ⟨j, -, mem⟩ := List.mem_flatMap.1 mem
    exact (List.forall_mem_cons.2 ⟨by simp, plain_join⟩) p mem

/-- No list in the filters is empty exactly if each of their conditions is constant or filled. -/
lemma full_whereSql (regular : s.Regular) : Sql.Full (s.whereSql d) ↔
    ∀ f ∈ s.filters, ∀ c ∈ f.conditions, c.IsConstant ∨ c.From .filled := by
  rw [whereSql, Sql.full_clause (List.forall_mem_map.2 fun f _ => Sql.isItem_filter f),
    List.forall_mem_map]
  exact forall₂_congr fun f mem => Sql.full_filter (regular.filters f mem)

/-- No list is left without an item at the end of the filters. -/
lemma ends_whereSql : Sql.Ends (s.whereSql d) :=
  Sql.ends_clause (List.forall_mem_map.2 fun f _ => Sql.isItem_filter f)

/-- The clauses of the first branch after its source of rows. -/
def clausesSql (d : Dialect) (s : Statement) : Sql :=
  s.whereSql d ++ Sql.clause " GROUP BY " ", " (s.groupBy.map (·.sql d)) ++
    Sql.clause " ORDER BY " ", " (s.orderBy.map (·.sql d)) ++ s.page.sql d

/-- What the rows are grouped by are items. -/
lemma isItem_groupBy : ∀ q ∈ s.groupBy.map (·.sql d), Sql.IsItem q :=
  List.forall_mem_map.2 fun e _ => Sql.isItem_expr e

/-- What the rows are sorted by are items. -/
lemma isItem_orderBy : ∀ q ∈ s.orderBy.map (·.sql d), Sql.IsItem q :=
  List.forall_mem_map.2 fun t _ => Sql.isItem_sortTerm t

/-- The clauses after the source of rows are complete, and have no empty list if no literal has. -/
lemma full_clausesSql (regular : s.Regular) : Sql.Ends (s.clausesSql d) ∧
    (Sql.Full (s.clausesSql d) ↔
      (∀ f ∈ s.filters, ∀ c ∈ f.conditions, c.IsConstant ∨ c.From .filled) ∧
        (∀ e ∈ s.groupBy, e.From .filled) ∧ ∀ t ∈ s.orderBy, t.subject.From .filled) := by
  have grouped : Sql.Ends (s.whereSql d ++ Sql.clause " GROUP BY " ", " (s.groupBy.map (·.sql d))) :=
    ends_whereSql.append (Sql.ends_clause isItem_groupBy)
  have ordered : Sql.Ends (s.whereSql d ++ Sql.clause " GROUP BY " ", " (s.groupBy.map (·.sql d)) ++
      Sql.clause " ORDER BY " ", " (s.orderBy.map (·.sql d))) :=
    grouped.append (Sql.ends_clause isItem_orderBy)
  obtain ⟨page, ends⟩ := Sql.noEmptyList_page (d := d) s.page
  refine ⟨ordered.append ends, ?_⟩
  rw [clausesSql, Sql.full_append ordered, Sql.full_append grouped, Sql.full_append ends_whereSql,
    full_whereSql regular, Sql.full_clause isItem_groupBy, Sql.full_clause isItem_orderBy,
    List.forall_mem_map, List.forall_mem_map]
  simp only [Sql.full_expr, Sql.full_sortTerm, page, and_true, and_assoc]

/-- The first branch is its select list, its source of rows and its clauses. -/
lemma primarySql_eq : s.primarySql d = s.listSql d ++
    (fromSql s.source.schema s.source.table ++ s.joins.flatMap fun j => .fixed " " :: j.sql) ++
      s.clausesSql d := by
  simp [primarySql, clausesSql]

/-- No list is left without an item at the end of a select list that has one. -/
lemma ends_listSql (nonempty : s.items ≠ []) : Sql.Ends (s.listSql d) := by
  have items : Sql.IsItem (Sql.commas (s.items.map (·.sql d))) :=
    Sql.isItem_separated (by simpa using nonempty) (List.forall_mem_map.2 fun i _ => Sql.isItem_item i)
  exact items.after

/-- The select list begins with an item, whatever follows it. -/
lemma starts_listSql {r : Sql} : Sql.Starts (s.listSql d ++ r) := by
  rw [listSql]
  cases s.head with
  | all | distinct | distinctOn => exact Sql.starts_cons.2 (by simp)

/-- The first branch has no empty list if the statement has none. -/
lemma full_primarySql (regular : s.Regular) :
    Sql.Full (s.primarySql d) ↔ s.items ≠ [] ∧ s.Filled := by
  rw [primarySql_eq, List.append_assoc]
  by_cases none : s.items = []
  · exact iff_of_false (not_full_listSql none) fun h => h.1 none
  · rw [Sql.full_append (ends_listSql none), full_listSql none regular,
      Sql.full_append (Sql.ends_of_plain (plain_source _ _ _)), (full_clausesSql regular).2]
    constructor
    · rintro ⟨⟨head, items⟩, -, filters, groupBy, orderBy⟩
      exact ⟨none, head, items, filters, groupBy, orderBy⟩
    · rintro ⟨-, h⟩
      have source := Sql.full_of_plain (plain_source s.source.schema s.source.table s.joins)
      exact ⟨⟨h.head, h.items⟩, source, h.filters, h.groupBy, h.orderBy⟩

/-- No list is left without an item at the end of the first branch. -/
lemma ends_primarySql (regular : s.Regular) : Sql.Ends (s.primarySql d) := by
  rw [primarySql_eq, List.append_assoc]
  have source := Sql.ends_of_plain (plain_source s.source.schema s.source.table s.joins)
  exact .after (source.append (full_clausesSql regular).1)

/-- The first branch in a union has no empty list if the statement has none. -/
lemma full_branch (regular : s.Regular) :
    Sql.Full ((s.primarySql d).branch d) ↔ Sql.Full (s.primarySql d) := by
  have ends := ends_primarySql (d := d) regular
  have starts : Sql.Starts (s.primarySql d) := by
    rw [primarySql_eq, List.append_assoc]
    exact starts_listSql
  cases d <;> simp [Sql.branch, starts, ends]

/-- No list is left without an item at the end of the first branch in its parentheses. -/
lemma ends_branch : Sql.Ends ((s.primarySql d).branch d) := by
  cases d <;> exact Sql.ends_concat.2 (by simp)

/-- A further branch has no empty list if the statement has none. -/
lemma noEmptyList_unionSql (regular : s.Regular) (nonempty : s.items ≠ []) (h : s.Filled)
    (u : Union) : (s.unionSql d u).NoEmptyList := by
  have source : ∀ p ∈ fromSql u.schema u.table, ¬ p.Opens := by
    simpa using plain_source u.schema u.table []
  have list : Sql.Full (s.listSql d) := (full_listSql nonempty regular).2 ⟨h.head, h.items⟩
  have condition : Sql.Full (s.whereSql d) := (full_whereSql regular).2 h.filters
  have ends : Sql.Ends (s.listSql d ++ fromSql u.schema u.table) :=
    (ends_listSql nonempty).append (Sql.ends_of_plain source)
  have branch : Sql.Full (s.listSql d ++ fromSql u.schema u.table ++ s.whereSql d) := by
    rw [Sql.full_append ends, Sql.full_append (ends_listSql nonempty)]
    exact ⟨⟨list, Sql.full_of_plain source⟩, condition⟩
  have starts : Sql.Starts (s.listSql d ++ fromSql u.schema u.table ++ s.whereSql d) :=
    starts_listSql.append
  exact ⟨(Sql.full_open starts).2 branch, (Sql.ends_cons starts).2 (ends.append ends_whereSql)⟩

/-- No list in a statement is empty exactly if its select list has an item and no literal that is written
has an empty list. -/
theorem noEmptyList_iff (regular : s.Regular) :
    (s.sql d).NoEmptyList ↔ s.items ≠ [] ∧ s.Filled := by
  have primary : Sql.Full (s.primarySql d) ↔ s.items ≠ [] ∧ s.Filled := full_primarySql regular
  rw [sql]
  cases e : s.unions with
  | nil => exact (and_iff_left (ends_primarySql regular)).trans primary
  | cons u us =>
    have first : Sql.Ends (if s.isCut then (s.primarySql d).branch d else s.primarySql d) ∧
        (Sql.Full (if s.isCut then (s.primarySql d).branch d else s.primarySql d) ↔
          s.items ≠ [] ∧ s.Filled) := by
      split
      · exact ⟨ends_branch, (full_branch regular).trans primary⟩
      · exact ⟨ends_primarySql regular, primary⟩
    have others (h : s.items ≠ [] ∧ s.Filled) (us : List Union) : Sql.NoEmptyList (us.flatMap (s.unionSql d)) := by
      induction us with
      | nil => exact ⟨Sql.full_nil, Sql.ends_nil⟩
      | cons u us ih =>
        obtain ⟨full, ends⟩ := noEmptyList_unionSql (d := d) regular h.1 h.2 u
        exact ⟨(Sql.full_append ends).2 ⟨full, ih.1⟩, ends.append ih.2⟩
    constructor
    · intro h
      exact first.2.1 ((Sql.full_append first.1).1 h.1).1
    · intro h
      obtain ⟨full, ends⟩ := others h (u :: us)
      exact ⟨(Sql.full_append first.1).2 ⟨first.2.2 h, full⟩, first.1.append ends⟩

end Lists

end Statement

end QueryRecipe
