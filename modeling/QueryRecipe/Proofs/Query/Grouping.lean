import QueryRecipe.Proofs.Query.Entries
import QueryRecipe.Proofs.Statement.Grouping
import QueryRecipe.Proofs.Step.Reachable

/-!
# Grouped queries

A grouped query shows one entry for each column that it groups by and then one for each aggregate, in the
order of display. What the entry for a column shows is the term by which the rows are grouped, whether or
not the column has been changed, and nothing else that a query can say about its columns has a say in
either (`Query.statement_grouped`).
-/

namespace QueryRecipe.Query

variable {q : Query} {g : Grouping} {d : Dialect} {known : Option (List String)}

/-- The entry for a column shows what a reference to the column means. -/
lemma value_groupedItem (column : String) :
    (q.groupedItem column).value = .expr (q.reference column) := by
  rw [groupedItem, reference]
  cases q.transform? column <;> rfl

/-- A grouped query has an item for each column and one for each aggregation of the grouping. -/
lemma items_grouped (grouped : q.grouping = some g) :
    q.items known = g.columns.map q.groupedItem ++ g.aggregates.map q.aggregateItem := by
  rw [items, grouped]

/-- The terms of the grouping are what the entries for its columns show. -/
lemma groupBy_grouped (grouped : q.grouping = some g) :
    (q.groupBy d).map (·.sql d) = (g.columns.map q.groupedItem).map (·.value.sql d) := by
  rw [groupBy, grouped, List.map_map, List.map_map]
  refine List.map_congr_left fun column _ => ?_
  rw [Function.comp_apply, Function.comp_apply, value_groupedItem]
  rfl

/-- Without names to come first the items are shown in their order. -/
lemma shownItems_eq_arrange : q.shownItems d known =
    arrange (fun i => TrailingName.ofText ((i.sql d).spelling d)) (q.display.getD [])
      (q.items known) := by
  rw [shownItems]
  cases q.display <;> rfl

/-- Whether two queries differ at most in the columns that they select, drop and compute and in how they
remove repeated rows. -/
def SameGrouped (q q' : Query) : Prop :=
  { q with
    columns := q'.columns, selected := q'.selected, dropped := q'.dropped, added := q'.added
    dedup := q'.dedup } = q'

/-- A grouped query becomes a statement that shows an entry for each column that it groups by and then
one for each aggregate, arranged by the names that come first. The phrases that the entries for the
columns show, in their order, are the terms of the grouping, which stand in the first branch behind the
word for it; that word is there exactly if there is such a column, and stands nowhere else. The entries
and the terms are the same whatever columns the query selects, drops and computes, however it removes
repeated rows, and whatever columns are known. -/
theorem statement_grouped {q : Query} {g : Grouping} (grouped : q.grouping = some g) (d : Dialect)
    (source : Source) (page : Page) (known : Option (List String)) :
    let s := q.statement d source page known
    ∃ entries totals : List SelectItem,
      s.items = arrange (fun i => TrailingName.ofText ((i.sql d).spelling d)) (q.display.getD [])
        (entries ++ totals) ∧
      s.items.Perm (entries ++ totals) ∧
      entries.map (·.value) = g.columns.map (fun column => .expr (q.reference column)) ∧
      totals = g.aggregates.map q.aggregateItem ∧
      (∃ front back, s.primarySql d =
          front ++ Sql.clause " GROUP BY " ", " (entries.map (·.value.sql d)) ++ back ∧
        front.Ungrouped ∧ back.Ungrouped) ∧
      (.groupBy ∈ s.primarySql d ↔ g.columns ≠ []) ∧
      ∀ q' known', q.SameGrouped q' →
        let s' := q'.statement d source page known'
        s'.items = s.items ∧ s'.groupBy = s.groupBy := by
  intro s
  have shown : s.items = arrange _ _ _ := shownItems_eq_arrange
  rw [items_grouped grouped] at shown
  obtain ⟨split, before, behind⟩ := Statement.primarySql_grouping (s := s) (d := d)
  rw [show s.groupBy.map (·.sql d) = _ from groupBy_grouped grouped] at split
  refine ⟨g.columns.map q.groupedItem, g.aggregates.map q.aggregateItem, shown, ?_, ?_, rfl,
    ⟨_, _, split, before, behind⟩, ?_, ?_⟩
  · rw [shown]
    exact arrange_perm
  · rw [List.map_map]
    exact List.map_congr_left fun column _ => value_groupedItem column
  · have terms : s.groupBy = g.columns.map q.reference := by
      show q.groupBy d = _
      rw [groupBy, grouped]
    rw [Statement.groupBy_mem_iff, terms, ne_eq, List.map_eq_nil_iff]
  · intro q' known' same
    rw [← same]
    constructor
    · show shownItems _ d known' = q.shownItems d known
      rw [shownItems, shownItems, items, items, grouped]
      rfl
    · show groupBy _ d = q.groupBy d
      rw [groupBy, groupBy, grouped]
      rfl

/-- A column of a joined table that is trimmed after the grouping is shown and grouped by trimmed, also
where repeated rows are removed by another column. -/
theorem statement_grouped_changed :
    let join : Step := .join "shops" none none none [⟨"shop", "id"⟩] []
    let group : Step := .groupBy ["j1.city", "size"] [⟨"price", some "sum", none⟩]
    let joined := (({} : Query).apply "" join).1
    let grouped := ((joined.apply "" group).1.apply "" (.trim "j1.city" .both)).1
    let q := ((grouped.apply "" (.deduplicate ["size"])).1.apply "" (.reorder ["sum_price"])).1
    let g : Grouping := ⟨["j1.city", "size"], [⟨.sum, "price", "sum_price"⟩]⟩
    Reachable q ∧ q.grouping = some g ∧ ∃ entries : List SelectItem, ∃ front back,
      (q.statement .sqlite ⟨"", "orders"⟩ {} none).primarySql .sqlite =
        front ++ Sql.clause " GROUP BY " ", " (entries.map (·.value.sql .sqlite)) ++ back ∧
      front.Ungrouped ∧ back.Ungrouped ∧
      entries.map (fun i => (i.value.sql .sqlite).text .sqlite) =
        ["TRIM(\"j1\".\"city\")", "\"size\""] := by
  intro join group joined grouped q g
  have reachable : Reachable q :=
    .apply "" _ (.apply "" _ (.apply "" _ (.apply "" group (.apply "" join .empty))))
  have grouping : q.grouping = some g := by decide +kernel
  obtain ⟨entries, -, -, -, values, -, ⟨front, back, split, before, behind⟩, -⟩ :=
    statement_grouped grouping .sqlite ⟨"", "orders"⟩ {} none
  refine ⟨reachable, grouping, entries, front, back, split, before, behind, ?_⟩
  calc entries.map (fun i => (i.value.sql .sqlite).text .sqlite)
    _ = (entries.map (·.value)).map fun v => (v.sql .sqlite).text .sqlite := by
      rw [List.map_map]
      rfl
    _ = g.columns.map fun c => ((ItemValue.expr (q.reference c)).sql .sqlite).text .sqlite := by
      rw [values, List.map_map]
      rfl
    _ = ["TRIM(\"j1\".\"city\")", "\"size\""] := by decide +kernel

end QueryRecipe.Query
