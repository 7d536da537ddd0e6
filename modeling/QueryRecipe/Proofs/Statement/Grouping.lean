import QueryRecipe.Proofs.Statement.Inherited

/-!
# The clause of the grouping

The first branch of a statement says what its rows are grouped by in one place only, between its filters
and its sort order (`Statement.primarySql_grouping`). The clause is there exactly if there is something to
group by (`Statement.groupBy_mem_iff`), because no part of any other clause begins like it.
-/

namespace QueryRecipe

/-- The piece that begins the clause of the grouping. -/
def Piece.groupBy : Piece :=
  .fixed " GROUP BY "

namespace Sql

/-- Whether no grouping begins in a phrase. -/
def Ungrouped (q : Sql) : Prop :=
  Piece.groupBy ∉ q

section Ungrouped
variable {d : Dialect} {p : Piece} {q r : Sql}

/-- No grouping begins in the empty phrase. -/
@[simp]
lemma ungrouped_nil : Ungrouped [] :=
  List.not_mem_nil

/-- No grouping begins in a phrase exactly if neither its first piece nor the rest begins one. -/
@[simp]
lemma ungrouped_cons : Ungrouped (p :: q) ↔ p ≠ .groupBy ∧ Ungrouped q := by
  rw [Ungrouped, List.mem_cons, not_or, ne_comm, Ungrouped]

/-- No grouping begins in two phrases in a row exactly if none begins in either. -/
@[simp]
lemma ungrouped_append : Ungrouped (q ++ r) ↔ Ungrouped q ∧ Ungrouped r := by
  rw [Ungrouped, List.mem_append, not_or, Ungrouped, Ungrouped]

/-- No grouping begins in a row of phrases in none of which one begins. -/
lemma Ungrouped.separated {sep : String} {qs : List Sql} (flat : Piece.fixed sep ≠ .groupBy)
    (h : ∀ q ∈ qs, Ungrouped q) : Ungrouped (Sql.separated sep qs) :=
  separated_of ungrouped_nil (fun hq hr => ungrouped_append.2 ⟨hq, ungrouped_cons.2 ⟨flat, hr⟩⟩) h

/-- No grouping begins in a column. -/
lemma Ungrouped.dotted (column : String) : Ungrouped (Sql.dotted column) := by
  refine .separated (by simp [Piece.groupBy]) (List.forall_mem_map.2 fun part _ => ?_)
  simp [Piece.groupBy]

/-- No grouping begins in a column with its table. -/
lemma Ungrouped.qualified (column : String) : Ungrouped (Sql.qualified column) := by
  rw [Sql.qualified]
  split
  · exact .dotted column
  · simp [Piece.groupBy]

/-- The grouping begins with none of the templates within a clause or around a phrase. -/
lemma plainTemplates_ungrouped : ∀ s ∈ innerTemplates ++ (enclosingTemplates ++ enclosedTemplates),
    Piece.fixed s ≠ .groupBy := by
  decide

/-- No grouping begins in what stands within a clause. -/
lemma inherited_ungrouped : Inherited .whole Ungrouped where
  nil := ungrouped_nil
  cons {p q} inner hq := by
    refine ungrouped_cons.2 ⟨?_, hq⟩
    cases p with
    | fixed s => exact plainTemplates_ungrouped s (List.mem_append_left _ inner)
    | _ => simp [Piece.groupBy]
  append hq hr := ungrouped_append.2 ⟨hq, hr⟩
  enclosed opens closes hq := by
    have front := plainTemplates_ungrouped _ (List.mem_append_right _ (List.mem_append_left _ opens))
    have back := plainTemplates_ungrouped _ (List.mem_append_right _ (List.mem_append_right _ closes))
    simp [front, hq, back]
  titleCase {d q} hq := by cases d <;> simp [Sql.titleCase, hq, Piece.groupBy]
  field _ := .qualified _
  name _ := .dotted _
  everything := by simp [Piece.groupBy]

/-- No grouping begins in the clauses that cut the rows. -/
lemma Ungrouped.page (p : Page) : Ungrouped (p.sql d) := by
  cases limit : p.limit <;> cases skip : p.skip? <;> cases d <;>
    simp [Page.sql, limit, skip, Piece.groupBy]

end Ungrouped

end Sql

namespace Statement

section Grouping
variable {d : Dialect} {s : Statement}

/-- What a first branch says before its grouping. -/
def ungroupedSql (d : Dialect) (s : Statement) : Sql :=
  s.listSql d ++ fromSql s.source.schema s.source.table ++
    s.joins.flatMap (fun j => .fixed " " :: j.sql) ++ s.whereSql d

/-- What a first branch says behind its grouping. -/
def orderedSql (d : Dialect) (s : Statement) : Sql :=
  Sql.clause " ORDER BY " ", " (s.orderBy.map (·.sql d)) ++ s.page.sql d

/-- The terms of the grouping stand behind the word for it, with commas between, and the word stands
nowhere else. -/
lemma primarySql_grouping : s.primarySql d =
      s.ungroupedSql d ++ Sql.clause " GROUP BY " ", " (s.groupBy.map (·.sql d)) ++ s.orderedSql d ∧
    (s.ungroupedSql d).Ungrouped ∧ (s.orderedSql d).Ungrouped := by
  have inherited := Sql.inherited_ungrouped
  have list : (s.listSql d).Ungrouped := inherited.listSql s.from_whole
  have columns : ∀ j ∈ s.joins, ∀ k ∈ j.keys, Stock.whole.column k.1 ∧ Stock.whole.column k.2 :=
    fun _ _ _ _ => ⟨trivial, trivial⟩
  have source := inherited.source (by simp [Piece.groupBy]) columns s.source.schema s.source.table
  have filters : (s.whereSql d).Ungrouped := inherited.whereSql s.from_whole
  have order : Sql.Ungrouped (Sql.clause " ORDER BY " ", " (s.orderBy.map (·.sql d))) :=
    inherited.clause (fun h => Sql.ungrouped_cons.2 ⟨by simp [Piece.groupBy], h⟩) (by simp)
      (List.forall_mem_map.2 fun t mem => inherited.sortTerm (s.from_whole.orderBy t mem))
  refine ⟨by simp [primarySql, ungroupedSql, orderedSql], ?_, ?_⟩
  · rw [ungroupedSql, List.append_assoc (s.listSql d)]
    exact Sql.ungrouped_append.2 ⟨Sql.ungrouped_append.2 ⟨list, source⟩, filters⟩
  · exact Sql.ungrouped_append.2 ⟨order, .page s.page⟩

/-- The first branch has a grouping exactly if there is something to group by. -/
lemma groupBy_mem_iff : .groupBy ∈ s.primarySql d ↔ s.groupBy ≠ [] := by
  obtain ⟨split, before, behind⟩ := primarySql_grouping (s := s) (d := d)
  rw [split, List.mem_append, List.mem_append, or_iff_left behind, or_iff_right before]
  cases s.groupBy with
  | nil => simp [Sql.clause]
  | cons e es => simp [Sql.clause, Piece.groupBy]

end Grouping

end Statement

end QueryRecipe
