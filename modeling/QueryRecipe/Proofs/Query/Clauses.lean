import QueryRecipe.Proofs.Query.Entries
import QueryRecipe.Proofs.Statement.Stock

/-!
# Which columns the clauses of a query refer to

What can stand in the clauses of a query's statement, by inversion of how it is made: the listed columns
come from the grouping, the selection, the caller or the transforms (`Query.mem_listedColumns`), and each
expression in the head, the grouping and the sort order is what a column means there, if the query does
not hold it itself (`Query.mem_exprs_head`, `Query.mem_groupBy`, `Query.mem_orderBy`).
-/

namespace QueryRecipe

/-- The columns that are listed. -/
def Columns.names : Columns → List String
  | .wildcard => []
  | .explicit names => names

/-- The columns on which rows are told apart. -/
def Dedup.columns : Dedup → List String
  | .on columns => columns
  | .off | .rows => []

namespace Query

variable {q : Query} {d : Dialect} {known : Option (List String)} {column : String}

/-- The value that a column has been given is that of a transform. -/
lemma mem_of_transform? {e} (given : q.transform? column = some e) : ∃ t ∈ q.transforms, t.value = e := by
  rw [Query.transform?, Option.map_eq_some_iff] at given
  obtain ⟨t, found, same⟩ := given
  exact ⟨t, List.mem_of_find?_eq_some found, same⟩

/-- A transform that is set is the new one or one from before. -/
lemma mem_setTransform {value t} {ts : List Transform} (h : t ∈ setTransform column value ts) :
    t = ⟨column, value⟩ ∨ t ∈ ts := by
  induction ts with
  | nil => exact .inl (List.mem_singleton.1 h)
  | cons t' ts ih =>
    rw [setTransform] at h
    split at h
    · exact (List.mem_cons.1 h).imp id (List.mem_cons_of_mem _)
    · cases List.mem_cons.1 h with
      | inl same => exact .inr (same ▸ List.mem_cons_self)
      | inr later => exact (ih later).imp id (List.mem_cons_of_mem _)

/-- A column is listed because the query groups by it or, without a grouping, because it is selected. A
wildcard lists the columns that the caller knows and that are not dropped, or the changed ones if none
are known. -/
lemma mem_listedColumns (listed : column ∈ q.listedColumns known) :
    (∃ g ∈ q.grouping, column ∈ g.columns) ∨ q.grouping = none ∧
      (column ∈ q.columns.names ∨ q.columns = .wildcard ∧
        ((∃ names ∈ known, column ∈ names ∧ q.dropped.contains column = false) ∨
          known = none ∧ ∃ t ∈ q.transforms, t.column = column)) := by
  rw [listedColumns.eq_def] at listed
  cases grouped : q.grouping with
  | some g =>
    rw [grouped] at listed
    exact .inl ⟨g, rfl, listed⟩
  | none =>
    rw [grouped] at listed
    refine .inr ⟨rfl, ?_⟩
    dsimp only at listed
    split at listed
    next selected => exact .inl (selected ▸ listed)
    next => cases listed
    next names wildcard _ =>
      obtain ⟨mem, kept⟩ := List.mem_filter.1 listed
      exact .inr ⟨wildcard, .inl ⟨names, rfl, mem, by simpa using kept⟩⟩
    next wildcard _ => exact .inr ⟨wildcard, .inr ⟨rfl, List.mem_map.1 listed⟩⟩

/-- The sort terms put in front were there before or sort by one of the references. -/
lemma mem_leadBy {es : List Expr} {terms : List SortTerm} {t} (h : t ∈ leadBy d es terms) :
    t ∈ terms ∨ t.subject ∈ es := by
  induction es generalizing terms with
  | nil => exact .inl h
  | cons e es ih =>
    rw [leadBy] at h
    split at h
    next first found =>
      cases List.mem_cons.1 h with
      | inl same => exact .inl (same ▸ List.mem_of_find?_eq_some found)
      | inr later => exact (ih later).imp List.mem_of_mem_eraseP (List.mem_cons_of_mem e)
    next =>
      cases List.mem_cons.1 h with
      | inl same => exact .inr (same ▸ List.mem_cons_self)
      | inr later => exact (ih later).imp id (List.mem_cons_of_mem e)

/-- The head has only what the columns mean on which rows are told apart. -/
lemma mem_exprs_head {e} (mem : e ∈ (q.head d).exprs) : ∃ c ∈ q.dedup.columns, q.reference c = e := by
  rw [Query.head] at mem
  cases dedup : q.dedup with
  | off | rows =>
    rw [dedup] at mem
    cases mem
  | on columns =>
    rw [dedup] at mem
    dsimp only at mem
    split at mem
    · exact List.mem_map.1 mem
    · cases mem

/-- The rows are grouped by what the columns of the grouping mean, or those on which rows are told
apart. -/
lemma mem_groupBy {e} (mem : e ∈ q.groupBy d) :
    ∃ c, ((∃ g ∈ q.grouping, c ∈ g.columns) ∨ c ∈ q.dedup.columns) ∧ q.reference c = e := by
  rw [Query.groupBy.eq_def] at mem
  cases grouped : q.grouping with
  | some g =>
    rw [grouped] at mem
    obtain ⟨c, listed, same⟩ := List.mem_map.1 mem
    exact ⟨c, .inl ⟨g, rfl, listed⟩, same⟩
  | none =>
    rw [grouped] at mem
    cases dedup : q.dedup with
    | off | rows =>
      rw [dedup] at mem
      cases mem
    | on columns =>
      rw [dedup] at mem
      dsimp only at mem
      split at mem
      · cases mem
      · obtain ⟨c, listed, same⟩ := List.mem_map.1 mem
        exact ⟨c, .inr listed, same⟩

/-- The rows are sorted by the terms of the query and by what the columns mean on which they are told
apart. -/
lemma mem_orderBy {t} (mem : t ∈ q.orderBy d) :
    t ∈ q.order ∨ ∃ c ∈ q.dedup.columns, q.reference c = t.subject := by
  rw [Query.orderBy] at mem
  cases dedup : q.dedup with
  | off | rows =>
    rw [dedup] at mem
    exact .inl mem
  | on columns =>
    rw [dedup] at mem
    dsimp only at mem
    split at mem
    · exact (mem_leadBy mem).imp_right List.mem_map.1
    · exact .inl mem

end Query

end QueryRecipe
