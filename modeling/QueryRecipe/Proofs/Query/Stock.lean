import QueryRecipe.Proofs.Query.Sound
import QueryRecipe.Proofs.Statement.Stock

/-!
# What a query is made of

A query is made from a stock if its columns, the changes made to them and the operands of its conditions
are in it (`Query.From`). An edit adds what it brings in itself, and a join with listed columns adds these
under its alias (`From.edit`); and the statement of a query is made from what the query is
(`From.statement`).
-/

namespace QueryRecipe

/-- Whether an edit of `q` is made from a stock. -/
def Edit.From (S : Stock) (q : Query) : Edit → Prop
  | .select columns | .reorder columns => ∀ c ∈ columns, S.column c
  | .filter _ tests => ∀ t ∈ tests, S.column t.column ∧ S.operand t.comparison t.operand
  | .sort column _ => S.column column
  | .join _ _ _ label _ columns => ∀ c ∈ columns, S.column (label.getD q.nextLabel ++ "." ++ c)
  | .group g => (∀ c ∈ g.columns, S.column c) ∧ ∀ a ∈ g.aggregates, S.column a.column
  | .dedup d => ∀ columns, d = .on columns → ∀ c ∈ columns, S.column c
  | .change column c => S.column column ∧ S.change c
  | .rename .. | .drop _ | .add _ | .page _ | .union _ => True

namespace Query

/-- Whether a query is made from a stock. -/
structure From (S : Stock) (q : Query) : Prop where
  columns : ∀ c ∈ q.columns.names, S.column c
  transforms : ∀ t ∈ q.transforms, S.column t.column ∧ t.value.From S
  filters : ∀ f ∈ q.filters, ∀ c ∈ f.conditions, c.From S
  grouping : ∀ g ∈ q.grouping, (∀ c ∈ g.columns, S.column c) ∧ ∀ a ∈ g.aggregates, S.column a.column
  order : ∀ t ∈ q.order, t.subject.From S
  dedup : ∀ columns, q.dedup = .on columns → ∀ c ∈ columns, S.column c

section From
variable {S : Stock} {q : Query}

/-- The empty query is made from anything. -/
lemma From.empty : From S {} where
  columns := by simp [Columns.names]
  transforms := by simp
  filters := by simp
  grouping := by simp
  order := by simp
  dedup := by simp

/-- The value that a column has been given is made from the stock. -/
lemma From.transform? (h : q.From S) {column e} (given : q.transform? column = some e) :
    e.From S := by
  obtain ⟨t, set, rfl⟩ := mem_of_transform? given
  exact (h.transforms t set).2

/-- What a column means is made from the stock. -/
lemma From.reference (h : q.From S) {column} (hc : S.column column) :
    (q.reference column).From S := by
  rw [Query.reference]
  cases given : q.transform? column with
  | none => exact hc
  | some e => exact h.transform? given

/-- What a step changes is made from the stock its column is in. -/
lemma From.source (h : q.From S) {column} (hc : S.column column) : (q.source column).From S := by
  rw [Query.source]
  cases given : q.transform? column with
  | none => exact hc
  | some e => exact h.transform? given

/-- An edit from the stock keeps a query from it. -/
lemma From.edit (h : q.From S) {e : Edit} (he : e.From S q) : (q.edit e).From S := by
  cases e with
  | select columns => exact { h with columns := he }
  | rename | add | page | union => exact { h with }
  | drop columns => exact { h with columns := fun c mem => h.columns c (Columns.mem_without mem) }
  | filter connective tests =>
    refine { h with filters := fun f mem => ?_ }
    cases List.mem_append.1 mem with
    | inl old => exact h.filters f old
    | inr new =>
      cases List.mem_singleton.1 new
      exact List.forall_mem_map.2 fun t mem => ⟨h.reference (he t mem).1, (he t mem).2⟩
  | sort column direction =>
    refine { h with order := fun t mem => ?_ }
    cases List.mem_append.1 mem with
    | inl old => exact h.order t old
    | inr new =>
      cases List.mem_singleton.1 new
      exact h.reference he
  | join kind schema table label keys columns =>
    refine { h with columns := fun c mem => ?_ }
    cases Columns.mem_joined mem with
    | inl old => exact h.columns c old
    | inr new =>
      obtain ⟨c, asked, rfl⟩ := new
      exact he c asked
  | group g =>
    refine { h with grouping := fun g' mem => ?_ }
    cases mem
    exact he
  | dedup d => exact { h with dedup := he }
  | reorder columns =>
    refine { h with columns := fun c mem => ?_ }
    rw [Query.edit] at mem
    cases e : q.selected with
    | true =>
      rw [e, if_pos rfl] at mem
      exact h.columns c mem
    | false =>
      rw [e, if_neg Bool.false_ne_true] at mem
      exact he c (List.mem_filter.1 mem).1
  | change column c =>
    refine { h with transforms := fun t mem => ?_ }
    cases mem_setTransform mem with
    | inl new => exact new ▸ ⟨he.1, h.source he.1, he.2⟩
    | inr old => exact h.transforms t old

/-- Edits from the stock, whatever they are applied to, keep a query from it. -/
lemma From.edits (h : q.From S) {es : List Edit} (hes : ∀ e ∈ es, ∀ q, e.From S q) :
    (q.edits es).From S :=
  edits_invariant h fun e mem q made => made.edit (hes e mem q)

/-- The item for a column is made from the stock. -/
lemma From.columnItem (h : q.From S) {column} (hc : S.column column) :
    ∀ e ∈ (q.columnItem column).value.exprs, e.From S := by
  rw [Query.columnItem]
  split
  · exact List.forall_mem_singleton.2 hc
  · cases given : q.transform? column with
    | none => exact List.forall_mem_singleton.2 hc
    | some e => exact List.forall_mem_singleton.2 (h.transform? given)

/-- The item of a grouped column is made from the stock its column is in. -/
lemma From.groupedItem (h : q.From S) {column} (hc : S.column column) :
    ∀ e ∈ (q.groupedItem column).value.exprs, e.From S := by
  rw [Query.groupedItem]
  cases given : q.transform? column with
  | none => exact List.forall_mem_singleton.2 hc
  | some e => exact List.forall_mem_singleton.2 (h.transform? given)

/-- The item of an aggregation is made from the stock its column is in. -/
lemma From.aggregateItem (h : q.From S) {a : AggregateColumn} (ha : S.column a.column) :
    ∀ e ∈ (q.aggregateItem a).value.exprs, e.From S := by
  rw [Query.aggregateItem]
  split
  · exact List.forall_mem_nil _
  · exact List.forall_mem_singleton.2 (h.reference ha)

/-- What is on which rows are told apart is in the stock. -/
lemma From.dedup_columns (h : q.From S) : ∀ c ∈ q.dedup.columns, S.column c := by
  cases told : q.dedup with
  | off | rows => exact List.forall_mem_nil _
  | on columns => exact h.dedup columns told

/-- The entry for a column that is listed is made from the stock. -/
lemma From.entry (h : q.From S) {known : Option (List String)} (hk : ∀ c ∈ known.getD [], S.column c)
    {column} (listed : column ∈ q.listedColumns known) :
    ∀ e ∈ (q.entry column).value.exprs, e.From S := by
  have known : S.column column := by
    rcases mem_listedColumns listed with ⟨g, grouped, mem⟩ | ⟨-, selected | ⟨-, told⟩⟩
    · exact (h.grouping g grouped).1 column mem
    · exact h.columns column selected
    · rcases told with ⟨names, rfl, mem, -⟩ | ⟨-, t, set, rfl⟩
      · exact hk column mem
      · exact (h.transforms t set).1
  rw [Query.entry]
  split
  · exact h.groupedItem known
  · exact h.columnItem known

/-- The items of the select list are made from the stock, if the known columns are in it. -/
lemma From.items (h : q.From S) {known : Option (List String)}
    (hk : ∀ c ∈ known.getD [], S.column c) :
    ∀ i ∈ q.items known, ∀ e ∈ i.value.exprs, e.From S := by
  have others : ∀ i ∈ q.otherItems, ∀ e ∈ i.value.exprs, e.From S := by
    rw [Query.otherItems]
    cases grouped : q.grouping with
    | some g => exact List.forall_mem_map.2 fun a mem => h.aggregateItem ((h.grouping g grouped).2 a mem)
    | none =>
      refine List.forall_mem_append.2 ⟨?_, List.forall_mem_map.2 fun a _ => List.forall_mem_nil _⟩
      split
      · exact List.forall_mem_singleton.2 (List.forall_mem_nil _)
      · exact List.forall_mem_nil _
  rw [items_eq]
  exact List.forall_mem_append.2 ⟨List.forall_mem_map.2 fun column listed => h.entry hk listed, others⟩

/-- The statement of a query from a stock is made from it, if the known columns are in it. -/
lemma From.statement (h : q.From S) {d : Dialect} {source : Source} {page : Page}
    {known : Option (List String)} (hk : ∀ c ∈ known.getD [], S.column c) :
    (q.statement d source page known).From S where
  head e mem := by
    obtain ⟨c, told, rfl⟩ := mem_exprs_head mem
    exact h.reference (h.dedup_columns c told)
  items i mem := h.items hk i (shownItems_perm_items.subset mem)
  filters := h.filters
  groupBy e mem := by
    obtain ⟨c, ⟨g, grouped, listed⟩ | told, rfl⟩ := mem_groupBy mem
    · exact h.reference ((h.grouping g grouped).1 c listed)
    · exact h.reference (h.dedup_columns c told)
  orderBy t mem := by
    obtain sorted | ⟨c, told, same⟩ := mem_orderBy mem
    · exact h.order t sorted
    · exact same ▸ h.reference (h.dedup_columns c told)

end From

end Query

end QueryRecipe
