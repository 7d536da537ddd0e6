import QueryRecipe.Proofs.Query.Clauses
import QueryRecipe.Proofs.Query.Edit
import QueryRecipe.Proofs.Statement.Fits

/-!
# Queries within a vocabulary

A query has names, strings and functions of a vocabulary only, and no screened expression
(`Query.Within`). Edits that bring in nothing else keep it so (`Query.Within.edits`), and then so is the
statement of the query (`Query.Within.statement`).
-/

namespace QueryRecipe

section Within
variable (V : Vocabulary)

/-- Whether a test has a column and strings of a vocabulary. -/
def Test.Within (t : Test) : Prop :=
  V.Parts t.column ∧ ∀ s ∈ t.operand.operandStrings t.comparison, V.string s

/-- Whether an aggregate belongs to a vocabulary. -/
structure AggregateColumn.Within (a : AggregateColumn) : Prop where
  function : a.function.Within V
  column : a.column ≠ "*" → V.Parts a.column
  label : V.name a.label

/-- Whether the columns and aggregates of a grouping belong to a vocabulary. -/
structure Grouping.Within (g : Grouping) : Prop where
  columns : ∀ c ∈ g.columns, V.name c ∧ V.Parts c
  aggregates : ∀ a ∈ g.aggregates, a.Within V

/-- Whether the columns on which rows are told apart belong to a vocabulary. -/
def Dedup.Within : Dedup → Prop
  | .on columns => ∀ c ∈ columns, V.Parts c
  | _ => True

/-- Whether an edit brings in names, strings and functions of a vocabulary only. -/
def Edit.Within : Edit → Prop
  | .select columns | .reorder columns => ∀ c ∈ columns, V.Parts c
  | .rename _ label => V.name label
  | .drop _ | .page _ => True
  | .add _ => False
  | .filter _ tests => ∀ t ∈ tests, t.Within V
  | .sort column _ => V.Parts column
  | .join _ schema table label keys columns =>
    (V.name schema ∧ V.name table) ∧ (∀ l ∈ label, V.name l ∧ V.Parts l) ∧
      (∀ k ∈ keys, V.Parts k.1 ∧ V.Parts k.2) ∧ ∀ c ∈ columns, V.Parts c
  | .group g => g.Within V
  | .dedup d => d.Within V
  | .union u => V.name u.schema ∧ V.name u.table
  | .change column c => V.Parts column ∧ c.Within V

namespace Query

/-- Whether a query has names, strings and functions of a vocabulary only, and no screened
expression. -/
structure Within (q : Query) : Prop where
  columns : ∀ c ∈ q.columns.names, V.Parts c
  renames : ∀ e ∈ q.renames.entries, V.name e.2
  added : q.added = []
  transforms : ∀ t ∈ q.transforms, V.Parts t.column ∧ t.value.Within V
  filters : ∀ f ∈ q.filters, ∀ c ∈ f.conditions, c.Within V
  grouping : ∀ g ∈ q.grouping, g.Within V
  order : ∀ t ∈ q.order, t.subject.Within V
  joins : ∀ j ∈ q.joins, j.Within V
  dedup : q.dedup.Within V
  unions : ∀ u ∈ q.unions, V.name u.schema ∧ V.name u.table

end Query

end Within

/-- A head is within a vocabulary exactly if its expressions are. -/
lemma Head.within_iff {V : Vocabulary} {h : Head} : h.Within V ↔ ∀ e ∈ h.exprs, e.Within V := by
  cases h <;> simp [Head.Within, Head.exprs]

/-- The columns a deduplication within a vocabulary compares have all their parts in it. -/
lemma Dedup.Within.columns {V : Vocabulary} {d : Dedup} (h : d.Within V) : ∀ c ∈ d.columns, V.Parts c := by
  cases d with
  | off | rows => exact List.forall_mem_nil _
  | on columns => exact h

namespace Query

section Edit
variable {V : Vocabulary} {q : Query}

/-- The empty query is within every vocabulary. -/
lemma Within.empty : Within V {} where
  columns := by simp [Columns.names]
  renames := by simp [EmptyCollection.emptyCollection, NameMap.empty]
  added := rfl
  transforms := by simp
  filters := by simp
  grouping := by simp
  order := by simp
  joins := by simp
  dedup := trivial
  unions := by simp

/-- The value that a column has been given belongs to the vocabulary. -/
lemma Within.transform? (h : q.Within V) {column e} (given : q.transform? column = some e) :
    e.Within V := by
  obtain ⟨t, set, rfl⟩ := mem_of_transform? given
  exact (h.transforms t set).2

/-- What a column means belongs to the vocabulary. -/
lemma Within.reference (h : q.Within V) {column} (parts : V.Parts column) :
    (q.reference column).Within V := by
  rw [Query.reference]
  cases given : q.transform? column with
  | none => exact parts
  | some e => exact h.transform? given

/-- What a change starts from belongs to the vocabulary. -/
lemma Within.source (h : q.Within V) {column} (parts : V.Parts column) :
    (q.source column).Within V := by
  rw [Query.source]
  cases given : q.transform? column with
  | none => exact parts
  | some e => exact h.transform? given

/-- The parts of a name after an alias are those of the alias and of the name. -/
lemma parts_dotted {label column : String} (hl : V.Parts label) (hc : V.Parts column) :
    V.Parts (label ++ "." ++ column) := by
  intro part mem
  have cut : Text.split '.' (label ++ "." ++ column) =
      Text.split '.' label ++ Text.split '.' column := by
    have chars : (label ++ "." ++ column).toList = label.toList ++ '.' :: column.toList := by simp
    rw [Text.split, chars, Text.splitAtChar_append, List.map_append]
    rfl
  rw [cut] at mem
  exact (List.mem_append.1 mem).elim (hl part) (hc part)

/-- An edit within a vocabulary keeps a query within it, if the name that a joined table may be given
belongs to it too. -/
lemma Within.edit (h : q.Within V) {e : Edit} (he : e.Within V)
    (next : e.isUnnamedJoin = true → V.name q.nextLabel ∧ V.Parts q.nextLabel) :
    (q.edit e).Within V := by
  cases e with
  | select columns => exact { h with columns := he }
  | rename column label =>
    refine { h with renames := fun entry mem => ?_ }
    cases NameMap.mem_insertEntry mem with
    | inl new => exact new ▸ he
    | inr old => exact h.renames entry old
  | drop columns =>
    refine { h with columns := fun c mem => h.columns c ?_ }
    cases e : q.columns with
    | wildcard =>
      rw [Query.edit, e] at mem
      cases mem
    | explicit names =>
      rw [Query.edit, e] at mem
      exact (List.mem_filter.1 mem).1
  | add column => exact he.elim
  | filter connective tests =>
    refine { h with filters := fun f mem => ?_ }
    cases List.mem_append.1 mem with
    | inl old => exact h.filters f old
    | inr new =>
      cases List.mem_singleton.1 new
      exact List.forall_mem_map.2 fun t mem => ⟨h.reference (he t mem).1, (he t mem).2⟩
  | sort column direction =>
    refine { h with order := fun t mem => ?_ }
    cases List.mem_append.1 mem with
    | inl old => exact h.order t old
    | inr new =>
      cases List.mem_singleton.1 new
      exact h.reference he
  | join kind schema table label keys columns =>
    obtain ⟨⟨schema, table⟩, given, keys, columns⟩ := he
    -- the alias also begins the names of the columns, so its parts matter as well
    have label : V.name (label.getD q.nextLabel) ∧ V.Parts (label.getD q.nextLabel) := by
      cases label with
      | none => exact next rfl
      | some l => exact given l rfl
    refine { h with columns := fun c mem => ?_, joins := fun j mem => ?_ }
    · cases e : q.columns with
      | wildcard =>
        rw [Query.edit, e] at mem
        cases mem
      | explicit names =>
        rw [Query.edit, e] at mem
        cases List.mem_append.1 mem with
        | inl old => exact h.columns c (e ▸ old)
        | inr new =>
          obtain ⟨c, asked, rfl⟩ := List.mem_map.1 new
          exact parts_dotted label.2 (columns c asked)
    · cases List.mem_append.1 mem with
      | inl old => exact h.joins j old
      | inr new =>
        cases List.mem_singleton.1 new
        exact ⟨schema, table, label.1, keys⟩
  | group g =>
    refine { h with grouping := fun g' mem => ?_ }
    cases mem
    exact he
  | dedup d => exact { h with dedup := he }
  | page p => exact { h with }
  | reorder columns =>
    refine { h with columns := fun c mem => ?_ }
    rw [Query.edit] at mem
    cases e : q.selected with
    | true =>
      rw [e, if_pos rfl] at mem
      exact h.columns c mem
    | false =>
      rw [e, if_neg Bool.false_ne_true] at mem
      exact he c (List.mem_filter.1 mem).1
  | union u =>
    refine { h with unions := fun u' mem => ?_ }
    cases List.mem_append.1 mem with
    | inl old => exact h.unions u' old
    | inr new =>
      cases List.mem_singleton.1 new
      exact he
  | change column c =>
    -- the new value starts from the one before, so the invariant is needed for it too
    refine { h with transforms := fun t mem => ?_ }
    cases mem_setTransform mem with
    | inl new => exact new ▸ ⟨he.1, h.source he.1, he.2⟩
    | inr old => exact h.transforms t old

/-- Edits within a vocabulary that join no table keep a query within it. -/
lemma Within.edits (h : q.Within V) {es : List Edit}
    (hes : ∀ e ∈ es, e.Within V) (named : ∀ e ∈ es, e.isJoin = false) : (q.edits es).Within V := by
  refine edits_invariant h fun e mem q within => within.edit (hes e mem) fun unnamed => ?_
  have none := named e mem
  cases e with
  | join => cases none
  | _ => cases unnamed

end Edit

section Statement
variable {V : Vocabulary} {q : Query}

/-- What is looked up in a map is one of its values. -/
lemma mem_of_get? {α : Type} {m : NameMap α} {name : String} {a} (h : m.get? name = some a) :
    ∃ e ∈ m.entries, e.2 = a := by
  rw [NameMap.get?] at h
  obtain ⟨l, r, split, -⟩ := List.lookup_eq_some_iff.1 h
  exact ⟨(name, a), split ▸ by simp, rfl⟩

/-- The name of a column in the result belongs to the vocabulary. -/
lemma Within.outputName (h : q.Within V) {column} (name : V.name column) :
    V.name (q.outputName column) := by
  rw [Query.outputName]
  cases renamed : q.renames.get? column with
  | none => exact name
  | some label =>
    obtain ⟨e, mem, rfl⟩ := mem_of_get? renamed
    exact h.renames e mem

/-- The item for a column belongs to the vocabulary. -/
lemma Within.columnItem (h : q.Within V) {column} (parts : V.Parts column) :
    (q.columnItem column).Within V := by
  rw [Query.columnItem]
  split
  next => exact ⟨parts, by simp⟩
  next plain =>
    have name : V.name column := Sql.name_of_parts parts (by simpa using plain)
    cases given : q.transform? column with
    | some e => exact ⟨h.transform? given, by simpa using h.outputName name⟩
    | none =>
      refine ⟨parts, fun label renamed => ?_⟩
      obtain ⟨e, mem, rfl⟩ := mem_of_get? renamed
      exact h.renames e mem

/-- The item for a column that is grouped by belongs to the vocabulary. -/
lemma Within.groupedItem (h : q.Within V) {column} (name : V.name column) (parts : V.Parts column) :
    (q.groupedItem column).Within V := by
  rw [Query.groupedItem]
  cases given : q.transform? column with
  | some e => exact ⟨h.transform? given, by simpa using h.outputName name⟩
  | none => exact ⟨parts, by simp⟩

/-- The item for an aggregate belongs to the vocabulary. -/
lemma Within.aggregateItem (h : q.Within V) {a : AggregateColumn} (ha : a.Within V) :
    (q.aggregateItem a).Within V := by
  rw [Query.aggregateItem]
  refine ⟨⟨ha.function, fun e argument => ?_⟩, fun label named => ?_⟩
  · split at argument
    next => cases argument
    next column =>
      cases argument
      exact h.reference (ha.column column)
  · cases named
    exact ha.label

/-- The entry for a column that is listed belongs to the vocabulary. -/
lemma Within.entry (h : q.Within V) {known : Option (List String)}
    (hk : ∀ names ∈ known, ∀ c ∈ names, V.Parts c) {column} (listed : column ∈ q.listedColumns known) :
    (q.entry column).Within V := by
  rw [Query.entry]
  rcases mem_listedColumns listed with ⟨g, grouped, mem⟩ | ⟨ungrouped, mem⟩
  · obtain ⟨name, parts⟩ := (h.grouping g grouped).columns column mem
    rw [grouped, Option.isSome_some, if_pos rfl]
    exact h.groupedItem name parts
  · have parts : V.Parts column := by
      rcases mem with selected | ⟨-, ⟨names, given, mem, -⟩ | ⟨-, t, set, rfl⟩⟩
      · exact h.columns column selected
      · exact hk names given column mem
      · exact (h.transforms t set).1
    rw [ungrouped, Option.isSome_none, if_neg Bool.false_ne_true]
    exact h.columnItem parts

/-- The items of the select list belong to the vocabulary. -/
lemma Within.items (h : q.Within V) {known : Option (List String)}
    (hk : ∀ names ∈ known, ∀ c ∈ names, V.Parts c) : ∀ i ∈ q.items known, i.Within V := by
  have others : ∀ i ∈ q.otherItems, i.Within V := by
    rw [Query.otherItems]
    cases grouped : q.grouping with
    | some g => exact List.forall_mem_map.2 fun a mem => h.aggregateItem ((h.grouping g grouped).aggregates a mem)
    | none =>
      rw [h.added, List.map_nil, List.append_nil]
      dsimp only
      split
      · exact List.forall_mem_singleton.2 ⟨trivial, by simp⟩
      · exact List.forall_mem_nil _
  rw [items_eq]
  exact List.forall_mem_append.2 ⟨List.forall_mem_map.2 fun column listed => h.entry hk listed, others⟩

/-- The statement of a query within a vocabulary is within it, if the source table and the known
columns are. -/
lemma Within.statement (h : q.Within V) {d : Dialect} {source : Source} {page : Page}
    {known : Option (List String)} (hs : V.name source.schema ∧ V.name source.table)
    (hk : ∀ names ∈ known, ∀ c ∈ names, V.Parts c) : (q.statement d source page known).Within V where
  head := Head.within_iff.2 fun e mem => by
    obtain ⟨c, told, rfl⟩ := mem_exprs_head mem
    exact h.reference (h.dedup.columns c told)
  items i mem := h.items hk i (shownItems_perm_items.subset mem)
  source := hs
  joins := h.joins
  filters := h.filters
  groupBy e mem := by
    obtain ⟨c, ⟨g, grouped, listed⟩ | told, rfl⟩ := mem_groupBy mem
    · exact h.reference ((h.grouping g grouped).columns c listed).2
    · exact h.reference (h.dedup.columns c told)
  orderBy t mem := by
    obtain sorted | ⟨c, told, same⟩ := mem_orderBy mem
    · exact h.order t sorted
    · exact same ▸ h.reference (h.dedup.columns c told)
  unions := h.unions

end Statement

end Query

end QueryRecipe
