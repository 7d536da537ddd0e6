import QueryRecipe.Proofs.Expr
import QueryRecipe.Proofs.Query.Entries
import QueryRecipe.Proofs.Query.Sound

/-!
# Dropped columns

A column that has been dropped is remembered as such and is not in an explicit list of columns
(`Query.Omits`). This stays so unless an edit lists the column itself: an edit that puts the columns in
order leaves out those that have been dropped (`Query.Omits.edit`).

What this says about the select list depends on where its columns come from. They are those of an
explicit list, the known columns that have not been dropped, those that the query groups by, or, when a
wildcard has to be spelled out and no columns are known, all that have been changed
(`Query.Omits.not_listed`).
-/

namespace QueryRecipe

section Names

/-- The first pair of a list answers for its own key. -/
lemma lookup_cons_eq {α : Type} {e : String × α} {r : List (String × α)} {c : String} :
    (e :: r).lookup c = if c = e.1 then some e.2 else r.lookup c := by
  obtain ⟨name, value⟩ := e
  rw [List.lookup_cons]
  by_cases same : c = name
  · rw [if_pos same, beq_iff_eq.2 same]
  · rw [if_neg same, beq_false_of_ne same]

/-- An inserted entry is found under its name, and every other name is looked up as before. -/
lemma lookup_insertEntry {α : Type} {name c : String} {value : α} {entries : List (String × α)} :
    (NameMap.insertEntry name value entries).lookup c =
      if c = name then some value else entries.lookup c := by
  induction entries with
  | nil => exact lookup_cons_eq
  | cons e r ih =>
    rw [NameMap.insertEntry]
    split
    next => exact lookup_cons_eq
    next =>
      split
      next same =>
        rw [lookup_cons_eq, lookup_cons_eq, ← same]
        split <;> rfl
      next other =>
        rw [lookup_cons_eq, lookup_cons_eq, ih]
        by_cases own : c = name
        · have apart : c ≠ e.1 := fun h => other (own.symm.trans h)
          rw [if_neg apart, if_pos own, if_pos own]
        · rw [if_neg own, if_neg own]

/-- Inserting a name adds that name and no other. -/
lemma contains_insert {s : NameSet} {n c : String} :
    (s.insert n ()).contains c = (decide (c = n) || s.contains c) := by
  show (List.lookup c (NameMap.insertEntry n () s.entries)).isSome = _
  rw [lookup_insertEntry]
  by_cases same : c = n
  · simp [same]
  · rw [if_neg same, decide_eq_false same, Bool.false_or]
    rfl

/-- A set with names added has these names and those that it had before. -/
lemma contains_insertAll {s : NameSet} {names : List String} {c : String} :
    (s.insertAll names).contains c = true ↔ c ∈ names ∨ s.contains c = true := by
  induction names generalizing s with
  | nil => simp [NameSet.insertAll]
  | cons n names ih =>
    refine (ih (s := s.insert n ())).trans ?_
    rw [contains_insert, Bool.or_eq_true, decide_eq_true_iff, List.mem_cons]
    tauto

end Names

/-- The column that an item of the select list shows, changed or not. -/
def SelectItem.column? (i : SelectItem) : Option String :=
  match i.value with
  | .expr e => some e.column
  | _ => none

/-- Whether an edit of `q` lists a column. -/
def Edit.Lists (c : String) (q : Query) : Edit → Prop
  | .select columns => c ∈ columns
  | .join _ _ _ label _ columns => ∃ c' ∈ columns, label.getD q.nextLabel ++ "." ++ c' = c
  | _ => False

namespace Query

/-- Whether a column has been dropped and is not in the explicit list of columns. -/
structure Omits (q : Query) (c : String) : Prop where
  dropped : q.dropped.contains c = true
  unlisted : c ∉ q.columns.names

/-- Whether a list of columns has taken the place of the wildcard. -/
def IsListed (q : Query) : Prop :=
  q.columns ≠ .wildcard ∨ q.grouping ≠ none

/-- Whether each column that has been changed has a value of its own. -/
def OwnValues (q : Query) : Prop :=
  ∀ column e, q.transform? column = some e → e.column = column

section Edit
variable {q : Query} {c : String}

/-- A list of columns is not the wildcard. -/
lemma Columns.explicit_ne_wildcard {names : List String} : Columns.explicit names ≠ .wildcard := nofun

/-- A dropped column is listed no more. -/
lemma Columns.not_mem_without {gone : List String} {columns : Columns} (mem : c ∈ gone) :
    c ∉ (Columns.without gone columns).names := by
  cases columns with
  | wildcard => exact List.not_mem_nil
  | explicit names =>
    intro kept
    have other := (List.mem_filter.1 kept).2
    simp [mem] at other

/-- A column is omitted as soon as it has been dropped. -/
lemma omits_drop {columns : List String} (mem : c ∈ columns) : (q.edit (.drop columns)).Omits c where
  dropped := contains_insertAll.2 (.inl mem)
  unlisted := Columns.not_mem_without mem

/-- A column stays omitted unless an edit lists it. -/
lemma Omits.edit (h : q.Omits c) {e : Edit} (other : ¬ e.Lists c q) : (q.edit e).Omits c := by
  cases e with
  | select columns => exact ⟨h.dropped, other⟩
  | drop columns =>
    exact ⟨contains_insertAll.2 (.inr h.dropped), fun mem => h.unlisted (Columns.mem_without mem)⟩
  | join kind schema table label keys columns =>
    refine ⟨h.dropped, fun mem => ?_⟩
    cases Columns.mem_joined mem with
    | inl old => exact h.unlisted old
    | inr new =>
      obtain ⟨c', asked, same⟩ := new
      exact other ⟨c', asked, same.symm⟩
  | reorder columns =>
    refine ⟨h.dropped, fun mem => ?_⟩
    change c ∈ (if q.selected then q.columns else _).names at mem
    split at mem
    · exact h.unlisted mem
    · have kept := (List.mem_filter.1 mem).2
      simp [h.dropped] at kept
  | _ => exact ⟨h.dropped, h.unlisted⟩

/-- A column left out stays left out under edits that do not list it. -/
lemma Omits.edits (h : q.Omits c) {es : List Edit} (other : ∀ e ∈ es, ∀ q, ¬ e.Lists c q) :
    (q.edits es).Omits c :=
  edits_invariant (P := (·.Omits c)) h fun e mem q omits => omits.edit (other e mem q)

/-- A wildcard does not come back. -/
lemma IsListed.edit (h : q.IsListed) (e : Edit) : (q.edit e).IsListed := by
  cases e with
  | select => exact .inl Columns.explicit_ne_wildcard
  | group => exact .inr nofun
  | drop columns =>
    refine h.imp_left fun explicit => ?_
    show Columns.without columns q.columns ≠ .wildcard
    cases e : q.columns with
    | wildcard => exact absurd e explicit
    | explicit names => exact Columns.explicit_ne_wildcard
  | join kind schema table label keys columns =>
    refine h.imp_left fun explicit => ?_
    show Columns.joined (label.getD q.nextLabel) columns q.columns ≠ .wildcard
    cases e : q.columns with
    | wildcard => exact absurd e explicit
    | explicit names => exact Columns.explicit_ne_wildcard
  | reorder columns =>
    refine h.imp_left fun explicit => ?_
    show (if q.selected then q.columns else _) ≠ Columns.wildcard
    split
    · exact explicit
    · exact Columns.explicit_ne_wildcard
  | _ => exact h

/-- A query that lists its columns goes on listing them. -/
lemma IsListed.edits (h : q.IsListed) (es : List Edit) : (q.edits es).IsListed :=
  edits_invariant h fun e _ _ listed => listed.edit e

end Edit

section Items
variable {q : Query} {c : String} {known : Option (List String)}

/-- A column has no transform exactly if no entry of the transforms is for it. -/
lemma transform?_eq_none : q.transform? c = none ↔ c ∉ q.transforms.map (·.column) := by
  simp [transform?]

/-- An omitted column has no entry in the select list, if the query does not group by it and, where a
wildcard has to be spelled out without any columns known, it has not been changed. -/
lemma Omits.not_listed (h : q.Omits c) (grouped : ∀ g ∈ q.grouping, c ∉ g.columns)
    (spelled : known.isSome = true ∨ q.IsListed ∨ q.transform? c = none) :
    c ∉ q.listedColumns known := by
  intro listed
  rcases mem_listedColumns listed with ⟨g, grouping, mem⟩ | ⟨ungrouped, selected | ⟨wildcard, told⟩⟩
  · exact grouped g grouping mem
  · exact h.unlisted selected
  · rcases told with ⟨names, -, -, kept⟩ | ⟨unknown, t, set, same⟩
    · exact Bool.false_ne_true (kept.symm.trans h.dropped)
    · rcases spelled with known | explicit | unchanged
      · simp [unknown] at known
      · exact absurd explicit (by simp [IsListed, wildcard, ungrouped])
      · exact transform?_eq_none.1 unchanged (List.mem_map.2 ⟨t, set, same⟩)

/-- The entry for a column shows this column. -/
lemma column?_entry (own : q.OwnValues) : (q.entry c).column? = some c := by
  cases value : q.transform? c with
  | none =>
    rw [entry, groupedItem, columnItem, value]
    split
    · rfl
    · split <;> rfl
  | some e =>
    have same := own c e value
    rw [entry, groupedItem, columnItem, value]
    split
    · exact congrArg some same
    · split
      · rfl
      · exact congrArg some same

/-- The other items show no single column. -/
lemma column?_otherItems : ∀ i ∈ q.otherItems, i.column? = none := by
  rw [otherItems]
  cases q.grouping with
  | some g => exact List.forall_mem_map.2 fun a _ => rfl
  | none =>
    refine List.forall_mem_append.2 ⟨?_, List.forall_mem_map.2 fun a _ => rfl⟩
    split
    · exact List.forall_mem_singleton.2 rfl
    · exact List.forall_mem_nil _

/-- No item of the select list shows a column that is not listed. -/
lemma column?_ne_of_not_listed (own : q.OwnValues) {d : Dialect} (h : c ∉ q.listedColumns known) :
    ∀ i ∈ q.shownItems d known, i.column? ≠ some c := by
  intro i mem
  cases List.mem_append.1 (shownItems_perm.subset mem) with
  | inl listed =>
    obtain ⟨c', among, rfl⟩ := List.mem_map.1 listed
    rw [column?_entry own]
    rintro ⟨⟩
    exact h among
  | inr other =>
    rw [column?_otherItems i other]
    nofun

end Items

end Query

end QueryRecipe
