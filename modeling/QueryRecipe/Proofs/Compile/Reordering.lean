import QueryRecipe.Proofs.Compile.Commuting
import QueryRecipe.Proofs.Query.Arrangement
import QueryRecipe.Proofs.Query.Dropped
import QueryRecipe.Proofs.Query.Mask
import QueryRecipe.Proofs.Query.Naming

/-!
# Recipes that end by putting the columns in order

A step that puts the columns in order names the ones that come first. After a selection of columns it only
permutes the select list, by a stable and idempotent rule (`compile_reorder_selected`).

Without a selection the step also says which columns there are: those that it names and that have not been
dropped, which are then put in order by their names in the result. A column with dots or another name is
not found under the name that the step gives it, and the columns that are found move past it
(`compile_reorder_moved`). So the columns come in the order of the step exactly if the names that are found
are those of the first columns (`compile_reorder_unselected`).
-/

namespace QueryRecipe

/-- The columns that a step drops. -/
def Step.drops : Step → List String
  | .dropColumn columns => Text.nonblanks columns
  | _ => []

/-- A list has all of a part of it. -/
lemma bagInter_filter {α : Type} [DecidableEq α] {p : α → Bool} {l : List α} :
    l.bagInter (l.filter p) = l.filter p := by
  induction l with
  | nil => rfl
  | cons a l ih =>
    cases kept : p a with
    | true =>
      rw [List.filter_cons_of_pos kept, List.cons_bagInter_of_mem _ List.mem_cons_self,
        List.erase_cons_head, ih]
    | false =>
      have missing : a ∉ l.filter p := by simp [kept]
      rw [List.filter_cons_of_neg (by simp [kept]), List.cons_bagInter_of_not_mem _ missing, ih]

namespace Query

/-- The name in the result of a column in a query that is not grouped. -/
def shownName (q : Query) (column : String) : String :=
  if Sql.isDotted column then Sql.lastPart column else q.outputName column

section Run
variable {schema c : String} {i : ℕ} {q q' : Query} {steps : List Step} {columns : List String}

/-- A column has been dropped exactly if it had been before or one of the steps drops it. -/
lemma contains_dropped_applyFrom (run : applyFrom schema i q steps = .ok q') :
    q'.dropped.contains c = true ↔ c ∈ steps.flatMap Step.drops ∨ q.dropped.contains c = true := by
  induction steps generalizing i q with
  | nil =>
    cases run
    simp
  | cons s rest ih =>
    obtain ⟨-, run⟩ := applyFrom_cons_eq_ok.1 run
    have step : (q.edits (s.resolve schema).edits).dropped.contains c = true ↔
        c ∈ s.drops ∨ q.dropped.contains c = true := by
      by_cases written : .dropped ∈ s.writes
      · cases s with
        | dropColumn names => exact contains_insertAll
        | _ => simp [Step.writes] at written
      · have none : s.drops = [] := by
          cases s with
          | dropColumn => simp [Step.writes] at written
          | _ => rfl
        have same : (q.edits (s.resolve schema).edits).dropped = q.dropped :=
          (Step.agreeOn_edits written : AgreeOn .dropped _ q)
        simp [none, same]
    rw [ih run, step, List.flatMap_cons, List.mem_append, ← or_assoc, or_comm (a := c ∈ s.drops)]

/-- Columns are chosen as soon as a step selects some. -/
lemma selected_applyFrom (run : applyFrom schema i q steps = .ok q')
    (h : q.selected = true ∨ .select columns ∈ steps) : q'.selected = true := by
  induction steps generalizing i q with
  | nil =>
    cases run
    simpa using h
  | cons s rest ih =>
    obtain ⟨fine, run⟩ := applyFrom_cons_eq_ok.1 run
    refine ih run ?_
    by_cases written : .selected ∈ s.writes
    · cases s with
      | select names =>
        left
        rw [← Step.resolve_fault schema, Step.resolve] at fine
        rw [Step.resolve]
        cases present : Text.nonblanks names with
        | nil =>
          rw [present] at fine
          cases fine
        | cons => rfl
      | _ => simp [Step.writes] at written
    · have same : (q.edits (s.resolve schema).edits).selected = q.selected :=
        (Step.agreeOn_edits written : AgreeOn .selected _ q)
      rw [same]
      refine h.imp_right fun mem => (List.mem_cons.1 mem).resolve_left ?_
      rintro rfl
      simp [Step.writes] at written

/-- A last step that puts the columns in order is applied to what the others lead to. -/
lemma applyFrom_reorder : applyFrom schema i q (steps ++ [.reorder columns]) =
    (·.edit (.reorder (Text.nonblanks columns))) <$> applyFrom schema i q steps :=
  applyFrom_concat rfl

end Run

section Items
variable {q : Query} {known : Option (List String)} {d : Dialect} {names columns : List String}

/-- To put chosen columns in order leaves the items as they are. -/
lemma items_reorder (selected : q.selected = true) :
    (q.edit (.reorder names)).items known = q.items known := by
  rw [edit, if_pos selected]
  rfl

/-- The name in the result of a column is read off its entry. -/
lemma name_entry (ungrouped : q.grouping = none) (column : String) :
    TrailingName.ofText (((q.entry column).sql d).spelling d) = q.shownName column := by
  rw [entry, ungrouped, Option.isSome_none, if_neg (by simp), name_columnItem, shownName]
  cases dotted : Sql.isDotted column with
  | true => rfl
  | false =>
    rw [if_neg (by simp), if_neg (by simp), properName, outputName, Sql.lastPart_of_plain dotted,
      ite_self]

/-- Without a selection the columns that are put in order are those of the order that have not been
dropped. -/
lemma items_reorder_unselected (unselected : q.selected = false) (ungrouped : q.grouping = none)
    (uncomputed : q.added = []) :
    (q.edit (.reorder names)).items known =
      (names.filter fun c => !q.dropped.contains c).map (q.edit (.reorder names)).entry := by
  have listed : (q.edit (.reorder names)).listedColumns known =
      names.filter fun c => !q.dropped.contains c := by
    simp [listedColumns, edit, unselected, ungrouped]
  have others : (q.edit (.reorder names)).otherItems = [] := by
    simp [otherItems, edit, unselected, ungrouped, uncomputed]
  rw [items_eq, listed, others, List.append_nil]

/-- The columns of an order are shown in the order of their names in the result. -/
lemma shownItems_arranged (display : q.display = some names) (ungrouped : q.grouping = none)
    (listed : q.items known = columns.map q.entry) :
    q.shownItems d known = (arrange q.shownName names columns).map q.entry ∧
      (q.shownItems d known = columns.map q.entry ↔
        names.bagInter (columns.map q.shownName) <+: columns.map q.shownName) := by
  have shown : q.shownItems d known =
      arrange (fun i => TrailingName.ofText ((i.sql d).spelling d)) names (columns.map q.entry) := by
    rw [shownItems, display, listed]
  have named : (columns.map q.entry).map (fun i => TrailingName.ofText ((i.sql d).spelling d)) =
      columns.map q.shownName := by
    rw [List.map_map]
    exact List.map_congr_left fun c _ => name_entry ungrouped c
  rw [shown, arrange_eq_self_iff, named]
  exact ⟨arrange_map fun c _ => name_entry ungrouped c, Iff.rfl⟩

end Items

end Query

/-- To put entries in order by their names permutes them: each occurrence of a name takes the entry that is
in the same place among those with this name, these come first in the order of the names, the others
follow in theirs, and a second time changes nothing. So a step that puts the columns in order, as the last
one of a recipe that compiles and has selected columns, only permutes the items of the select list. -/
theorem compile_reorder_selected :
    (∀ (α : Type) (nameOf : α → String) (names : List String) (entries : List α),
      let arranged := Query.arrange nameOf names entries
      arranged.Perm entries ∧
        arranged = Query.taken nameOf names entries ++ Query.untaken nameOf names entries ∧
        (Query.untaken nameOf names entries).Sublist entries ∧
        Query.arrange nameOf names arranged = arranged) ∧
      ∀ d table schema steps chosen columns page known sql, .select chosen ∈ steps →
        compile d table schema steps page known = .ok sql →
        ∃ q, Query.ofSteps (Text.trim schema) steps = .ok q ∧
          let s := q.statement d ⟨Text.trim schema, Text.trim table⟩ page known
          sql = s.sql d ∧ ∃ items, items.Perm s.items ∧
            compile d table schema (steps ++ [.reorder columns]) page known =
              .ok ({ s with items := items }.sql d) := by
  constructor
  · intro α nameOf names entries arranged
    exact ⟨Query.arrange_perm, Query.arrange_eq, Query.untaken_sublist, Query.arrange_arrange⟩
  · intro d table schema steps chosen columns page known sql selects compiled
    have present := present_of_compile compiled
    obtain ⟨q, run, rfl⟩ := compile_eq_ok compiled
    have selected : q.selected = true := Query.selected_applyFrom run (.inr selects)
    let reordered := q.edit (.reorder (Text.nonblanks columns))
    have last : Query.ofSteps (Text.trim schema) (steps ++ [.reorder columns]) = .ok reordered := by
      rw [Query.ofSteps, Query.applyFrom_reorder, show Query.applyFrom _ 0 {} steps = .ok q from run]
      rfl
    refine ⟨q, run, rfl, reordered.shownItems d known, ?_, ?_⟩
    · have items : reordered.items known = q.items known := Query.items_reorder selected
      exact Query.shownItems_perm_items.trans (items ▸ Query.shownItems_perm_items.symm)
    · rw [compile_present present, last]
      rfl

/-- A computed column is named in the order, and a column that is not there. -/
theorem compile_reorder_computed :
    let steps : List Step := [.select ["a", "b", "c"], .addColumn (some "d") (some "a + b")]
    let reorder : Step := .reorder ["d", "missing", "c"]
    ∃ q, Query.ofSteps "" steps = .ok q ∧
      let s := q.statement .postgres ⟨"", "orders"⟩ {} none
      s.items = [q.entry "a", q.entry "b", q.entry "c", ⟨.written "a + b", some "d"⟩] ∧
        ∃ items, items.Perm s.items ∧
          compile .postgres "orders" "" (steps ++ [reorder]) {} none =
            .ok ({ s with items := items }.sql .postgres) := by
  intro steps reorder
  have compiles : Succeeds (compile .postgres "orders" "" steps {} none) := isOk_iff.1 (by decide)
  have items : ((Query.ofSteps "" steps).toOption.any fun q => q.shownItems .postgres none =
      [q.entry "a", q.entry "b", q.entry "c", ⟨.written "a + b", some "d"⟩]) = true := by decide
  obtain ⟨sql, compiled⟩ := compiles
  obtain ⟨q, run, rfl, permuted⟩ := compile_reorder_selected.2 .postgres "orders" "" steps
    ["a", "b", "c"] ["d", "missing", "c"] {} none sql List.mem_cons_self compiled
  rw [show Query.ofSteps "" steps = .ok q from run] at items
  exact ⟨q, run, of_decide_eq_true items, permuted⟩

/-- A recipe without selected, computed or grouped columns that compiles and ends by putting the columns in
order shows the columns that the last step names and that have not been dropped, in the order of their
names in the result. They are in the order in which the step names them exactly if those of the names that
are found are the names of the first columns; in particular if each column keeps its whole name. -/
theorem compile_reorder_unselected (d : Dialect) (table schema : String) (steps : List Step)
    (columns : List String) (page : Page) (known : Option (List String)) (sql : Sql)
    (unselected : ∀ columns, .select columns ∉ steps)
    (ungrouped : ∀ columns aggregations, .groupBy columns aggregations ∉ steps)
    (uncomputed : ∀ name expression, .addColumn name expression ∉ steps)
    (compiled : compile d table schema (steps ++ [.reorder columns]) page known = .ok sql) :
    ∃ q, Query.ofSteps (Text.trim schema) (steps ++ [.reorder columns]) = .ok q ∧
      let s := q.statement d ⟨Text.trim schema, Text.trim table⟩ page known
      let named := Text.nonblanks columns
      let kept := named.filter (· ∉ steps.flatMap Step.drops)
      let names := kept.map q.shownName
      sql = s.sql d ∧ s.items = (Query.arrange q.shownName named kept).map q.entry ∧
        (s.items = kept.map q.entry ↔ named.bagInter names <+: names) ∧
        ((∀ c ∈ kept, q.shownName c = c) → s.items = kept.map q.entry) := by
  obtain ⟨q, run, rfl⟩ := compile_eq_ok compiled
  have last := run
  rw [Query.ofSteps, Query.applyFrom_reorder] at last
  obtain ⟨r, before, rfl⟩ := map_eq_ok.1 last
  have left : ∀ p ∈ [Part.selected, .grouping, .added], r.AgreeOn p {} := by
    intro p among
    refine Query.agreeOn_applyFrom (fun s mem => ?_) before
    cases s with
    | select names => exact absurd mem (unselected names)
    | groupBy names aggregations => exact absurd mem (ungrouped names aggregations)
    | addColumn name expression => exact absurd mem (uncomputed name expression)
    | _ =>
      simp only [List.mem_cons, List.not_mem_nil, or_false] at among
      rcases among with rfl | rfl | rfl <;> simp [Step.writes]
  have free : r.grouping = none := left .grouping (by simp)
  have kept (c : String) : (!r.dropped.contains c) = decide (c ∉ steps.flatMap Step.drops) := by
    have gone : r.dropped.contains c = true ↔ c ∈ steps.flatMap Step.drops :=
      (Query.contains_dropped_applyFrom before).trans (or_iff_left Bool.false_ne_true)
    rw [Bool.eq_iff_iff, Bool.not_eq_true', ← Bool.not_eq_true, gone, decide_eq_true_iff]
  have listed : (r.edit (.reorder (Text.nonblanks columns))).items known = _ :=
    Query.items_reorder_unselected (left .selected (by simp)) free (left .added (by simp))
  simp only [kept] at listed
  have display : (r.edit (.reorder (Text.nonblanks columns))).display =
      some (Text.nonblanks columns) := rfl
  obtain ⟨shown, same⟩ := Query.shownItems_arranged (d := d) display free listed
  refine ⟨_, run, rfl, shown, same, fun whole => same.2 ?_⟩
  rw [List.map_congr_left whole, List.map_id']
  exact ⟨[], by rw [bagInter_filter, List.append_nil]⟩

/-- The column that is found is changed and comes first; another one has a new name, and one is dropped. -/
theorem compile_reorder_led :
    let steps : List Step := [.trim "name" .both, .rename (.ofList [("size", "width")]),
      .dropColumn ["id"]]
    let columns : List String := ["name", " id ", "size"]
    ∃ q, Query.ofSteps "" (steps ++ [.reorder columns]) = .ok q ∧
      let s := q.statement .mysql ⟨"", "orders"⟩ {} none
      compile .mysql "orders" "" (steps ++ [.reorder columns]) {} none = .ok (s.sql .mysql) ∧
        q.shownName "size" = "width" ∧ s.items = [q.entry "name", q.entry "size"] := by
  intro steps columns
  have compiles : Succeeds (compile .mysql "orders" "" (steps ++ [.reorder columns]) {} none) :=
    isOk_iff.1 (by decide)
  have shown : (Query.ofSteps "" (steps ++ [.reorder columns])).toOption.map
      (fun q => (q.shownName "name", q.shownName "size")) = some ("name", "width") := by decide
  have kept : (Text.nonblanks columns).filter (· ∉ steps.flatMap Step.drops) = ["name", "size"] := by
    decide
  obtain ⟨sql, compiled⟩ := compiles
  obtain ⟨q, run, rfl, -, inOrder, -⟩ := compile_reorder_unselected .mysql "orders" "" steps columns {}
    none sql (by simp [steps]) (by simp [steps]) (by simp [steps]) compiled
  rw [show Query.ofSteps "" (steps ++ [.reorder columns]) = .ok q from run] at shown
  obtain ⟨name, size⟩ := Prod.mk.inj (Option.some.inj shown)
  have named : ["name", "size"].map q.shownName = ["name", "width"] := by simp [name, size]
  rw [kept, named] at inOrder
  exact ⟨q, run, compiled, size, inOrder.2 (by decide)⟩

/-- A column with dots and a renamed column are not found under their names, and the next one moves past
them. -/
theorem compile_reorder_moved :
    let joined : List Step := [.join "shops" none none none [⟨"shop", "id"⟩] [],
      .reorder ["j1.city", "size"]]
    let renamed : List Step := [.rename (.ofList [("size", "width")]), .reorder ["size", "id"]]
    let moves (steps : List Step) (first second : String) : Prop :=
      ∃ q, Query.ofSteps "" steps = .ok q ∧
        let s := q.statement .postgres ⟨"", "orders"⟩ {} none
        compile .postgres "orders" "" steps {} none = .ok (s.sql .postgres) ∧
          s.items = [q.entry second, q.entry first] ∧ q.entry first ≠ q.entry second
    moves joined "j1.city" "size" ∧ moves renamed "size" "id" := by
  intro joined renamed moves
  have present : Text.nonblank? "orders" = some "orders" := by decide
  have trimmed : Text.trim "" = "" := by decide
  have shown {steps : List Step} {first second : String}
      (moved : ((Query.ofSteps "" steps).toOption.any fun q =>
        (q.statement .postgres ⟨"", "orders"⟩ {} none).items = [q.entry second, q.entry first] &&
          q.entry first ≠ q.entry second) = true) : moves steps first second := by
    obtain ⟨q, run, shown⟩ := Option.any_eq_true _ _ |>.1 moved
    rw [toOption_eq_some] at run
    simp only [Bool.and_eq_true, decide_eq_true_iff] at shown
    refine ⟨q, run, ?_, shown⟩
    simp only [compile, present, trimmed, run]
    rfl
  exact ⟨shown (by decide +kernel), shown (by decide +kernel)⟩

end QueryRecipe
