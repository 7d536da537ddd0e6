import QueryRecipe.Proofs.Compile.Stock
import QueryRecipe.Proofs.Statement.Lists
import QueryRecipe.Proofs.Step.Reachable

/-!
# Empty lists in compiled statements

Most lists of a compiled statement cannot be empty: a clause is left out when there is nothing in it,
and a step that would leave a grouping or a filter empty is rejected or passed over. Two kinds can. The
select list is empty when all chosen columns have been dropped again, and a literal may have an empty list
in it. `compile_lists` says exactly when a compiled statement has an empty list, and `compile_emptyList`
that both kinds occur.
-/

namespace QueryRecipe

namespace Query

/-- Whether nothing is left for the select list of a query: it has no grouping and no computed column, and
its columns are an empty list, or known and all dropped where they have to be spelled out. -/
def ShowsNothing (q : Query) (known : Option (List String)) : Prop :=
  q.grouping = none ∧ q.added = [] ∧
    match q.columns with
    | .explicit names => names = []
    | .wildcard => q.transforms ≠ [] ∧ ∃ names ∈ known, ∀ c ∈ names, q.dropped.contains c = true

section Items
variable {q : Query} {d : Dialect} {known : Option (List String)}

/-- No column has an item if the list of columns is empty, or if a wildcard has to be spelled out and all
known columns have been dropped. -/
lemma columnItems_eq_nil : q.columnItems known = [] ↔
    match q.columns with
    | .explicit names => names = []
    | .wildcard => q.transforms ≠ [] ∧ ∃ names ∈ known, ∀ c ∈ names, q.dropped.contains c = true := by
  rw [columnItems.eq_def]
  cases q.columns with
  | explicit names => simp
  | wildcard =>
    cases q.transforms with
    | nil => simp
    | cons t ts => cases known <;> simp

/-- The select list has no items exactly if nothing is left for it. -/
lemma shownItems_eq_nil (sound : q.Sound) : q.shownItems d known = [] ↔ q.ShowsNothing known := by
  have arranged : q.shownItems d known = [] ↔ q.items known = [] := by
    rw [← List.length_eq_zero_iff, shownItems_perm_items.length_eq, List.length_eq_zero_iff]
  rw [arranged, items, ShowsNothing]
  cases grouped : q.grouping with
  | some g =>
    have something := (sound.grouping g grouped).something
    rw [← not_and_or] at something
    exact iff_of_false (by simpa using something) (by simp)
  | none => simp [columnItems_eq_nil, and_comm]

end Items

/-- Steps that are applied to the end keep a query sound. -/
lemma Sound.applyFrom {schema i steps} {q q' : Query} (h : q.Sound)
    (run : applyFrom schema i q steps = .ok q') : q'.Sound := by
  obtain ⟨-, rfl⟩ := applyFrom_eq_ok.1 run
  refine h.edits fun e mem => ?_
  obtain ⟨s, -, asked⟩ := List.mem_flatMap.1 mem
  exact Step.edits_sound schema s e asked

/-- The statement of a sound query has columns wherever it needs them, apart from its select list. -/
lemma Sound.regular {q : Query} (h : q.Sound) {d source page known} :
    (q.statement d source page known).Regular := by
  refine ⟨fun columns e => ?_, fun f mem none => ?_⟩
  · have on : q.head d = .distinctOn columns := e
    rw [head] at on
    cases given : q.dedup with
    | off | rows =>
      rw [given] at on
      cases on
    | on names =>
      rw [given] at on
      cases d with
      | postgres =>
        cases on
        simpa using (h.dedup names given).1
      | mysql | sqlite => cases on
  · obtain ⟨inside, ne, same⟩ := h.filters f mem d
    have empty : inside = [] := by simpa [Filter.sql, none, Sql.separated, Sql.spelling, Piece.spelling] using same
    exact ne empty

end Query

/-- A compiled statement has no empty list exactly if something is left for its select list and no
literal that is written in it has an empty list; and the second is so if no literal that the steps write
has one. -/
theorem compile_lists (d : Dialect) (table schema : String) (steps : List Step) (page : Page)
    (known : Option (List String)) (sql : Sql)
    (compiled : compile d table schema steps page known = .ok sql) :
    ∃ q, Query.ofSteps (Text.trim schema) steps = .ok q ∧
      let s := q.statement d ⟨Text.trim schema, Text.trim table⟩ page known
      sql = s.sql d ∧ (sql.NoEmptyList ↔ ¬ q.ShowsNothing known ∧ s.Filled) ∧
        ((∀ st ∈ steps, Stock.filled.Covers st) → s.Filled) := by
  obtain ⟨q, run, rfl⟩ := compile_eq_ok compiled
  have sound : q.Sound := Query.Sound.empty.applyFrom run
  refine ⟨q, run, rfl, ?_, fun covers => ?_⟩
  · rw [Statement.noEmptyList_iff sound.regular, ← Query.shownItems_eq_nil sound (d := d)]
    rfl
  · have made : (q.statement d ⟨Text.trim schema, Text.trim table⟩ page known).From .filled :=
      ((Query.applyFrom_from run).2 .empty covers fun _ _ _ _ => trivial).statement fun _ _ => trivial
    exact ⟨made.head, made.items, fun f mem c inside => .inr (made.filters f mem c inside),
      made.groupBy, made.orderBy⟩

/-- Of the known columns one is left, and the literal that fills it is a list with an item. -/
theorem compile_lists_known :
    let steps : List Step := [.fillNull "a" (.list [.int 1]) true, .dropColumn ["b"]]
    ∃ sql, compile .postgres "orders" "" steps {} (some ["a", "b"]) = .ok sql ∧
      ∃ q, Query.ofSteps "" steps = .ok q ∧
        let s := q.statement .postgres ⟨"", "orders"⟩ {} (some ["a", "b"])
        s.Filled ∧ (sql.NoEmptyList ↔ ¬ q.ShowsNothing (some ["a", "b"])) := by
  intro steps
  have covers : ∀ st ∈ steps, Stock.filled.Covers st := by
    have fill : Stock.filled.Covers (.fillNull "a" (.list [.int 1]) true) := by
      refine ⟨fun _ _ => trivial, ?_, nofun⟩
      rintro _ ⟨⟩
      exact ⟨List.cons_ne_nil _ _, trivial, trivial⟩
    have drop : Stock.filled.Covers (.dropColumn ["b"]) := ⟨nofun, nofun, nofun⟩
    simp [steps, fill, drop]
  have compiles : (compile .postgres "orders" "" steps {} (some ["a", "b"])).isOk = true := by
    decide +kernel
  cases e : compile .postgres "orders" "" steps {} (some ["a", "b"]) with
  | error fault =>
    rw [e] at compiles
    cases compiles
  | ok sql =>
    obtain ⟨q, run, -, lists, filled⟩ :=
      compile_lists .postgres "orders" "" steps {} (some ["a", "b"]) sql e
    exact ⟨sql, rfl, q, run, filled covers, lists.trans (and_iff_left (filled covers))⟩

/-- The select list of a recipe may be left empty: by dropping all columns that were chosen, by an empty
order, and by dropping all known columns when they are spelled out. A literal list without items is
written as it is. -/
theorem compile_emptyList :
    let dropped : List Step × Option (List String) := ([.select ["a"], .dropColumn ["a"]], none)
    let ordered : List Step × Option (List String) := ([.reorder []], none)
    let spelled : List Step × Option (List String) :=
      ([.trim "a" .both, .dropColumn ["a"]], some ["a"])
    let compared : List Step × Option (List String) :=
      ([.filter [⟨"a", some "=", .list []⟩] none], none)
    let filled : List Step × Option (List String) := ([.fillNull "a" (.list []) false], none)
    ∀ x ∈ [dropped, ordered, spelled, compared, filled],
      x.2 ≠ some [] ∧ ∃ sql, compile .postgres "orders" "" x.1 {} x.2 = .ok sql ∧ ¬ sql.NoEmptyList := by
  intro dropped ordered spelled compared filled x mem
  have known : ∀ x ∈ [dropped, ordered, spelled, compared, filled], x.2 ≠ some [] := by
    decide +kernel
  have empty : ∀ x ∈ [dropped, ordered, spelled, compared, filled],
      ((compile .postgres "orders" "" x.1 {} x.2).toOption.any fun sql => ¬ sql.NoEmptyList) = true := by
    decide +kernel
  obtain ⟨sql, compiled, empty⟩ := Option.any_eq_true _ _ |>.1 (empty x mem)
  exact ⟨known x mem, sql, toOption_eq_some.1 compiled, of_decide_eq_true empty⟩

end QueryRecipe
