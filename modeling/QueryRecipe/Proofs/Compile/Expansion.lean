import QueryRecipe.Proofs.Compile.Transforms
import QueryRecipe.Proofs.Query.Dropped

/-!
# Spelling out the wildcard

A wildcard with changed columns is spelled out at the end, with the known columns that have not been
dropped. A recipe that begins by selecting the known columns has them listed all along, and each drop
shortens the list. Both come to the same: the query with the list is at every point the other one with its
wildcard spelled out (`Query.edits_spelledOut`), so the recipes compile to the same statement
(`compile_expanded`).
-/

namespace QueryRecipe

open Text (Blank Tidy)

/-- Whether an edit chooses columns that are selected, be it all of them or further ones. -/
def Edit.choosesColumns : Edit → Bool
  | .select _ | .reorder _ => true
  | .join _ _ _ _ _ columns => columns != []
  | _ => false

namespace Step

/-- Whether a step chooses columns that are selected, be it all of them or further ones. -/
def choosesColumns : Step → Bool
  | .select _ | .reorder _ => true
  | .join _ _ _ _ _ columns => Text.nonblanks columns != []
  | _ => false

/-- Steps that leave the choice of columns open come to edits that do. -/
lemma edits_choosesColumns (schema : String) {steps : List Step}
    (unchosen : ∀ s ∈ steps, s.choosesColumns = false) :
    ∀ e ∈ steps.flatMap fun s => (s.resolve schema).edits, e.choosesColumns = false := by
  intro e mem
  obtain ⟨s, listed, asked⟩ := List.mem_flatMap.1 mem
  have h := unchosen s listed
  cases asks_of_mem asked with
  | select | reorder => cases h
  | join => exact h
  | _ => rfl

/-- A selection of tidy names is carried out as it is. -/
lemma resolve_select {schema : String} {columns : List String} (nonempty : columns ≠ [])
    (tidy : ∀ c ∈ columns, Tidy c) :
    (select columns).resolve schema = ⟨[.select columns], none⟩ := by
  rw [resolve, Text.nonblanks_eq_self tidy]
  cases columns with
  | nil => exact absurd rfl nonempty
  | cons => rfl

end Step

namespace Query

/-- A query with the known columns that have not been dropped in the place of its wildcard. -/
def spelledOut (known : List String) (q : Query) : Query :=
  { q with columns := .explicit (known.filter fun c => !q.dropped.contains c), selected := true }

section Edit
variable {known : List String} {q : Query}

/-- To drop names from the columns that are left is to leave out more of the known ones. -/
lemma spelledOut_drop (columns : List String) :
    (q.spelledOut known).edit (.drop columns) = (q.edit (.drop columns)).spelledOut known := by
  have left : (known.filter fun c => !q.dropped.contains c).filter (fun c => !columns.contains c) =
      known.filter fun c => !(q.dropped.insertAll columns).contains c := by
    rw [List.filter_filter]
    refine List.filter_congr fun c _ => ?_
    rw [← Bool.not_or, Bool.eq_iff_iff, Bool.not_eq_true', Bool.not_eq_true', ← Bool.not_eq_true,
      ← Bool.not_eq_true, contains_insertAll]
    simp
  exact congrArg (fun names => { q with
    dropped := q.dropped.insertAll columns, columns := .explicit names, selected := true }) left

/-- An edit that chooses no columns does the same to a query with its wildcard spelled out. -/
lemma edit_spelledOut {e : Edit} (h : e.choosesColumns = false) :
    (q.spelledOut known).edit e = (q.edit e).spelledOut known := by
  cases e with
  | select | reorder => cases h
  | drop columns => exact spelledOut_drop columns
  | join kind schema table label keys columns =>
    obtain rfl : columns = [] := by simpa [Edit.choosesColumns] using h
    have same : Columns.joined (label.getD q.nextLabel) [] (q.spelledOut known).columns =
        (q.spelledOut known).columns := congrArg Columns.explicit (List.append_nil _)
    let joins := q.joins ++ [⟨kind, schema, table, label.getD q.nextLabel, keys⟩]
    exact congrArg (fun columns => { q.spelledOut known with joins := joins, columns := columns }) same
  | _ => rfl

/-- An edit that chooses no columns leaves a wildcard. -/
lemma columns_edit {e : Edit} (h : e.choosesColumns = false) (wildcard : q.columns = .wildcard) :
    (q.edit e).columns = .wildcard := by
  cases e with
  | select | reorder => cases h
  | drop columns =>
    show Columns.without columns q.columns = .wildcard
    rw [wildcard, Columns.without]
  | join kind schema table label keys columns =>
    show Columns.joined _ columns q.columns = .wildcard
    rw [wildcard, Columns.joined]
  | _ => exact wildcard

/-- Edits that choose no columns come to the same query with its wildcard spelled out. -/
lemma edits_spelledOut {es : List Edit} (h : ∀ e ∈ es, e.choosesColumns = false) :
    (q.spelledOut known).edits es = (q.edits es).spelledOut known :=
  edits_related (R := fun r q => r = q.spelledOut known) rfl fun e mem _ _ same =>
    (congrArg (edit · e) same).trans (edit_spelledOut (h e mem))

/-- A wildcard stays under edits that leave the choice of columns open. -/
lemma columns_edits {es : List Edit} (h : ∀ e ∈ es, e.choosesColumns = false)
    (wildcard : q.columns = .wildcard) : (q.edits es).columns = .wildcard :=
  edits_invariant (P := (·.columns = .wildcard)) wildcard fun e mem _ => columns_edit (h e mem)

end Edit

section Run
variable {schema : String} {steps : List Step} {known : List String} {q r : Query}

/-- Steps that choose no columns are applied to a query with its wildcard spelled out exactly if they are
applied to the query itself, and they come to the same with its wildcard spelled out. -/
lemma applyFrom_spelledOut {i j} (unchosen : ∀ s ∈ steps, s.choosesColumns = false) :
    applyFrom schema j (q.spelledOut known) steps = .ok r ↔
      ∃ q', applyFrom schema i q steps = .ok q' ∧ q'.spelledOut known = r := by
  have edits := Step.edits_choosesColumns schema unchosen
  simp only [applyFrom_eq_ok, edits_spelledOut edits]
  constructor
  · rintro ⟨fine, rfl⟩
    exact ⟨_, ⟨fine, rfl⟩, rfl⟩
  · rintro ⟨_, ⟨fine, rfl⟩, rfl⟩
    exact ⟨fine, rfl⟩

/-- Steps that choose no columns leave a wildcard. -/
lemma columns_applyFrom {i} (unchosen : ∀ s ∈ steps, s.choosesColumns = false)
    (wildcard : q.columns = .wildcard) (run : applyFrom schema i q steps = .ok r) :
    r.columns = .wildcard := by
  obtain ⟨-, rfl⟩ := applyFrom_eq_ok.1 run
  exact columns_edits (Step.edits_choosesColumns schema unchosen) wildcard

/-- A recipe that begins by selecting the known columns goes on with the wildcard spelled out. -/
lemma ofSteps_select (nonempty : known ≠ []) (tidy : ∀ c ∈ known, Tidy c) :
    ofSteps schema (.select known :: steps) =
      applyFrom schema 1 (({} : Query).spelledOut known) steps := by
  have resolved : (Step.select known).resolve schema = ⟨[.select known], none⟩ :=
    Step.resolve_select nonempty tidy
  have fine : (Step.select known).fault = none := by
    rw [← Step.resolve_fault schema, resolved]
  have all : (known.filter fun c => !(∅ : NameSet).contains c) = known :=
    List.filter_eq_self.2 fun _ _ => rfl
  rw [ofSteps, applyFrom_cons fine, resolved, spelledOut, all]
  rfl

/-- After a step that changes a column there is a changed column. -/
lemma transforms_ne_nil {i s} (run : applyFrom schema i {} steps = .ok q) (mem : s ∈ steps)
    (changes : s.change? ≠ none) : q.transforms ≠ [] := by
  obtain ⟨⟨column, change⟩, made⟩ := Option.ne_none_iff_exists'.1 changes
  have among : change ∈ changesTo column steps :=
    List.mem_map.2 ⟨(column, change), by simpa using ⟨s, mem, made⟩, rfl⟩
  have value : q.transform? column = valueAfter? steps column := (Reflects.empty.applyFrom run).transform? _
  intro none
  rw [valueAfter?, transform?, none] at value
  cases e : changesTo column steps with
  | nil =>
    rw [e] at among
    cases among
  | cons c rest =>
    rw [e] at value
    cases value

end Run

section Statement
variable {known : List String} {q : Query} {d : Dialect} {source : Source} {page : Page}

/-- A wildcard that has to be spelled out with the known columns gives the items that it gives where it is
spelled out already. -/
lemma items_spelledOut (wildcard : q.columns = .wildcard) (changed : q.transforms ≠ []) :
    (q.spelledOut known).items none = q.items (some known) := by
  have columns : (q.spelledOut known).columnItems none = q.columnItems (some known) := by
    rw [columnItems.eq_def q, wildcard]
    cases transforms : q.transforms with
    | nil => exact absurd transforms changed
    | cons t ts => rfl
  rw [items, items, columns]
  rfl

/-- The statement of the spelled-out query is that of the query when the columns are known. -/
lemma statement_spelledOut (wildcard : q.columns = .wildcard) (changed : q.transforms ≠ []) :
    (q.spelledOut known).statement d source page none = q.statement d source page (some known) := by
  have items : (q.spelledOut known).shownItems d none = q.shownItems d (some known) := by
    rw [shownItems, shownItems, items_spelledOut wildcard changed]
    rfl
  rw [statement, statement, items]
  rfl

end Statement

end Query

/-- A recipe that changes a column and chooses no columns compiles with known columns to the same statement
as the recipe that begins by selecting them. -/
theorem compile_expanded {known : List String} {steps : List Step} (nonempty : known ≠ [])
    (tidy : ∀ c ∈ known, Tidy c) (changes : ∃ s ∈ steps, s.change? ≠ none)
    (unchosen : ∀ s ∈ steps, s.choosesColumns = false) (d : Dialect) (table schema : String) (page : Page)
    (sql : Sql) :
    compile d table schema steps page (some known) = .ok sql ↔
      compile d table schema (.select known :: steps) page none = .ok sql := by
  by_cases blank : Blank table
  · rw [compile_blank blank, compile_blank blank]
  rw [compile_present blank, compile_present blank, Query.ofSteps_select nonempty tidy, bind_eq_ok,
    bind_eq_ok]
  obtain ⟨s, mem, change⟩ := changes
  let source : Source := ⟨Text.trim schema, Text.trim table⟩
  have statement {q} (run : Query.ofSteps (Text.trim schema) steps = .ok q) :
      (q.spelledOut known).statement d source page none = q.statement d source page (some known) :=
    Query.statement_spelledOut (Query.columns_applyFrom unchosen rfl run)
      (Query.transforms_ne_nil run mem change)
  constructor
  · rintro ⟨q, run, ⟨⟩⟩
    refine ⟨q.spelledOut known, (Query.applyFrom_spelledOut unchosen).2 ⟨q, run, rfl⟩, ?_⟩
    exact congrArg (fun s : Statement => Except.ok (s.sql d)) (statement run)
  · rintro ⟨r, run, ⟨⟩⟩
    obtain ⟨q, run', rfl⟩ := (Query.applyFrom_spelledOut (i := 0) unchosen).1 run
    exact ⟨q, run', congrArg (fun s : Statement => Except.ok (s.sql d)) (statement run').symm⟩

/-- The known columns are dropped, renamed and changed between other steps. -/
theorem compile_expanded_dropped :
    let known : List String := ["id", "secret", "name", "t.size"]
    let steps : List Step := [.dropColumn ["secret", "id"], .filter [⟨"name", some "is_null", .null⟩] none,
      .join "sizes" none none (some "s") [⟨"size", "id"⟩] [" "], .trim " name " .both,
      .rename (.ofList [("name", "label")]), .dropColumn ["id"], .union "archive" none false]
    known ≠ [] ∧ (∀ c ∈ known, Tidy c) ∧ (∃ s ∈ steps, s.change? ≠ none) ∧
      (∀ s ∈ steps, s.choosesColumns = false) ∧
      ∃ sql, compile .sqlite "users" "" steps {} (some known) = .ok sql ∧
        compile .sqlite "users" "" (.select known :: steps) {} none = .ok sql := by
  intro known steps
  have nonempty : known ≠ [] := List.cons_ne_nil _ _
  have kept : Text.nonblanks known = known := by decide
  have tidy : ∀ c ∈ known, Tidy c := by
    rw [← kept]
    exact fun c mem => Text.tidy_of_mem_nonblanks mem
  have changes : ∃ s ∈ steps, s.change? ≠ none := ⟨.trim " name " .both, by simp [steps], by simp [Step.change?]⟩
  have unchosen : ∀ s ∈ steps, s.choosesColumns = false := by decide
  have compiles : Succeeds (compile .sqlite "users" "" steps {} (some known)) :=
    isOk_iff.1 (by decide +kernel)
  obtain ⟨sql, compiled⟩ := compiles
  exact ⟨nonempty, tidy, changes, unchosen, sql, compiled,
    (compile_expanded nonempty tidy changes unchosen .sqlite "users" "" {} sql).1 compiled⟩

end QueryRecipe
