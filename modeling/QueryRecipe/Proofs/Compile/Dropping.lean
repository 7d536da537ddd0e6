import QueryRecipe.Proofs.Compile.Stock
import QueryRecipe.Proofs.Compile.Transforms
import QueryRecipe.Proofs.Query.Dropped
import QueryRecipe.Proofs.Step.Footprint
import QueryRecipe.Proofs.Step.Reachable

/-!
# Dropped columns in compiled statements

A column that a step drops stays away from the select list, whatever the steps around it do, unless a
later step lists it again (`compile_dropped`). There are two exceptions. A grouped query shows what it
groups by, also a column that is dropped afterwards; and where a wildcard stays and no columns are known,
all changed columns are shown, the dropped ones among them (`compile_dropped_shown`).
-/

namespace QueryRecipe

namespace Step

/-- The columns that a step selects. -/
def chosen : Step → List String
  | .select columns => Text.nonblanks columns
  | _ => []

/-- The columns that a step groups by, if it groups. -/
def groupedBy? : Step → Option (List String)
  | .groupBy columns _ => some (Text.nonblanks columns)
  | _ => none

/-- Whether a step puts a list of columns in the place of the wildcard. -/
def listsColumns : Step → Bool
  | .select _ | .reorder _ | .groupBy .. => true
  | _ => false

section Edits
variable {schema c : String} {s : Step} {q : Query}

/-- A step that joins no table lists the columns that it selects. -/
lemma not_lists (none : s.isJoin = false) (other : c ∉ s.chosen) :
    ∀ e ∈ (s.resolve schema).edits, ∀ q, ¬ e.Lists c q := by
  intro e mem q
  cases asks_of_mem mem with
  | select => exact other
  | join => cases none
  | _ => exact id

/-- A query groups by what the last step that groups says. -/
lemma grouping_edits (fine : s.fault = none) :
    (q.edits (s.resolve schema).edits).grouping.map (·.columns) =
      s.groupedBy?.elim (q.grouping.map (·.columns)) some := by
  cases grouped : s.groupedBy? with
  | none =>
    have unwritten : .grouping ∉ s.writes := by
      cases s with
      | groupBy => cases grouped
      | _ => simp [writes]
    exact congrArg (Option.map _) (agreeOn_edits unwritten : Query.AgreeOn .grouping _ q)
  | some by' =>
    cases s with
    | groupBy columns aggregations =>
      cases grouped
      rw [← resolve_fault schema] at fine
      obtain ⟨aggregates, -, resolved⟩ := bind_eq_ok.1 (Resolution.eq_ok_of_whole fine)
      split at resolved
      · cases resolved
      · have one : ((Step.groupBy columns aggregations).resolve schema).edits =
            [.group ⟨Text.nonblanks columns, aggregates⟩] := (Except.ok.inj resolved).symm
        rw [one]
        rfl
    | _ => cases grouped

/-- A step that lists columns leaves no wildcard. -/
lemma isListed_edits (sound : q.Sound) (fine : s.fault = none) (lists : s.listsColumns = true) :
    (q.edits (s.resolve schema).edits).IsListed := by
  cases s with
  | select columns =>
    rw [← resolve_fault schema, resolve] at fine
    rw [resolve]
    cases present : Text.nonblanks columns with
    | nil =>
      rw [present] at fine
      cases fine
    | cons c cs => exact .inl Query.Columns.explicit_ne_wildcard
  | reorder columns =>
    left
    show (if q.selected then q.columns else _) ≠ Columns.wildcard
    split
    next chosen =>
      obtain ⟨names, explicit⟩ := sound.selected chosen
      rw [explicit]
      exact Query.Columns.explicit_ne_wildcard
    next => exact Query.Columns.explicit_ne_wildcard
  | groupBy columns aggregations =>
    right
    intro none
    have grouping : (q.edits ((Step.groupBy columns aggregations).resolve schema).edits).grouping.map
        (·.columns) = some (Text.nonblanks columns) := grouping_edits fine
    rw [none] at grouping
    cases grouping
  | _ => cases lists

end Edits

end Step

namespace Query

section Run
variable {schema : String} {i : ℕ} {steps : List Step} {q q' : Query} {c : String}

/-- A column stays omitted if no step selects it and no join lists it. -/
lemma Omits.applyFrom (h : q.Omits c) (run : applyFrom schema i q steps = .ok q')
    (selected : ∀ s ∈ steps, c ∉ s.chosen)
    (joined : ∀ j ∈ joinedFrom q.joins.length steps, ∀ c' ∈ j.2, j.1 ++ "." ++ c' ≠ c) :
    q'.Omits c := by
  induction steps generalizing i q with
  | nil =>
    cases run
    exact h
  | cons s rest ih =>
    obtain ⟨fine, run⟩ := applyFrom_cons_eq_ok.1 run
    obtain ⟨now, later⟩ := List.forall_mem_cons.1 selected
    rw [joinedFrom] at joined
    cases e : s.joined? q.joins.length with
    | none =>
      rw [e] at joined
      rw [Step.joined?_eq_none] at e
      have joins := Step.edits_joins schema fine
      rw [if_neg (by simp [e])] at joins
      refine ih (h.edits (Step.not_lists e now)) run later ?_
      rwa [joins_edits joins]
    | some j =>
      rw [e] at joined
      obtain ⟨here, joined⟩ := List.forall_mem_cons.1 joined
      obtain ⟨k, own, table, label, pairs, one, named⟩ := Step.edits_joined schema fine e
      rw [one] at run
      refine ih (q := q.edit (.join k own table label pairs j.2)) (h.edit ?_) run later ?_
      · rintro ⟨c', asked, same⟩
        rw [named] at here
        exact here c' asked same
      · rwa [joins_join rfl]

/-- A query groups by what the last of its steps that groups says. -/
lemma grouping_applyFrom (run : applyFrom schema i q steps = .ok q') :
    q'.grouping.map (·.columns) =
      (steps.filterMap Step.groupedBy?).getLast?.elim (q.grouping.map (·.columns)) some :=
  last_applyFrom (fun q => q.grouping.map (·.columns)) (fun _ _ fine => Step.grouping_edits fine) run

/-- Steps one of which lists columns leave no wildcard. -/
lemma IsListed.applyFrom (sound : q.Sound) (run : applyFrom schema i q steps = .ok q')
    (h : q.IsListed ∨ ∃ s ∈ steps, s.listsColumns = true) : q'.IsListed := by
  induction steps generalizing i q with
  | nil =>
    cases run
    simpa using h
  | cons s rest ih =>
    obtain ⟨fine, run⟩ := applyFrom_cons_eq_ok.1 run
    refine ih (sound.edits (Step.edits_sound schema s)) run ?_
    rcases h with listed | ⟨s', mem, lists⟩
    · exact .inl (listed.edits _)
    · cases List.mem_cons.1 mem with
      | inl same => exact .inl (Step.isListed_edits sound fine (same ▸ lists))
      | inr later => exact .inr ⟨s', later, lists⟩

/-- The values that steps give to columns are values of these columns. -/
lemma Reflects.ownValues (h : q.Reflects steps) : q.OwnValues := by
  intro column e value
  rw [h.transform?, valueAfter?] at value
  cases changes : changesTo column steps with
  | nil =>
    rw [changes] at value
    cases value
  | cons c cs =>
    rw [changes] at value
    cases value
    exact Expr.column_foldl

end Run

end Query

/-- A column that a step drops has no entry in the select list if no later step selects it, no later join
lists it and the last grouping is not by it. This needs that columns are known or listed, or that the
column is never changed: otherwise it is shown among the changed columns. -/
theorem compile_dropped (d : Dialect) (table schema : String) (steps pre post : List Step)
    (columns : List String) (page : Page) (known : Option (List String)) (c : String)
    (whole : steps = pre ++ .dropColumn columns :: post) (dropped : c ∈ Text.nonblanks columns)
    (selected : ∀ s ∈ post, c ∉ s.chosen)
    (joined : ∀ j ∈ joinedFrom (pre.countP Step.isJoin) post, ∀ c' ∈ j.2, j.1 ++ "." ++ c' ≠ c)
    (grouped : ∀ names ∈ (steps.filterMap Step.groupedBy?).getLast?, c ∉ names)
    (spelled : known.isSome = true ∨ (∃ s ∈ steps, s.listsColumns = true) ∨ changesTo c steps = [])
    (sql : Sql) (compiled : compile d table schema steps page known = .ok sql) :
    ∃ q, Query.ofSteps (Text.trim schema) steps = .ok q ∧
      let s := q.statement d ⟨Text.trim schema, Text.trim table⟩ page known
      sql = s.sql d ∧ s.items.Perm ((q.listedColumns known).map q.entry ++ q.otherItems) ∧
        c ∉ q.listedColumns known ∧ (q.entry c).column? = some c ∧
        ∀ i ∈ s.items, i.column? ≠ some c := by
  obtain ⟨q, run, rfl⟩ := compile_eq_ok compiled
  have reflects : q.Reflects ([] ++ steps) := Query.Reflects.empty.applyFrom run
  have omits : q.Omits c := by
    -- what the steps before the one that drops did to the column is undone by it
    rw [whole] at run
    obtain ⟨r, before, after⟩ := Query.applyFrom_append.1 run
    obtain ⟨-, after⟩ := Query.applyFrom_cons_eq_ok.1 after
    have joins : r.joins.length = pre.countP Step.isJoin := by
      have labels := congrArg List.length (Query.labels_applyFrom before)
      simpa [length_joinedFrom] using labels
    apply Query.Omits.applyFrom (Query.omits_drop dropped) after selected
    exact joins ▸ joined
  have unlisted : c ∉ q.listedColumns known := by
    apply omits.not_listed
    · intro g grouping
      have last := Query.grouping_applyFrom run
      rw [show q.grouping = some g from grouping] at last
      exact grouped _ ((Option.elim_none_some id _).symm.trans last.symm)
    · rcases spelled with given | lists | unchanged
      · exact .inl given
      · exact .inr (.inl (Query.IsListed.applyFrom .empty run (.inr lists)))
      · right
        right
        rw [reflects.transform?, valueAfter?, List.nil_append, unchanged]
  exact ⟨q, run, rfl, Query.shownItems_perm, unlisted, Query.column?_entry reflects.ownValues,
    Query.column?_ne_of_not_listed reflects.ownValues unlisted⟩

/-- A dropped column stays away although it has been changed, and is then named in the order to show. -/
theorem compile_dropped_reordered :
    let steps : List Step := [.trim "secret" .both, .dropColumn [" secret "],
      .reorder ["secret", "name"], .join "shops" none none none [⟨"shop", "id"⟩] ["secret"]]
    ∃ q, Query.ofSteps "" steps = .ok q ∧
      let s := q.statement .mysql ⟨"", "people"⟩ {} none
      compile .mysql "people" "" steps {} none = .ok (s.sql .mysql) ∧
        q.listedColumns none = ["name", "j1.secret"] ∧ ∀ i ∈ s.items, i.column? ≠ some "secret" := by
  intro steps
  have compiles : (compile .mysql "people" "" steps {} none).isOk = true := by decide
  have listed : (Query.ofSteps "" steps).toOption.map (·.listedColumns none) =
      some ["name", "j1.secret"] := by decide
  have ungrouped : (steps.filterMap Step.groupedBy?).getLast? = none := by decide
  cases e : compile .mysql "people" "" steps {} none with
  | error fault =>
    rw [e] at compiles
    cases compiles
  | ok sql =>
    obtain ⟨q, run, rfl, -, -, -, absent⟩ := compile_dropped .mysql "people" "" steps
      [.trim "secret" .both] [.reorder ["secret", "name"], _] [" secret "] {} none "secret" rfl
      (by decide) (by simp [Step.chosen]) (by decide +kernel) (by simp [ungrouped])
      (.inr (.inl ⟨.reorder ["secret", "name"], by simp [steps], rfl⟩)) sql e
    refine ⟨q, run, rfl, ?_, absent⟩
    rw [show Query.ofSteps "" steps = .ok q from run] at listed
    exact Option.some.inj listed

/-- The last step drops a column that is then shown: once because the query groups by it, and once because
it has been changed and no columns are known. -/
theorem compile_dropped_shown :
    let grouped : List Step := [.groupBy ["kind", "secret"] [], .dropColumn ["secret"]]
    let changed : List Step := [.trim "secret" .both, .dropColumn ["secret"]]
    ∀ steps ∈ [grouped, changed], steps.getLast? = some (.dropColumn ["secret"]) ∧
      ∃ q, Query.ofSteps "" steps = .ok q ∧
        let s := q.statement .postgres ⟨"", "people"⟩ {} none
        compile .postgres "people" "" steps {} none = .ok (s.sql .postgres) ∧
          s.items ≠ [⟨.everything, none⟩] ∧ q.entry "secret" ∈ s.items ∧
          (q.entry "secret").column? = some "secret" := by
  intro grouped changed
  have last : ∀ steps ∈ [grouped, changed], steps.getLast? = some (.dropColumn ["secret"]) := by
    decide
  have shown : ∀ steps ∈ [grouped, changed], ((Query.ofSteps "" steps).toOption.any fun q =>
      let items := (q.statement .postgres ⟨"", "people"⟩ {} none).items
      items ≠ [⟨.everything, none⟩] && q.entry "secret" ∈ items &&
        (q.entry "secret").column? = some "secret") = true := by decide
  have present : Text.nonblank? "people" = some "people" := by decide
  have trimmed : Text.trim "" = "" := by decide
  intro steps mem
  obtain ⟨q, run, found⟩ := Option.any_eq_true _ _ |>.1 (shown steps mem)
  rw [toOption_eq_some] at run
  simp only [Bool.and_eq_true, decide_eq_true_iff] at found
  obtain ⟨⟨listed, among⟩, column⟩ := found
  refine ⟨last steps mem, q, run, ?_, listed, among, column⟩
  simp only [compile, present, trimmed, run]
  rfl

end QueryRecipe
