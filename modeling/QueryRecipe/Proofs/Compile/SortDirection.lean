import Mathlib.Data.List.DropRight
import QueryRecipe.Proofs.Compile.Transforms
import QueryRecipe.Proofs.Query.Leading

/-!
# The directions of `DISTINCT ON`

The sort order that `DISTINCT ON` requires begins with a term for each of its columns. Where a sort step
has ordered the column, its term is taken with its direction. But a sort term holds the column as it was at
its step, so only sort keys after the last change to the column are found: the first of these gives the
direction, and without one it is ascending (`compile_distinctOn`). A change between the sort step and the
end of the recipe takes the direction away (`compile_distinctOn_changed`).
-/

namespace QueryRecipe

/-- The directions of the keys of a step that sort by a column. -/
def Step.directionsOn (column : String) : Step → List Direction
  | .sort keys => ((sortKeys keys).filter (·.1 == column)).map (·.2)
  | _ => []

/-- The directions of the sort keys on a column, in the order of the steps and of their keys. -/
def directionsOn (column : String) (steps : List Step) : List Direction :=
  steps.flatMap (Step.directionsOn column)

/-- Whether a step changes a column. -/
def Step.changesColumn (column : String) (s : Step) : Bool :=
  s.change?.any (·.1 == column)

/-- The steps after the last one that changes a column. -/
def sinceChange (column : String) (steps : List Step) : List Step :=
  steps.rtakeWhile fun s => !s.changesColumn column

section Steps
variable {column : String} {steps pre post : List Step} {s : Step} {first : Direction}

/-- What a column stands for after some steps is the column with the changes made to it. -/
lemma referenceAfter_eq_given : referenceAfter steps column = .given column (changesTo column steps) := by
  rw [referenceAfter, valueAfter?]
  cases changesTo column steps <;> rfl

/-- Steps that do not change a column make no changes to it. -/
lemma changesTo_snoc_of_not (other : s.changesColumn column = false) :
    changesTo column (steps ++ [s]) = changesTo column steps := by
  rw [changesTo_snoc]
  cases made : s.change? with
  | none => simp
  | some p =>
    have ne : p.1 ≠ column := by simpa [Step.changesColumn, made] using other
    simp [ne]

/-- A sort term sorts by a column after the first of its changes. -/
lemma subject_of_mem_terms {t : SortTerm} (mem : t ∈ alongSteps Step.termsAfter [] steps) :
    ∃ c cs, cs <+: changesTo c steps ∧ t.subject = .given c cs := by
  induction steps using List.reverseRecOn with
  | nil => cases mem
  | append_singleton steps s ih =>
    rw [alongSteps_snoc] at mem
    cases List.mem_append.1 mem with
    | inl old =>
      obtain ⟨c, cs, first, subject⟩ := ih old
      exact ⟨c, cs, first.trans (changesTo_snoc ▸ List.prefix_append _ _), subject⟩
    | inr new =>
      cases s with
      | sort keys =>
        obtain ⟨k, -, rfl⟩ := List.mem_map.1 new
        exact ⟨k.1, changesTo k.1 steps, changesTo_snoc ▸ List.prefix_append _ _,
          referenceAfter_eq_given⟩
      | _ => cases new

/-- The terms that a step adds for a column are those of its sort keys on the column. -/
lemma filter_termsAfter :
    (s.termsAfter steps).filter (·.subject = referenceAfter steps column) =
      (s.directionsOn column).map (⟨referenceAfter steps column, ·⟩) := by
  cases s with
  | sort keys =>
    have same (k : String × Direction) :
        decide (referenceAfter steps k.1 = referenceAfter steps column) = (k.1 == column) := by
      rw [referenceAfter_eq_given, referenceAfter_eq_given, beq_eq_decide, decide_eq_decide,
        Expr.given_inj, and_iff_left_of_imp]
      rintro rfl
      rfl
    rw [Step.termsAfter, Step.directionsOn, List.filter_map, List.map_map]
    simp only [Function.comp_def, same]
    refine List.map_congr_left fun k mem => ?_
    rw [eq_of_beq (List.mem_filter.1 mem).2]
  | _ => rfl

/-- The terms that sort by what a column is in the end are those of the sort keys on it since its last
change. -/
lemma filter_terms :
    (alongSteps Step.termsAfter [] steps).filter (·.subject = referenceAfter steps column) =
      (directionsOn column (sinceChange column steps)).map (⟨referenceAfter steps column, ·⟩) := by
  induction steps using List.reverseRecOn with
  | nil => rfl
  | append_singleton steps s ih =>
    rw [alongSteps_snoc, List.nil_append, List.filter_append]
    cases changes : s.changesColumn column with
    | true =>
      obtain ⟨⟨c, change⟩, made, own⟩ := (Option.any_eq_true _ _).1 changes
      obtain rfl : c = column := by simpa using own
      have last : changesTo c (steps ++ [s]) = changesTo c steps ++ [change] := by
        simp [changesTo_snoc, made]
      have sortsNothing : s.termsAfter steps = [] := by
        cases s with
        | sort => cases made
        | _ => rfl
      have since : sinceChange c (steps ++ [s]) = [] :=
        List.rtakeWhile_concat_neg _ _ _ (by simp [changes])
      rw [since, sortsNothing, List.filter_nil, List.append_nil, List.filter_eq_nil_iff.2]
      · rfl
      -- no term that is there already has this change in it
      intro t mem
      obtain ⟨c', cs, first, subject⟩ := subject_of_mem_terms mem
      simp only [decide_eq_true_eq, subject, referenceAfter_eq_given, last, Expr.given_inj]
      rintro ⟨rfl, rfl⟩
      have size := first.length_le
      simp at size
    | false =>
      have same : referenceAfter (steps ++ [s]) column = referenceAfter steps column := by
        rw [referenceAfter_eq_given, referenceAfter_eq_given, changesTo_snoc_of_not changes]
      have since : sinceChange column (steps ++ [s]) = sinceChange column steps ++ [s] :=
        List.rtakeWhile_concat_pos _ _ _ (by simp [changes])
      rw [same, since, ih, filter_termsAfter, directionsOn, directionsOn, List.flatMap_append,
        List.map_append, List.flatMap_singleton]

/-- If nothing changes the column from the first step that sorts by it on, the first key is among those since
the last change. -/
lemma head?_directionsOn_since (unsorted : directionsOn column pre = [])
    (unchanged : ∀ s' ∈ s :: post, s'.changesColumn column = false)
    (sorts : (s.directionsOn column).head? = some first) :
    (directionsOn column (sinceChange column (pre ++ s :: post))).head? = some first := by
  have since : sinceChange column (pre ++ s :: post) = sinceChange column pre ++ s :: post := by
    rw [sinceChange, List.rtakeWhile, List.reverse_append, List.takeWhile_append_of_pos,
      List.reverse_append, List.reverse_reverse]
    · rfl
    · intro s' mem
      simp [unchanged s' (List.mem_reverse.1 mem)]
  have before : directionsOn column (sinceChange column pre) = [] := by
    rw [directionsOn, List.flatMap_eq_nil_iff] at unsorted ⊢
    exact fun s' mem => unsorted s' ((List.rtakeWhile_suffix _ _).subset mem)
  rw [since, directionsOn, List.flatMap_append, List.head?_append, ← directionsOn, before,
    List.flatMap_cons, List.head?_append, sorts]
  rfl

end Steps

namespace Query

section Lead
variable {d : Dialect} {e : Expr} {pre post : List Expr} {terms : List SortTerm}

/-- The term for the first occurrence of a reference is the first one that sorts by it. -/
lemma leadBy_first
    (finds : ∀ e' ∈ pre ++ e :: post, ∀ t ∈ terms, sortsBy d e' t = true ↔ t.subject = e')
    (fresh : e ∉ pre) :
    (leadBy d (pre ++ e :: post) terms)[pre.length]? =
      some ((terms.filter (·.subject = e)).head?.getD ⟨e, .ascending⟩) := by
  induction pre generalizing terms with
  | nil =>
    have same : terms.filter (sortsBy d e) = terms.filter (·.subject = e) := by
      refine List.filter_congr fun t mem => ?_
      rw [Bool.eq_iff_iff, finds e List.mem_cons_self t mem, decide_eq_true_iff]
    rw [List.nil_append, leadBy, ← same, List.head?_filter]
    cases terms.find? (sortsBy d e) <;> rfl
  | cons e' pre ih =>
    obtain ⟨ne, fresh⟩ := not_or.1 (List.mem_cons.not.1 fresh)
    obtain ⟨now, later⟩ := List.forall_mem_cons.1 finds
    rw [List.cons_append, leadBy]
    cases terms.find? (sortsBy d e') with
    | none => exact ih later fresh
    | some t =>
      have others : (leadBy d (pre ++ e :: post) (terms.eraseP (sortsBy d e')))[pre.length]? = _ :=
        ih (fun e'' mem t among => later e'' mem t (List.mem_of_mem_eraseP among)) fresh
      refine others.trans ?_
      -- the term that is taken away sorts by something else
      have kept : (terms.eraseP (sortsBy d e')).filter (·.subject = e) =
          terms.filter (·.subject = e) := by
        refine filter_eraseP_of_apart fun t mem sorts => decide_eq_false ?_
        rw [(now t mem).1 sorts]
        exact Ne.symm ne
      rw [kept]

end Lead

end Query

/-- For PostgreSQL, the sort order of a recipe that compiles and tells rows apart by columns has at the place
of each column (its first one, if it is named more than once) a term that sorts by what the column is in
the end. The direction is that of the first sort key on the column since its last change, and ascending if
there is none. So it is that of the first sort key on the column if no step from there on changes it. -/
theorem compile_distinctOn (table schema : String) (steps : List Step) (page : Page)
    (known : Option (List String)) (sql : Sql)
    (compiled : compile .postgres table schema steps page known = .ok sql) :
    ∃ q, Query.ofSteps (Text.trim schema) steps = .ok q ∧
      let s := q.statement .postgres ⟨Text.trim schema, Text.trim table⟩ page known
      sql = s.sql .postgres ∧
        ∀ before column after, q.dedup = .on (before ++ column :: after) → column ∉ before →
          ∃ direction, s.orderBy[before.length]? = some ⟨q.reference column, direction⟩ ∧
            direction = (directionsOn column (sinceChange column steps)).head?.getD .ascending ∧
            ∀ pre sort post first, steps = pre ++ sort :: post → directionsOn column pre = [] →
              (sort.directionsOn column).head? = some first →
              (∀ s ∈ post, s.changesColumn column = false) → direction = first := by
  obtain ⟨q, run, rfl⟩ := compile_eq_ok compiled
  have reflects : q.Reflects ([] ++ steps) := Query.Reflects.empty.applyFrom run
  obtain ⟨-, edited⟩ := Query.applyFrom_eq_ok.1 run
  obtain ⟨changes, records⟩ :=
    Query.Records.empty.edits (steps.flatMap fun s => (s.resolve (Text.trim schema)).edits)
  rw [edited] at records
  refine ⟨q, run, rfl, fun before column after dedup fresh => ⟨_, ?_, rfl, ?_⟩⟩
  · have order : q.orderBy .postgres =
        Query.leadBy .postgres (before.map q.reference ++ q.reference column ::
          after.map q.reference) q.order := by
      rw [Query.orderBy, dedup, ← List.map_cons, ← List.map_append]
      rfl
    have finds : ∀ e ∈ before.map q.reference ++ q.reference column :: after.map q.reference,
        ∀ t ∈ q.order, Query.sortsBy .postgres e t = true ↔ t.subject = e := by
      rw [← List.map_cons, ← List.map_append, List.forall_mem_map]
      exact fun c _ t mem => records.sortsBy_iff c mem
    have first : q.reference column ∉ before.map q.reference := by
      intro mem
      obtain ⟨c, among, same⟩ := List.mem_map.1 mem
      rw [records.reference, records.reference, Expr.given_inj] at same
      exact fresh (same.1 ▸ among)
    have place : before.length = (before.map q.reference).length := (List.length_map _).symm
    show (q.orderBy .postgres)[before.length]? = _
    rw [order, place, Query.leadBy_first finds first,
      reflects.order, reflects.reference, List.nil_append, filter_terms, List.head?_map]
    cases (directionsOn column (sinceChange column steps)).head? <;> rfl
  · rintro pre sort post first rfl unsorted sorts unchanged
    have itself : sort.changesColumn column = false := by
      cases sort with
      | sort => rfl
      | _ => cases sorts
    rw [head?_directionsOn_since unsorted (List.forall_mem_cons.2 ⟨itself, unchanged⟩) sorts]
    rfl

/-- The name is changed before it is sorted by and another column afterwards; the second term for the name
is not the one that leads. -/
theorem compile_distinctOn_sorted :
    let sort : Step := .sort [⟨"age", none⟩, ⟨"name", some "desc"⟩]
    let later : List Step := [.deduplicate [" age ", "name"], .sort [⟨"name", none⟩], .trim "city" .both]
    let steps : List Step := [.recase "name" (some .lower)] ++ sort :: later
    let lowered : Expr := .changed (.field "name") (.recase .lower)
    ∃ q, Query.ofSteps "" steps = .ok q ∧
      let s := q.statement .postgres ⟨"", "people"⟩ {} none
      compile .postgres "people" "" steps {} none = .ok (s.sql .postgres) ∧
        q.dedup = .on ["age", "name"] ∧ directionsOn "name" steps = [.descending, .ascending] ∧
        s.orderBy[1]? = some ⟨lowered, .descending⟩ := by
  intro sort later steps lowered
  have compiles : Succeeds (compile .postgres "people" "" steps {} none) := isOk_iff.1 (by decide)
  have parts : (Query.ofSteps "" steps).toOption.map (fun q => (q.dedup, q.reference "name")) =
      some (.on ["age", "name"], lowered) := by
    decide
  have directions : directionsOn "name" steps = [.descending, .ascending] := by decide
  have unchanged : ∀ s ∈ later, s.changesColumn "name" = false := by decide
  obtain ⟨sql, compiled⟩ := compiles
  obtain ⟨q, run, rfl, leads⟩ := compile_distinctOn "people" "" steps {} none sql compiled
  rw [show Query.ofSteps "" steps = .ok q from run] at parts
  obtain ⟨dedup, reference⟩ := Prod.mk.inj (Option.some.inj parts)
  obtain ⟨direction, term, -, same⟩ := leads ["age"] "name" [] dedup (by decide)
  obtain rfl : direction = .descending :=
    same [.recase "name" (some .lower)] sort later .descending rfl (by decide) (by decide) unchanged
  exact ⟨q, run, compiled, dedup, directions, reference ▸ term⟩

/-- The name is sorted by in descending order and changed afterwards: what it is then leads in ascending
order, and the sort term stays behind it. -/
theorem compile_distinctOn_changed :
    let steps : List Step := [.select ["name"], .sort [⟨"name", some "desc"⟩], .trim "name" .both,
      .deduplicate ["name"]]
    let trimmed : Expr := .changed (.field "name") (.trim .both)
    directionsOn "name" steps = [.descending] ∧
      (∃ q, Query.ofSteps "" steps = .ok q ∧ q.dedup = .on ["name"] ∧
        q.reference "name" = trimmed ∧
        (q.statement .postgres ⟨"", "people"⟩ {} none).orderBy =
          [⟨trimmed, .ascending⟩, ⟨.name "name", .descending⟩]) ∧
      ((compile .postgres "people" "" steps {} none).map (Sql.text .postgres)).toOption = some
        ("SELECT DISTINCT ON (TRIM(t.\"name\")) TRIM(t.\"name\") AS \"name\" FROM \"people\" AS t " ++
          "ORDER BY TRIM(t.\"name\") ASC, \"name\" DESC") := by
  intro steps trimmed
  have parts : ((Query.ofSteps "" steps).toOption.any fun q =>
      q.dedup = .on ["name"] && q.reference "name" = trimmed &&
        (q.statement .postgres ⟨"", "people"⟩ {} none).orderBy =
          [⟨trimmed, .ascending⟩, ⟨.name "name", .descending⟩]) = true := by
    decide +kernel
  obtain ⟨q, run, found⟩ := Option.any_eq_true _ _ |>.1 parts
  rw [toOption_eq_some] at run
  simp only [Bool.and_eq_true, decide_eq_true_iff] at found
  obtain ⟨⟨dedup, reference⟩, order⟩ := found
  exact ⟨by decide, ⟨q, run, dedup, reference, order⟩, by decide +kernel⟩

end QueryRecipe
