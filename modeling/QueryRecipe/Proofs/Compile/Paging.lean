import QueryRecipe.Proofs.Compile.Common

/-!
# Limit steps and the caller's window

The window of a statement is that of the last limit step, its limit and its offset together, and without
a limit step it is the caller's. Nothing else depends on limit steps: they have no faults, and no step reads
the window. So a recipe compiles to what it compiles to without its limit steps when it is called with the
window of the last one, and the caller's window may be written as a last step (`compile_paged`).
-/

namespace QueryRecipe

open Text (Blank)

namespace Step

/-- The steps without the limit steps. -/
def unpaged (steps : List Step) : List Step :=
  steps.filter (·.page?.isNone)

/-- No step depends on the window. -/
lemma page_not_mem_reads {s : Step} : .page ∉ s.reads := by
  cases s <;> simp [reads]

/-- A limit step has no fault and writes nothing but the window. -/
lemma limit_of_page? {s : Step} {page : Page} (asks : s.page? = some page) :
    s.fault = none ∧ s.writes = [.page] := by
  cases s with
  | limit => exact ⟨rfl, rfl⟩
  | _ => cases asks

end Step

/-- A fault of a recipe as it is reported without the limit steps, which are not counted. -/
def CompileFault.unpaged (steps : List Step) : CompileFault → CompileFault
  | .source => .source
  | .step i tag fault => .step (Step.unpaged (steps.take i)).length tag fault

/-- Only limit steps ask for a window. -/
lemma filterMap_page?_eq_nil {steps : List Step} (unpaged : ∀ count offset, .limit count offset ∉ steps) :
    steps.filterMap Step.page? = [] := by
  refine List.filterMap_eq_nil_iff.2 fun s mem => ?_
  cases s with
  | limit count offset => exact absurd mem (unpaged count offset)
  | _ => rfl

/-- The last limit step decides about the window. -/
lemma pageAfter_of_last {pre post : List Step} {count offset page}
    (last : ∀ count offset, .limit count offset ∉ post) :
    pageAfter (pre ++ .limit count offset :: post) page = ⟨count, offset⟩ := by
  have none : post.filterMap Step.page? = [] := filterMap_page?_eq_nil last
  have window : Step.page? (.limit count offset) = some ⟨count, offset⟩ := rfl
  rw [pageAfter, List.filterMap_append, List.filterMap_cons_some window, none, List.getLast?_concat,
    Option.getD_some]

/-- Without limit steps the window is the caller's. -/
lemma pageAfter_unpaged {steps : List Step} {page}
    (unpaged : ∀ count offset, .limit count offset ∉ steps) : pageAfter steps page = page := by
  rw [pageAfter, filterMap_page?_eq_nil unpaged, List.getLast?_nil, Option.getD_none]

/-- A window of the recipe takes the place of the caller's. -/
lemma pageAfter_of_mem {steps : List Step} {count offset page page'}
    (mem : .limit count offset ∈ steps) : pageAfter steps page = pageAfter steps page' := by
  have some : steps.filterMap Step.page? ≠ [] :=
    List.ne_nil_of_mem (List.mem_filterMap.2 ⟨_, mem, rfl⟩)
  rw [pageAfter, pageAfter, List.getLast?_eq_some_getLast some]
  rfl

namespace Query

/-- Whether two queries have the same parts, except perhaps the window. -/
def AgreeApart (q r : Query) : Prop :=
  ∀ p ≠ Part.page, q.AgreeOn p r

/-- A query agrees with itself. -/
lemma AgreeApart.refl {q : Query} : q.AgreeApart q :=
  fun p _ => .refl p q

/-- Another window leaves the other parts as they are. -/
lemma agreeApart_page (q : Query) (w : Option Page) : q.AgreeApart { q with page := w } := by
  intro p apart
  cases p with
  | page => exact absurd rfl apart
  | _ => rfl

section Run
variable {schema : String} {steps : List Step} {q r q' : Query}

/-- The query of some steps has the window of the last limit step. -/
lemma page_applyFrom {i page} (run : applyFrom schema i {} steps = .ok q) :
    q.page.getD page = pageAfter steps page := by
  rw [last_applyFrom (·.page) (fun q s _ => Step.page_edits _ q s) run]
  exact congrArg (Option.getD · page) (Option.elim_none_some id _)

/-- Queries that are the same apart from the window stay so, whether limit steps are applied or not. -/
lemma applyFrom_unpaged {i j} (same : q.AgreeApart r) (run : applyFrom schema i q steps = .ok q') :
    ∃ r', applyFrom schema j r (Step.unpaged steps) = .ok r' ∧ q'.AgreeApart r' := by
  induction steps generalizing i j q r with
  | nil =>
    cases run
    exact ⟨r, rfl, same⟩
  | cons s rest ih =>
    obtain ⟨fine, run⟩ := applyFrom_cons_eq_ok.1 run
    cases asks : s.page? with
    | none =>
      have step : (q.edits (s.resolve schema).edits).AgreeApart (r.edits (s.resolve schema).edits) :=
        fun p apart => Step.edits_congr
          (fun p mem => same p fun page => Step.page_not_mem_reads (page ▸ mem)) (same p apart)
      rw [Step.unpaged, List.filter_cons_of_pos (by simp [asks]), applyFrom_cons fine]
      exact ih step run
    | some page =>
      obtain ⟨-, writes⟩ := Step.limit_of_page? asks
      have step : (q.edits (s.resolve schema).edits).AgreeApart r := fun p apart =>
        (Step.agreeOn_edits (by simp [writes, apart])).trans (same p apart)
      rw [Step.unpaged, List.filter_cons_of_neg (by simp [asks])]
      exact ih step run

/-- The first wrong step stays the first without the limit steps. -/
lemma applyFrom_unpaged_error {fault} (run : applyFrom schema 0 q steps = .error fault) :
    applyFrom schema 0 r (Step.unpaged steps) = .error (fault.unpaged steps) := by
  obtain ⟨pre, s, post, f, rfl, fine, wrong, rfl⟩ := applyFrom_eq_error.1 run
  have kept : s.page?.isNone = true := by
    cases asks : s.page? with
    | none => rfl
    | some page =>
      rw [(Step.limit_of_page? asks).1] at wrong
      cases wrong
  have split : Step.unpaged (pre ++ s :: post) = Step.unpaged pre ++ s :: Step.unpaged post := by
    have own : Step.unpaged (s :: post) = s :: Step.unpaged post := List.filter_cons_of_pos kept
    rw [← own]
    exact List.filter_append pre (s :: post)
  have before : ∀ p ∈ Step.unpaged pre, p.WellFormed := fun p mem => fine p (List.mem_of_mem_filter mem)
  rw [split, applyFrom_first before wrong, Nat.zero_add, Nat.zero_add, CompileFault.unpaged,
    List.take_left]

end Run

/-- Queries that are the same apart from the window have the same statement where their windows are the
same. -/
lemma AgreeApart.statement {q r : Query} {d : Dialect} {source : Source} {page page' : Page}
    {known : Option (List String)} (same : q.AgreeApart r)
    (window : q.page.getD page = r.page.getD page') :
    q.statement d source page known = r.statement d source page' known := by
  have parts (p : Part) : q.AgreeOn p { r with page := q.page } := by
    by_cases own : p = .page
    · subst own
      rfl
    · exact (same p own).trans (agreeApart_page r q.page p own)
  have replaced : ({ r with page := q.page } : Query).statement d source page known =
      { r.statement d source page' known with page := q.page.getD page } := rfl
  rw [eq_of_agreeOn parts, replaced, window]
  rfl

end Query

/-- A recipe with limit steps compiles to the same with any window of the caller, or is rejected with the
same fault: to what it compiles to without its limit steps when the window of the last of them, wherever it
stands, is the caller's. A recipe without limit steps compiles to the same as with a limit step for the
caller's window at its end, whatever window it is called with then. -/
theorem compile_paged (d : Dialect) (table schema : String) (steps : List Step)
    (known : Option (List String)) :
    (∀ count offset, .limit count offset ∈ steps → ∀ page page',
      compile d table schema steps page known = compile d table schema steps page' known) ∧
    (∀ pre count offset post, steps = pre ++ .limit count offset :: post →
      (∀ count offset, .limit count offset ∉ post) → ∀ page,
        (compile d table schema steps page known).mapError (·.unpaged steps) =
          compile d table schema (Step.unpaged steps) ⟨count, offset⟩ known) ∧
    ((∀ count offset, .limit count offset ∉ steps) → ∀ page page',
      compile d table schema steps page known =
        compile d table schema (steps ++ [.limit page.limit page.offset]) page' known) := by
  by_cases blank : Blank table
  · simp [compile_blank blank, Except.mapError, CompileFault.unpaged]
  simp only [compile_present blank]
  refine ⟨fun count offset mem page page' => ?_, fun pre count offset post e last page => ?_,
    fun unpaged page page' => ?_⟩
  · cases run : Query.ofSteps (Text.trim schema) steps with
    | error fault => rfl
    | ok q =>
      have window : q.page.getD page = q.page.getD page' := by
        rw [Query.page_applyFrom run, Query.page_applyFrom run, pageAfter_of_mem mem]
      exact congrArg (fun s : Statement => Except.ok (s.sql d)) (Query.AgreeApart.refl.statement window)
  · cases run : Query.ofSteps (Text.trim schema) steps with
    | error fault =>
      rw [show Query.ofSteps _ (Step.unpaged steps) = _ from Query.applyFrom_unpaged_error run]
      rfl
    | ok q =>
      obtain ⟨r, run', same⟩ := Query.applyFrom_unpaged (j := 0) .refl run
      have none : ∀ count offset, .limit count offset ∉ Step.unpaged steps := by
        simp [Step.unpaged, Step.page?]
      have window : q.page.getD page = r.page.getD ⟨count, offset⟩ := by
        rw [Query.page_applyFrom run, Query.page_applyFrom run', pageAfter_unpaged none, e,
          pageAfter_of_last last]
      rw [show Query.ofSteps _ (Step.unpaged steps) = _ from run']
      exact congrArg (fun s : Statement => Except.ok (s.sql d)) (same.statement window)
  · rw [Query.ofSteps, Query.ofSteps, Query.applyFrom_concat rfl]
    cases run : Query.applyFrom (Text.trim schema) 0 {} steps with
    | error fault => rfl
    | ok q =>
      have same : q.AgreeApart (q.edit (.page page)) := Query.agreeApart_page q (some page)
      have window : q.page.getD page = (q.edit (.page page)).page.getD page' := by
        rw [Query.page_applyFrom run, pageAfter_unpaged unpaged]
        rfl
      exact congrArg (fun s : Statement => Except.ok (s.sql d)) (same.statement window)

/-- The last limit step keeps all rows, so the branch before the union is not put in parentheses for the
rows that an earlier one or the caller cuts off; a wrong step is counted without the limit steps. -/
theorem compile_paged_union :
    let union : Step := .union "archive" none true
    let cut : Step := .limit (some 3) (some 9)
    let steps : List Step := [cut, .limit none (some 0), union]
    let wrong : List Step := [union, cut, .trim " " .both]
    compile .mysql "orders" "" steps ⟨some 7, none⟩ none = compile .mysql "orders" "" steps {} none ∧
      (compile .mysql "orders" "" steps ⟨some 7, none⟩ none).mapError (·.unpaged steps) =
        compile .mysql "orders" "" [union] ⟨none, some 0⟩ none ∧
      (compile .mysql "orders" "" [union] ⟨none, some 0⟩ none).map (Sql.text .mysql) =
        .ok "SELECT t.* FROM `orders` AS t UNION ALL SELECT t.* FROM `archive` AS t" ∧
      (compile .mysql "orders" "" wrong {} none).mapError (·.unpaged wrong) =
        compile .mysql "orders" "" [union, .trim " " .both] ⟨some 3, some 9⟩ none ∧
      compile .mysql "orders" "" wrong {} none = .error (.step 2 "trim" (.defective .noColumn)) ∧
      compile .mysql "orders" "" [union] ⟨some 7, none⟩ none =
        compile .mysql "orders" "" [union, .limit (some 7) none] ⟨none, some 4⟩ none := by
  intro union cut steps wrong
  obtain ⟨any, last, -⟩ := compile_paged .mysql "orders" "" steps none
  obtain ⟨-, lastWrong, -⟩ := compile_paged .mysql "orders" "" wrong none
  obtain ⟨-, -, own⟩ := compile_paged .mysql "orders" "" [union] none
  refine ⟨any (some 3) (some 9) List.mem_cons_self _ _, last [cut] none (some 0) [union] rfl ?_ _,
    by decide +kernel, lastWrong [union] (some 3) (some 9) [.trim " " .both] rfl ?_ _,
    by decide +kernel, own ?_ _ _⟩ <;> simp [union]

end QueryRecipe
