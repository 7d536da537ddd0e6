import QueryRecipe.Proofs.Compile.Confinement
import QueryRecipe.Proofs.Query.History
import QueryRecipe.Proofs.Step.Mask

/-!
# What strings say does not matter

Two recipes that are the same but for the contents of their strings compile to statements that are read
with the same tokens, but for the contents of the string tokens (`compile_mask`). Of all that is done
with a query, only the search for the sort terms of `DISTINCT ON` looks at text that may have strings in
it; it finds the same terms because it finds them by their columns and the number of changes to these.
-/

namespace QueryRecipe

open Lexer

/-- The strings of a changed column are those of its changes. -/
lemma Expr.mask_given {column : String} {cs : List Change} :
    (given column cs).mask = given column (cs.map Change.mask) := by
  have around (e : Expr) : (cs.foldl Expr.changed e).mask =
      (cs.map Change.mask).foldl Expr.changed e.mask := by
    induction cs generalizing e with
    | nil => rfl
    | cons c cs ih => exact ih (.changed e c)
  cases cs with
  | nil => rfl
  | cons c cs => exact around (.field column)

namespace Query

/-- A column finds the same sort terms when all strings are emptied. -/
lemma Records.sortsBy_mask {changes : String → List Change} {q : Query} {d : Dialect}
    (h : q.Records changes) (column : String) {t : SortTerm} (mem : t ∈ q.order) :
    sortsBy d (q.reference column).mask t.mask = sortsBy d (q.reference column) t := by
  obtain ⟨column', cs, first, subject⟩ := h.order t mem
  have masked : t.mask.subject = .given column' (cs.map Change.mask) := by
    rw [SortTerm.mask, subject, Expr.mask_given]
  rw [h.reference, Expr.mask_given, Bool.eq_iff_iff,
    sortsBy_given masked fun same => (same ▸ first).map Change.mask,
    sortsBy_given subject fun same => same ▸ first]
  refine and_congr_right fun same => ⟨fun alike => ?_, fun equal => by rw [equal]⟩
  -- of one column the changes before the term are the first ones, so only their number counts
  refine ((same ▸ first).eq_of_length ?_).symm
  simpa using (congrArg List.length alike).symm

/-- Steps with their strings emptied come to the query with its strings emptied. -/
lemma applyFrom_mask {schema i} {q : Query} {steps : List Step} :
    applyFrom schema i q.mask (steps.map Step.mask) = (applyFrom schema i q steps).map mask := by
  induction steps generalizing i q with
  | nil => rfl
  | cons s rest ih =>
    have step : q.mask.apply schema s.mask = ((q.apply schema s).1.mask, (q.apply schema s).2) := by
      simp only [apply_eq, Step.resolve_mask, edits_mask]
    rw [List.map_cons, applyFrom, applyFrom, step, Step.mask_tag]
    rcases q.apply schema s with ⟨q', _ | fault⟩
    · exact ih
    · rfl

/-- Steps with their strings emptied lead to the query with its strings emptied. -/
lemma ofSteps_mask (schema : String) (steps : List Step) :
    ofSteps schema (steps.map Step.mask) = (ofSteps schema steps).map mask :=
  applyFrom_mask (q := {})

/-- The statement of a recipe is the same but for its strings when they are emptied in the query. -/
lemma statement_mask_of_ofSteps {d : Dialect} {schema : String} {steps : List Step} {q : Query}
    {source : Source} {page : Page} {known : Option (List String)} (run : ofSteps schema steps = .ok q) :
    q.mask.statement d source page known = (q.statement d source page known).mask := by
  obtain ⟨-, rfl⟩ := applyFrom_eq_ok.1 run
  obtain ⟨changes, records⟩ := Records.empty.edits (steps.flatMap fun s => (s.resolve schema).edits)
  exact statement_mask fun _ _ c _ _ term => records.sortsBy_mask c term

end Query

/-- Recipes that are the same but for the contents of their strings are accepted alike, and compile to
statements that are read with the same tokens but for the contents of the strings. -/
theorem compile_mask (d : Dialect) (table schema : String) (steps steps' : List Step) (page : Page)
    (known : Option (List String)) (plain : ∀ s ∈ steps, s.IsPlain)
    (alike : steps.map Step.mask = steps'.map Step.mask) (q : Sql)
    (compiled : compile d table schema steps page known = .ok q) :
    ∃ q' toks toks', compile d table schema steps' page known = .ok q' ∧
      lex d (q.text d).toList = some toks ∧ lex d (q'.text d).toList = some toks' ∧
        toks.map Token.mask = toks'.map Token.mask := by
  have plain' : ∀ s ∈ steps', s.IsPlain := by
    intro s mem
    obtain ⟨s', mem', same⟩ := List.mem_map.1 (alike ▸ List.mem_map_of_mem (f := Step.mask) mem)
    exact Step.mask_isPlain.1 (same ▸ Step.mask_isPlain.2 (plain s' mem'))
  obtain ⟨query, run, rfl, within⟩ := within_of_compile plain compiled
  obtain ⟨query', run', same⟩ : ∃ query', Query.ofSteps (Text.trim schema) steps' = .ok query' ∧
      query'.mask = query.mask := by
    have masked := Query.ofSteps_mask (Text.trim schema) steps
    rw [alike, Query.ofSteps_mask, run] at masked
    exact map_eq_ok.1 masked
  have compiled' : compile d table schema steps' page known =
      .ok ((query'.statement d ⟨Text.trim schema, Text.trim table⟩ page known).sql d) := by
    rw [compile_present (present_of_compile compiled), run']
    rfl
  obtain ⟨query'', run'', -, within'⟩ := within_of_compile plain' compiled'
  obtain rfl : query' = query'' := Except.ok.inj (run'.symm.trans run'')
  have whole := Statement.fits (d := d) within
  have whole' := Statement.fits (d := d) within'
  refine ⟨_, _, _, compiled', whole.lex_text, whole'.lex_text, ?_⟩
  rw [← Sql.tokens_mask whole.within, ← Sql.tokens_mask whole'.within, ← Statement.mask_sql,
    ← Statement.mask_sql (query'.statement _ _ _ _), ← Query.statement_mask_of_ofSteps run,
    ← Query.statement_mask_of_ofSteps run', same]

/-- Strings that look like the end of a sort term, a label or a string stay strings. -/
theorem compile_mask_quotes :
    let steps (old new : String) : List Step := [.replace "name" (some old) (.string new) none,
      .sort [⟨"name", some "desc"⟩], .fillNull "name" (.string old) true, .deduplicate ["name"],
      .filter [⟨"name", some "like", .string new⟩, ⟨"size", some "in", .list [.string old]⟩] none,
      .reorder ["size", "name"]]
    (∀ s ∈ steps "a" "b", s.IsPlain) ∧
      (steps "a" "b").map Step.mask = (steps "\' ASC, \"" "\' AS `size`").map Step.mask ∧
      ∃ q, compile .postgres "people" "" (steps "a" "b") {} none = .ok q ∧
        ∃ q' toks toks', compile .postgres "people" "" (steps "\' ASC, \"" "\' AS `size`") {} none =
            .ok q' ∧
          lex .postgres (q.text .postgres).toList = some toks ∧
          lex .postgres (q'.text .postgres).toList = some toks' ∧
          toks.map Token.mask = toks'.map Token.mask := by
  intro steps
  have plain : ∀ s ∈ steps "a" "b", s.IsPlain := by simp [steps, Step.IsPlain, Present]
  have alike : (steps "a" "b").map Step.mask =
      (steps "\' ASC, \"" "\' AS `size`").map Step.mask := by decide +kernel
  have compiles : (compile .postgres "people" "" (steps "a" "b") {} none).isOk = true := by
    decide +kernel
  cases e : compile .postgres "people" "" (steps "a" "b") {} none with
  | error fault =>
    rw [e] at compiles
    cases compiles
  | ok q => exact ⟨plain, alike, q, rfl, compile_mask _ _ _ _ _ _ _ plain alike q e⟩

end QueryRecipe
