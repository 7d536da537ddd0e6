import QueryRecipe.Proofs.Compile.Confinement
import QueryRecipe.Proofs.Compile.Lists
import QueryRecipe.Proofs.Compile.Transforms
import QueryRecipe.Proofs.Statement.Blocks

/-!
# The filters in a compiled statement

A recipe without expressions and types asks for a filter in each filter step that has a condition with a
column, and what stands in the clause of the filters is read back as these filters: one pair of
parentheses for each step, and in it the conditions of the step between its connectives
(`compile_filters`). Nothing that a condition is made of can be read as more of the clause, neither the
names and strings in it nor the changes to its column.
-/

namespace QueryRecipe

open Lexer
open Text (Blank)

/-- Whether a condition has a column. -/
def FilterCondition.isGiven (c : FilterCondition) : Bool :=
  (Text.nonblank? c.column).isSome

/-- Whether a condition of a step after others comes to this one. -/
structure FilterCondition.Gives (before : List Step) (c : FilterCondition) (r : Condition) : Prop where
  subject : r.subject = referenceAfter before c.column
  comparison : Comparison.ofText (c.comparison.getD "") = .ok r.comparison
  operand : r.operand = c.operand

/-- Whether a step after others comes to this filter: one with its connective and all its conditions that
have a column. -/
def Step.Gives (before : List Step) (f : Filter) : Step → Prop
  | .filter conditions connective =>
    Connective.ofText connective = .ok f.connective ∧
      List.Forall₂ (FilterCondition.Gives before) (conditions.filter (·.isGiven)) f.conditions
  | _ => False

/-- A step that asks for a filter, with the steps before it. -/
def Step.askedAfter (before : List Step) (s : Step) : List (List Step × Step) :=
  if s.conditions.any (·.isGiven) then [(before, s)] else []

/-- The steps that ask for a filter, those that have a condition with a column, each with the steps before
it. -/
def filterSteps (steps : List Step) : List (List Step × Step) :=
  alongSteps Step.askedAfter [] steps

section Steps
variable {before steps : List Step} {s : Step}

/-- The tests of a well-formed step are its conditions that have a column. -/
lemma forall₂_tests {conditions : List FilterCondition} (known : ∀ c ∈ conditions, ¬ Blank c.column →
    ∃ o, Comparison.ofText (c.comparison.getD "") = .ok o) :
    List.Forall₂ (fun c t => t.column = c.column ∧
      Comparison.ofText (c.comparison.getD "") = .ok t.comparison ∧ t.operand = c.operand)
      (conditions.filter (·.isGiven)) (Step.tests conditions) := by
  induction conditions with
  | nil => exact .nil
  | cons c cs ih =>
    obtain ⟨now, later⟩ := List.forall_mem_cons.1 known
    rw [Step.tests, List.filterMap_cons, List.filter_cons, FilterCondition.isGiven]
    cases given : Text.nonblank? c.column with
    | none => exact ih later
    | some t =>
      obtain ⟨o, read⟩ := now (Text.nonblank?_isSome.1 ⟨t, given⟩)
      rw [read]
      exact .cons ⟨rfl, read, rfl⟩ (ih later)

/-- A step without fault asks for a filter exactly if it adds one. -/
lemma forall₂_askedAfter (fine : s.fault = none) :
    List.Forall₂ (fun a f => a.2.Gives a.1 f) (s.askedAfter before) (s.filtersAfter before) := by
  cases s with
  | filter conditions connective =>
    obtain ⟨⟨k, known⟩, comparisons⟩ := Step.fault_eq_none_iff.1 fine
    have tests := forall₂_tests comparisons
    have asked : (Step.filter conditions connective).conditions = conditions := rfl
    rw [Step.askedAfter, Step.filtersAfter, known, asked]
    cases e : Step.tests conditions with
    | nil =>
      rw [e, List.forall₂_nil_right_iff, List.filter_eq_nil_iff] at tests
      rw [if_neg (by simpa using tests)]
      exact .nil
    | cons t ts =>
      rw [e] at tests
      have some : conditions.any (·.isGiven) = true := by
        by_contra none
        rw [List.filter_eq_nil_iff.2 (by simpa using none)] at tests
        cases tests
      rw [if_pos some]
      refine .cons ⟨known, List.forall₂_map_right_iff.2 ?_⟩ .nil
      refine tests.imp fun c t same => ?_
      obtain ⟨column, read, operand⟩ := same
      exact ⟨by rw [column], read, operand⟩
  | _ => exact .nil

/-- What the filter steps of a recipe ask for is what its filters give, one after the other. -/
lemma forall₂_filterSteps (fine : ∀ s ∈ steps, s.fault = none) :
    List.Forall₂ (fun a f => a.2.Gives a.1 f) (alongSteps Step.askedAfter before steps)
      (alongSteps Step.filtersAfter before steps) := by
  induction steps generalizing before with
  | nil => exact .nil
  | cons s rest ih =>
    obtain ⟨now, later⟩ := List.forall_mem_cons.1 fine
    exact List.rel_append (forall₂_askedAfter now) (ih later)

end Steps

/-- A recipe without expressions and types compiles to a statement with one filter for each step that has
a condition with a column. In each SELECT the clause of the filters, which ends where another clause or the
SELECT does, is read back as these: between the words for `AND` outside blocks each filter stands in
parentheses, and inside these, between the connectives outside blocks, its conditions. -/
theorem compile_filters (d : Dialect) (table schema : String) (steps : List Step) (page : Page)
    (known : Option (List String)) (plain : ∀ s ∈ steps, s.IsPlain) (sql : Sql)
    (compiled : compile d table schema steps page known = .ok sql) :
    ∃ q, Query.ofSteps (Text.trim schema) steps = .ok q ∧
      let s := q.statement d ⟨Text.trim schema, Text.trim table⟩ page known
      sql = s.sql d ∧ List.Forall₂ (fun (a : List Step × Step) f => a.2.Gives a.1 f) (filterSteps steps)
          q.filters ∧
        ∀ r ∈ s.selects d, ∃ front list clause back,
          lex d (sql.text d).toList = some (front ++ list ++ clause ++ back) ∧
            lex d (Sql.text d (r.list ++ r.source)).toList = some list ∧
            lex d (r.condition.text d).toList = some clause ∧ ReadsFilters d q.filters clause ∧
            ∀ t ∈ back.head?, t ∈ clauseEnds := by
  obtain ⟨q, run, rfl, within⟩ := within_of_compile plain compiled
  have reflects : q.Reflects ([] ++ steps) := Query.Reflects.empty.applyFrom run
  have sound : q.Sound := Query.Sound.empty.applyFrom run
  refine ⟨q, run, rfl, ?_, fun r mem => ?_⟩
  · rw [reflects.filters]
    exact forall₂_filterSteps (Query.applyFrom_eq_ok.1 run).1
  · have whole := Statement.fits (d := d) within
    obtain ⟨front, back, split, follows⟩ := Statement.select_between mem
    have select : r.sql.Fits _ := whole.of_part ⟨front, back, split.symm⟩
    refine ⟨front.tokens d, Sql.tokens d (r.list ++ r.source), r.condition.tokens d, back.tokens d, ?_,
      (select.of_part (List.prefix_append _ _).isInfix).lex_text,
      (select.of_part (List.suffix_append _ _).isInfix).lex_text, ?_, follows.tokens⟩
    · have parts : r.sql.tokens d = Sql.tokens d (r.list ++ r.source) ++ r.condition.tokens d :=
        Sql.tokens_append
      rw [whole.lex_text, split, Sql.tokens_append, Sql.tokens_append, parts,
        ← List.append_assoc (front.tokens d)]
    · rw [Statement.condition_of_mem mem]
      exact Statement.reads_whereSql within sound.regular.filters

/-- The connectives in a string and in a case distinction are not taken for those of the filters. -/
theorem compile_filters_enclosed :
    let steps : List Step := [.fillNull "city" (.string "none) OR (1") true,
      .filter [⟨" ", some "near", .null⟩] none,
      .filter [⟨"city", some "in", .list [.string "here AND there"]⟩,
        ⟨"street", some "is_null", .null⟩] (some "or"),
      .union "archive" none true, .filter [⟨"city", some "like", .string "%) AND (%"⟩] none]
    (∀ s ∈ steps, s.IsPlain) ∧ (filterSteps steps).length = 2 ∧
      ∃ q, Query.ofSteps "" steps = .ok q ∧ q.filters.length = 2 ∧
        let s := q.statement .sqlite ⟨"", "people"⟩ {} none
        compile .sqlite "people" "" steps {} none = .ok (s.sql .sqlite) ∧
          ∀ r ∈ s.selects .sqlite, ∃ clause,
            lex .sqlite (r.condition.text .sqlite).toList = some clause ∧
              ReadsFilters .sqlite q.filters clause := by
  intro steps
  have plain : ∀ s ∈ steps, s.IsPlain := by simp [steps, Step.IsPlain]
  have asked : (filterSteps steps).length = 2 := by decide
  have compiles : (compile .sqlite "people" "" steps {} none).isOk = true := by decide
  cases e : compile .sqlite "people" "" steps {} none with
  | error fault =>
    rw [e] at compiles
    cases compiles
  | ok sql =>
    obtain ⟨q, run, rfl, filters, selects⟩ :=
      compile_filters .sqlite "people" "" steps {} none plain sql e
    refine ⟨plain, asked, q, run, by rw [← filters.length_eq, asked], rfl, fun r mem => ?_⟩
    obtain ⟨-, -, clause, -, -, -, read, reads, -⟩ := selects r mem
    exact ⟨clause, read, reads⟩

end QueryRecipe
