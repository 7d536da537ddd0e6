import QueryRecipe.Proofs.Compile.Acceptance
import QueryRecipe.Proofs.Step.Footprint

/-!
# Steps that may be swapped

The order of two neighbouring steps is without effect if neither writes a part of the query that the
other reads or writes. They come to the same query in either order, whatever query they are applied to,
and so a recipe that compiles still compiles to the same statement when they are swapped
(`compile_swap`).
-/

namespace QueryRecipe

/-- Steps leave a part of a query that none of them writes. -/
lemma Query.agreeOn_applyFrom {schema i} {p : Part} {steps : List Step} {q q' : Query}
    (unwritten : ∀ s ∈ steps, p ∉ s.writes) (run : applyFrom schema i q steps = .ok q') :
    q'.AgreeOn p q := by
  obtain ⟨-, rfl⟩ := applyFrom_eq_ok.1 run
  refine edits_invariant (P := (·.AgreeOn p q)) (.refl p q) fun e mem r agree => ?_
  obtain ⟨s, listed, asked⟩ := List.mem_flatMap.1 mem
  exact (Step.agreeOn_edit (Step.asks_of_mem asked) (unwritten s listed)).trans agree

/-- Independent neighbours may be swapped wherever they stand in steps that are applied to the end. -/
lemma Query.applyFrom_swap {schema i s t} {pre post : List Step} {q q' : Query}
    (independent : s.Independent t) (run : applyFrom schema i q (pre ++ s :: t :: post) = .ok q') :
    applyFrom schema i q (pre ++ t :: s :: post) = .ok q' := by
  rw [applyFrom_eq_ok] at run ⊢
  obtain ⟨fine, rfl⟩ := run
  constructor
  · simp only [List.forall_mem_append, List.forall_mem_cons] at fine ⊢
    obtain ⟨before, first, second, after⟩ := fine
    exact ⟨before, second, first, after⟩
  · simp only [List.flatMap_append, List.flatMap_cons, edits_append]
    congr 1
    exact (edits_comm independent _).symm

/-- Two steps of which neither writes a part of a query that the other reads or writes come to the same in
either order: applied to any query without fault, and as neighbours in any recipe that compiles. -/
theorem compile_swap {s t : Step} (independent : s.Independent t) :
    (∀ schema (q : Query), (q.apply schema s).2 = none → (q.apply schema t).2 = none →
      (q.apply schema s).1.apply schema t = (q.apply schema t).1.apply schema s) ∧
      ∀ d table schema pre post page known sql,
        compile d table schema (pre ++ s :: t :: post) page known = .ok sql →
          compile d table schema (pre ++ t :: s :: post) page known = .ok sql := by
  constructor
  · intro schema q first second
    rw [Query.apply_eq] at first second
    simp only [Query.apply_eq]
    apply Prod.ext
    · exact Query.edits_comm independent q
    · -- what is wrong with a step does not depend on the query
      exact second.trans first.symm
  · intro d table schema pre post page known sql compiled
    have present := present_of_compile compiled
    obtain ⟨q, run, rfl⟩ := compile_eq_ok compiled
    have swapped : Query.ofSteps (Text.trim schema) (pre ++ t :: s :: post) = .ok q :=
      Query.applyFrom_swap independent run
    rw [compile_present present, swapped]
    rfl

/-- A join that lists columns and a grouping may be swapped before the columns are put in order. -/
theorem compile_swap_join :
    let join : Step := .join "shops" none none none [⟨"shop", "id"⟩] ["city"]
    let group : Step := .groupBy ["j1.city"] [⟨"price", some "sum", none⟩]
    let q : Query := ({} : Query).edit (.select ["price"])
    join.Independent group ∧
      (q.apply "" join).1.apply "" group = (q.apply "" group).1.apply "" join ∧
      ∃ sql, compile .mysql "orders" "" [.select ["price"], join, group, .reorder ["city"]] {} none =
          .ok sql ∧
        compile .mysql "orders" "" [.select ["price"], group, join, .reorder ["city"]] {} none =
          .ok sql := by
  intro join group q
  have independent : join.Independent group := by decide
  obtain ⟨either, swapped⟩ := compile_swap independent
  have compiles : (compile .mysql "orders" "" [.select ["price"], join, group, .reorder ["city"]] {}
      none).isOk = true := by
    decide
  refine ⟨independent, either "" q (by decide) (by decide +kernel), ?_⟩
  cases e : compile .mysql "orders" "" [.select ["price"], join, group, .reorder ["city"]] {} none with
  | error fault =>
    rw [e] at compiles
    cases compiles
  | ok sql => exact ⟨sql, rfl, swapped _ _ _ [.select ["price"]] [.reorder ["city"]] _ _ _ e⟩

end QueryRecipe
