import QueryRecipe.Proofs.Compile.Confinement
import QueryRecipe.Proofs.Compile.Stock
import QueryRecipe.Proofs.Statement.Scope

/-!
# Aliases across the branches of a union

Where the tables that a compiled statement refers to are brought in. All its SELECTs have the same select
list and condition, but the joins belong to the first one. So in the first SELECT every qualifier is `t`
or an alias of its own source, while a further branch brings in `t` alone and its other qualifiers are
aliases of the first SELECT (`compile_scoped`).
-/

namespace QueryRecipe

/-- A column of a joined table begins with the alias of the table. -/
lemma root?_joined {label column : String} (plain : Sql.isDotted label = false) :
    Sql.root? (label ++ "." ++ column) = some label := by
  have alone : '.' ∉ label.toList := by simpa [Sql.isDotted] using plain
  have chars : (label ++ "." ++ column).toList = label.toList ++ '.' :: column.toList := by simp
  rw [Sql.root?, if_pos (by simp [Sql.isDotted]), Text.split, chars, Text.splitAtChar_append,
    Text.splitAtChar_of_not_mem alone]
  simp

/-- A name without dots does not begin with a table. -/
lemma root?_eq_none {column : String} (plain : Sql.isDotted column = false) :
    Sql.root? column = none := by
  simp [Sql.root?, plain]

/-- In the first SELECT of a compiled statement every qualifier in the select list, in `DISTINCT ON` and
in the condition is `t` or an alias that its source brings in. A further SELECT has the same qualifiers,
and its source brings in `t` only; so it is scoped by itself if no column is dotted and no join lists
columns. -/
theorem compile_scoped (d : Dialect) (table schema : String) (steps : List Step) (page : Page)
    (known : Option (List String)) (plain : ∀ s ∈ steps, s.IsPlain)
    (dotted : ∀ c ∈ known.getD [] ++ steps.flatMap Step.columns, ∀ x ∈ Sql.root? c,
      x ∈ joinAliases steps)
    (listed : ∀ j ∈ joinedFrom 0 steps, j.2 ≠ [] → Sql.isDotted j.1 = false) (sql : Sql)
    (compiled : compile d table schema steps page known = .ok sql) :
    ∃ q, Query.ofSteps (Text.trim schema) steps = .ok q ∧
      let s := q.statement d ⟨Text.trim schema, Text.trim table⟩ page known
      sql = s.sql d ∧ (s.primary d).IsScoped d ∧
        (s.primary d).aliases? d = some ("t" :: joinAliases steps) ∧
        (∀ u ∈ s.unions, (s.branch d u).qualifiers? d = (s.primary d).qualifiers? d ∧
          (s.branch d u).aliases? d = some ["t"]) ∧
        ((∀ c ∈ known.getD [] ++ steps.flatMap Step.columns, Sql.isDotted c = false) →
          (∀ j ∈ joinedFrom 0 steps, j.2 = []) → ∀ u ∈ s.unions, (s.branch d u).IsScoped d) := by
  obtain ⟨q, run, rfl, within⟩ := within_of_compile plain compiled
  obtain ⟨used, first, bound, others, refers⟩ := Statement.reads_selects within (d := d)
  have joins : q.joins.map (·.label) = joinAliases steps :=
    Query.labels_applyFrom run
  have bound : _ = some ("t" :: joinAliases steps) := joins ▸ bound
  have holds {P : String → Prop} (own : P "t")
      (columns : ∀ c ∈ known.getD [] ++ steps.flatMap Step.columns, ∀ x ∈ Sql.root? c, P x)
      (joined : ∀ j ∈ joinedFrom 0 steps, ∀ c ∈ j.2, ∀ x ∈ Sql.root? (j.1 ++ "." ++ c), P x) :
      ∀ x ∈ used, P x := by
    obtain ⟨shown, asked⟩ := List.forall_mem_append.1 columns
    have covers : ∀ s ∈ steps, (Stock.rooted P).Covers s := fun s mem =>
      ⟨fun c named => asked c (List.mem_flatMap.2 ⟨s, mem, named⟩), fun _ _ => trivial,
        fun _ _ _ _ => trivial⟩
    exact refers P own (((Query.applyFrom_from run).2 .empty covers joined).statement shown)
  refine ⟨q, run, rfl, ⟨used, _, first, bound, ?_⟩, bound, fun u mem => ?_,
    fun undotted unlisted u mem => ⟨used, _, (others u mem).1, (others u mem).2, ?_⟩⟩
  · refine holds (.inl rfl) (fun c mem x root => ?_) fun j mem c asked x root => ?_
    · exact .inr (List.mem_cons_of_mem _ (dotted c mem x root))
    · rw [root?_joined (listed j mem (List.ne_nil_of_mem asked))] at root
      cases root
      exact .inr (List.mem_cons_of_mem _ (List.mem_map_of_mem mem))
  · exact ⟨(others u mem).1.trans first.symm, (others u mem).2⟩
  · refine holds (.inl rfl) (fun c mem x root => ?_) fun j mem c asked => ?_
    · rw [root?_eq_none (undotted c mem)] at root
      cases root
    · rw [unlisted j mem] at asked
      cases asked

/-- A numbered alias and a given one, the first of them used in a filter. -/
theorem compile_scoped_dotted :
    let steps : List Step := [.join "sizes" none none none [⟨"size", "id"⟩] ["name"],
      .filter [⟨"j1.id", some "=", .int 1⟩] none, .select ["a", "k.b"],
      .join "kinds" none none (some "k") [⟨"kind", "id"⟩] [], .union "old" none false]
    (∀ s ∈ steps, s.IsPlain) ∧
      (∀ c ∈ steps.flatMap Step.columns, ∀ x ∈ Sql.root? c, x ∈ joinAliases steps) ∧
      (∀ j ∈ joinedFrom 0 steps, j.2 ≠ [] → Sql.isDotted j.1 = false) ∧
      ∃ q, Query.ofSteps "" steps = .ok q ∧
        let s := q.statement .mysql ⟨"", "orders"⟩ {} none
        compile .mysql "orders" "" steps {} none = .ok (s.sql .mysql) ∧
          (s.primary .mysql).IsScoped .mysql ∧
          (s.primary .mysql).aliases? .mysql = some ["t", "j1", "k"] := by
  intro steps
  have plain : ∀ s ∈ steps, s.IsPlain := by simp [steps, Step.IsPlain]
  have dotted : ∀ c ∈ steps.flatMap Step.columns, ∀ x ∈ Sql.root? c, x ∈ joinAliases steps := by
    decide +kernel
  have listed : ∀ j ∈ joinedFrom 0 steps, j.2 ≠ [] → Sql.isDotted j.1 = false := by decide +kernel
  have compiles : (compile .mysql "orders" "" steps {} none).isOk = true := by decide +kernel
  refine ⟨plain, dotted, listed, ?_⟩
  cases e : compile .mysql "orders" "" steps {} none with
  | error fault =>
    rw [e] at compiles
    cases compiles
  | ok sql =>
    obtain ⟨q, run, rfl, first, bound, -⟩ :=
      compile_scoped .mysql "orders" "" steps {} none plain dotted listed sql e
    exact ⟨q, run, rfl, first, bound⟩

/-- The columns of a joined table stay in the select list of a further branch, where nothing brings in
their table; and under an alias with a dot they refer to a part of it that nothing brings in. -/
theorem compile_unscoped :
    let branch : List Step :=
      [.select ["a"], .join "sizes" none none none [⟨"size", "id"⟩] ["b"], .union "old" none false]
    let label : List Step :=
      [.select ["a"], .join "sizes" none none (some "x.y") [⟨"size", "id"⟩] ["b"]]
    ∀ steps ∈ [branch, label],
      (∀ s ∈ steps, s.IsPlain) ∧ (∀ c ∈ steps.flatMap Step.columns, Sql.isDotted c = false) ∧
        ∃ q, Query.ofSteps "" steps = .ok q ∧
          let s := q.statement .postgres ⟨"", "orders"⟩ {} none
          compile .postgres "orders" "" steps {} none = .ok (s.sql .postgres) ∧
            ∃ r ∈ s.selects .postgres, ¬ r.IsScoped .postgres := by
  intro branch label
  have undotted : ∀ steps ∈ [branch, label],
      ∀ c ∈ steps.flatMap Step.columns, Sql.isDotted c = false := by decide +kernel
  have unbound : ∀ steps ∈ [branch, label], ((Query.ofSteps "" steps).toOption.any fun q =>
      ((q.statement .postgres ⟨"", "orders"⟩ {} none).selects .postgres).any fun r =>
        (r.qualifiers? .postgres).any fun used => (r.aliases? .postgres).any fun bound =>
          used.any fun x => x ≠ "t" && !bound.contains x) = true := by decide +kernel
  have present : Text.nonblank? "orders" = some "orders" := by decide +kernel
  have trimmed : Text.trim "" = "" := by decide +kernel
  intro steps mem
  refine ⟨?_, undotted steps mem, ?_⟩
  · simp only [List.mem_cons, List.not_mem_nil, or_false] at mem
    rcases mem with rfl | rfl <;> simp [branch, label, Step.IsPlain]
  · obtain ⟨q, run, found⟩ := Option.any_eq_true _ _ |>.1 (unbound steps mem)
    rw [toOption_eq_some] at run
    obtain ⟨r, shown, found⟩ := List.any_eq_true.1 found
    refine ⟨q, run, ?_, r, shown, ?_⟩
    · simp only [compile, present, trimmed, run]
      rfl
    · rintro ⟨used, bound, read, brought, fine⟩
      simp only [read, brought, Option.any_some] at found
      obtain ⟨x, mem, not⟩ := List.any_eq_true.1 found
      cases fine x mem with
      | inl own => simp [own] at not
      | inr given => simp [given] at not

end QueryRecipe
