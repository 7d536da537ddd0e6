import QueryRecipe.Proofs.Compile.Confinement
import QueryRecipe.Proofs.Statement.Nesting

/-!
# Unions of compiled recipes

A recipe with union steps compiles to what it compiles to without them, as the first branch, and one
further branch for each of them in their order. The clauses that sort and cut rows belong to the first
branch: if it has any, it is put in parentheses, and none of their words stands outside parentheses in
the whole (`compile_unions`).
-/

namespace QueryRecipe

open Lexer

/-- Whether an edit adds the rows of a table. -/
def Edit.isUnion : Edit → Bool
  | .union _ => true
  | _ => false

namespace Step

/-- Whether a step adds the rows of a table. -/
def isUnion : Step → Bool
  | .union .. => true
  | _ => false

/-- The table whose rows a step adds; one without a schema is in that of the recipe. -/
def union? (schema : String) : Step → Option Union
  | .union table unionSchema all => some ⟨schemaOr schema unionSchema, Text.trim table, all⟩
  | _ => none

/-- A union step without fault comes to its union. -/
lemma edits_union {schema u} {s : Step} (fine : s.fault = none) (h : s.union? schema = some u) :
    (s.resolve schema).edits = [.union u] := by
  rw [← resolve_fault schema] at fine
  cases s with
  | union table unionSchema all =>
    cases h
    obtain ⟨t, present, resolved⟩ := bind_eq_ok.1 (Resolution.eq_ok_of_whole fine)
    rw [needed_eq_ok present] at resolved
    exact (Except.ok.inj resolved).symm
  | _ => cases h

/-- Only unions come to edits that add a table. -/
lemma edits_isUnion (schema : String) {s : Step} (h : s.isUnion = false) :
    ∀ e ∈ (s.resolve schema).edits, e.isUnion = false := by
  intro e mem
  cases asks_of_mem mem with
  | union => cases h
  | _ => rfl

end Step

namespace Query

/-- A query without its unions. -/
def single (q : Query) : Query :=
  { q with unions := [] }

/-- Edits that add no rows leave the unions as they are and do not depend on them. -/
lemma edits_single {q : Query} {es : List Edit} (h : ∀ e ∈ es, e.isUnion = false) :
    (q.edits es).unions = q.unions ∧ (q.edits es).single = q.single.edits es := by
  refine edits_related (R := fun r r' => r.unions = q.unions ∧ r.single = r') ⟨rfl, rfl⟩ ?_
  rintro e mem r _ ⟨unions, rfl⟩
  have other := h e mem
  cases e with
  | union => cases other
  | _ => exact ⟨unions, rfl⟩

/-- Union steps add their unions in their order, and the other steps come to the same without them. -/
lemma applyFrom_unions {schema i j steps} {q q' : Query} (run : applyFrom schema i q steps = .ok q') :
    q'.unions = q.unions ++ steps.filterMap (Step.union? schema) ∧
      applyFrom schema j q.single (steps.filter (!·.isUnion)) = .ok q'.single := by
  induction steps generalizing i j q with
  | nil =>
    cases run
    exact ⟨by simp, rfl⟩
  | cons s rest ih =>
    obtain ⟨fine, run⟩ := applyFrom_cons_eq_ok.1 run
    -- steps that are left out are not counted
    obtain ⟨unions, alone⟩ := ih (j := if s.isUnion then j else j + 1) run
    cases adds : s.isUnion with
    | true =>
      obtain ⟨u, target⟩ : ∃ u, s.union? schema = some u := by
        cases s with
        | union => exact ⟨_, rfl⟩
        | _ => cases adds
      rw [Step.edits_union fine target] at unions alone
      rw [if_pos adds] at alone
      rw [List.filterMap_cons_some target, List.filter_cons_of_neg (by simp [adds])]
      refine ⟨?_, alone⟩
      rw [unions]
      exact List.append_assoc q.unions [u] _
    | false =>
      have other : s.union? schema = none := by
        cases s with
        | union => cases adds
        | _ => rfl
      obtain ⟨kept, same⟩ := edits_single (q := q) (Step.edits_isUnion schema adds)
      rw [kept] at unions
      rw [same, if_neg (by simp [adds])] at alone
      rw [List.filterMap_cons_none other, List.filter_cons_of_pos (by simp [adds]),
        applyFrom_cons fine]
      exact ⟨unions, alone⟩

/-- Without its unions a query becomes the first branch. -/
lemma sql_single {q : Query} {d : Dialect} {source : Source} {page : Page}
    {known : Option (List String)} :
    (q.single.statement d source page known).sql d = (q.statement d source page known).primarySql d :=
  rfl

end Query

/-- The functions that every dialect has are not named like clauses. -/
lemma Vocabulary.ofRecipe_sparesClauses (table schema : String) {steps : List Step}
    (known : Option (List String)) (builtin : ∀ s ∈ steps, ∀ a ∈ s.aggregations, ∀ name,
      Aggregate.ofText a.function ≠ .ok (.other name)) :
    (ofRecipe table schema steps known).SparesClauses := by
  rintro x ⟨s, mem, a, listed, f, read, rfl⟩
  cases f with
  | other name => exact absurd read (builtin s mem a listed name)
  | _ => decide

/-- The first of several branches, by what is read in it: in the form that may sort or cut its rows if
a word for that stands outside parentheses. -/
def Sql.operand (d : Dialect) (q : Sql) (own : List Token) : Sql :=
  if ∃ w ∈ cutWords, w ∈ outside 0 own then q.branch d else q

/-- Whether tokens are read in the branch for a union, behind the word for a union: the word for keeping
repeated rows if it keeps them, and the SELECT. -/
def Statement.ReadsBranch (d : Dialect) (s : Statement) (u : Union) (toks : List Token) : Prop :=
  ∃ select, lex d ((s.branch d u).sql.text d).toList = some select ∧
    toks = (if u.all then [wordAll] else []) ++ select

/-- A recipe with union steps, without expressions, types and functions of its own, compiles to several
branches between words for a union: the statement of the other steps, in the form that may be a branch
if it sorts or cuts its rows, and then one branch for each union step in turn. Outside parentheses no
word for sorting or cutting stands in the whole. -/
theorem compile_unions (d : Dialect) (table schema : String) (steps : List Step) (page : Page)
    (known : Option (List String)) (plain : ∀ s ∈ steps, s.IsPlain)
    (builtin : ∀ s ∈ steps, ∀ a ∈ s.aggregations, ∀ name,
      Aggregate.ofText a.function ≠ .ok (.other name))
    (several : ∃ s ∈ steps, s.isUnion = true) (q : Sql)
    (compiled : compile d table schema steps page known = .ok q) :
    ∃ query primary, Query.ofSteps (Text.trim schema) steps = .ok query ∧
      compile d table schema (steps.filter (!·.isUnion)) page known = .ok primary ∧
      ∃ toks own first others, lex d (q.text d).toList = some toks ∧
        lex d (primary.text d).toList = some own ∧
        lex d ((primary.operand d own).text d).toList = some first ∧
        splitOutside wordUnion 0 toks = first :: others ∧
        List.Forall₂
          ((query.statement d ⟨Text.trim schema, Text.trim table⟩ page known).ReadsBranch d)
          (steps.filterMap (Step.union? (Text.trim schema))) others ∧
        ∀ w ∈ cutWords, w ∉ outside 0 toks := by
  have spared := Vocabulary.ofRecipe_sparesClauses table schema known builtin
  have present := present_of_compile compiled
  obtain ⟨query, run, rfl, within⟩ := within_of_compile plain compiled
  obtain ⟨unions, alone⟩ := Query.applyFrom_unions (j := 0) run
  set s := query.statement d ⟨Text.trim schema, Text.trim table⟩ page known with statement
  have listed : s.unions = steps.filterMap (Step.union? (Text.trim schema)) := unions
  have nonempty : s.unions ≠ [] := by
    obtain ⟨s, mem, adds⟩ := several
    cases s with
    | union table unionSchema all =>
      rw [listed]
      exact List.ne_nil_of_mem (List.mem_filterMap.2 ⟨_, mem, rfl⟩)
    | _ => cases adds
  have whole := Statement.fits (d := d) within
  have primary := Statement.fits_primarySql (d := d) within
  have split := Statement.split_unions (d := d) within spared nonempty
  have uncut := Statement.uncut_unions (d := d) within spared nonempty
  obtain ⟨-, -, cut⟩ := Statement.primary_outside (d := d) within spared
  have operand : (s.primarySql d).operand d ((s.primarySql d).tokens d) = s.firstSql d := by
    rw [Sql.operand, Statement.firstSql, if_congr cut.symm rfl rfl]
  have first : (s.firstSql d).Fits _ :=
    whole.of_part (List.IsPrefix.isInfix ⟨_, (Statement.sql_unions nonempty).symm⟩)
  refine ⟨query, s.primarySql d, run, ?_, (s.sql d).tokens d, (s.primarySql d).tokens d,
    (s.firstSql d).tokens d, s.unions.map (s.rowTokens d), whole.lex_text, primary.lex_text, ?_, split,
    ?_, uncut⟩
  · have single : Query.ofSteps (Text.trim schema) (steps.filter (!·.isUnion)) = .ok query.single :=
      alone
    rw [compile_present present, single, ← Query.sql_single]
    rfl
  · rw [operand]
    exact first.lex_text
  · rw [← listed, List.forall₂_map_right_iff, List.forall₂_same]
    intro u mem
    have select : ((s.branch d u).sql).Fits _ :=
      (Statement.fits_unionSql within (within.unions u mem)).of_part
        (Statement.branch_suffix u).isInfix
    exact ⟨_, select.lex_text, rfl⟩

/-- The sort order that `DISTINCT ON` requires stays in the first of three branches. -/
theorem compile_unions_distinctOn :
    let steps : List Step := [.union "archive" none true, .deduplicate ["city"],
      .groupBy ["city"] [⟨"price", some "sum", none⟩], .union "attic" (some "old") false]
    (∀ s ∈ steps, s.IsPlain) ∧
      (∀ s ∈ steps, ∀ a ∈ s.aggregations, ∀ name,
        Aggregate.ofText a.function ≠ .ok (.other name)) ∧
      (∃ s ∈ steps, s.isUnion = true) ∧
      ∃ q, compile .postgres "orders" "shop" steps ⟨none, some 0⟩ none = .ok q ∧
        ∃ toks, lex .postgres (q.text .postgres).toList = some toks ∧
          (splitOutside wordUnion 0 toks).length = 3 ∧ ∀ w ∈ cutWords, w ∉ outside 0 toks := by
  intro steps
  have plain : ∀ s ∈ steps, s.IsPlain := by simp [steps, Step.IsPlain]
  have several : ∃ s ∈ steps, s.isUnion = true := ⟨_, List.mem_cons_self, rfl⟩
  have sum : Aggregate.ofText (some "sum") = .ok .sum := by decide +kernel
  have builtin : ∀ s ∈ steps, ∀ a ∈ s.aggregations, ∀ name,
      Aggregate.ofText a.function ≠ .ok (.other name) := by
    simp [steps, Step.aggregations, sum]
  have compiles : (compile .postgres "orders" "shop" steps ⟨none, some 0⟩ none).isOk = true := by
    decide +kernel
  cases e : compile .postgres "orders" "shop" steps ⟨none, some 0⟩ none with
  | error fault =>
    rw [e] at compiles
    cases compiles
  | ok q =>
    obtain ⟨query, primary, -, -, toks, own, first, others, read, -, -, split, rows, uncut⟩ :=
      compile_unions .postgres "orders" "shop" steps ⟨none, some 0⟩ none plain builtin several q e
    refine ⟨plain, builtin, several, q, rfl, toks, read, ?_, uncut⟩
    rw [split, List.length_cons, ← rows.length_eq]
    rfl

end QueryRecipe
