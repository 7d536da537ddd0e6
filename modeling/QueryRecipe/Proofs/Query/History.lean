import QueryRecipe.Proofs.Query.Edit
import QueryRecipe.Proofs.Statement.Lead
import QueryRecipe.Proofs.Step.Reachable

/-!
# What a query keeps of its past

The value of a column is the column inside all changes that were made to it, and a sort term holds the
value that its column had when the term was added. Changes are only ever put around others, so the
changes in a term are the first ones of its column (`Query.Records`). Every edit keeps this true of some
longer list of changes (`Query.Records.edit`), so there is one for every query that steps lead to. The
search for the sort terms of `DISTINCT ON` rests on it: a reference finds the terms that sort by it and no
others (`Query.Records.sortsBy_iff`).
-/

namespace QueryRecipe

namespace Query

/-- Whether the columns have gone through these changes, and each sort term sorts by a column after the
first of its changes. -/
structure Records (changes : String → List Change) (q : Query) : Prop where
  transform? : ∀ column, q.transform? column =
    if changes column = [] then none else some (.given column (changes column))
  order : ∀ t ∈ q.order, ∃ column cs, cs <+: changes column ∧ t.subject = .given column cs

/-- The empty query records no change. -/
lemma Records.empty : Records (fun _ => []) {} where
  transform? _ := rfl
  order := by simp

section Records
variable {changes : String → List Change} {q : Query}

/-- The reference to a column is the column under its recorded changes. -/
lemma Records.reference (h : q.Records changes) (column : String) :
    q.reference column = .given column (changes column) := by
  rw [Query.reference, h.transform?]
  split
  next none => rw [none]; rfl
  next => rfl

/-- One more change of a column goes to the end of its record. -/
lemma Records.changed (h : q.Records changes) (column : String) (c : Change) :
    .changed (q.source column) c = Expr.given column (changes column ++ [c]) := by
  rw [source, h.transform?, Expr.given_concat]
  split <;> rfl

/-- An edit leaves a record of the changes so far, and of its own if it makes one. -/
lemma Records.edit (h : q.Records changes) (e : Edit) : ∃ changes', (q.edit e).Records changes' := by
  cases e with
  | change column c =>
    refine ⟨Function.update changes column (changes column ++ [c]), fun column' => ?_, fun t mem => ?_⟩
    · rw [transform?_change]
      by_cases same : column = column'
      · subst same
        simp [h.changed]
      · rw [if_neg same, Function.update_of_ne (Ne.symm same), h.transform?]
    · obtain ⟨column', cs, first, subject⟩ := h.order t mem
      refine ⟨column', cs, ?_, subject⟩
      by_cases same : column' = column
      · subst same
        rw [Function.update_self]
        exact first.trans (List.prefix_append _ _)
      · rwa [Function.update_of_ne same]
  | sort column direction =>
    refine ⟨changes, h.transform?, fun t mem => ?_⟩
    cases List.mem_append.1 mem with
    | inl old => exact h.order t old
    | inr new =>
      obtain rfl := List.mem_singleton.1 new
      exact ⟨column, changes column, List.prefix_refl _, h.reference column⟩
  | _ => exact ⟨changes, h.transform?, h.order⟩

/-- A recorded query is a recorded one after any edits. -/
lemma Records.edits (h : q.Records changes) (es : List Edit) :
    ∃ changes', (q.edits es).Records changes' := by
  refine edits_invariant (P := fun r => ∃ changes', r.Records changes') ⟨changes, h⟩ fun e _ r records => ?_
  obtain ⟨changes', records⟩ := records
  exact records.edit e

/-- Every reachable query has a record of its changes. -/
lemma exists_records_of_reachable (h : Reachable q) : ∃ changes, q.Records changes := by
  induction h with
  | empty => exact ⟨_, .empty⟩
  | apply schema s _ ih =>
    obtain ⟨changes, records⟩ := ih
    rw [apply_eq]
    exact records.edits _

/-- A reference finds the sort terms that sort by it and no others. -/
lemma Records.sortsBy_iff (h : q.Records changes) {d : Dialect} (column : String) {t : SortTerm}
    (mem : t ∈ q.order) :
    sortsBy d (q.reference column) t = true ↔ t.subject = q.reference column := by
  obtain ⟨column', cs, first, subject⟩ := h.order t mem
  rw [h.reference, sortsBy_given subject fun same => same ▸ first, subject, Expr.given_inj,
    eq_comm (a := column), eq_comm (a := changes column)]

end Records

end Query

end QueryRecipe
