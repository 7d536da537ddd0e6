import QueryRecipe.Proofs.Query.Entries
import QueryRecipe.Proofs.Query.History

/-!
# The sort order of `DISTINCT ON`

PostgreSQL wants the sort order to begin with the columns of `DISTINCT ON`. The sort order of a query
does: it begins with a term for each of them, in their order, and the sort terms that did not move follow
in theirs. No term is lost, none is found for a column that it does not sort by, and the only new ones
are ascending terms for columns that had no term left (`Query.orderBy_distinctOn`).

Given that the prefix test finds what it should, this is a matter of lists (`Query.leadBy_spec`). That it
does is what a query records of its past.
-/

namespace QueryRecipe

namespace Query

/-- Ascending terms for the references that are left when each term has met one of those it sorts by. -/
def forced (references : List Expr) (terms : List SortTerm) : List SortTerm :=
  (references.diff (terms.map (·.subject))).map (⟨·, .ascending⟩)

section Lead
variable {d : Dialect} {e : Expr} {es : List Expr} {terms : List SortTerm}

/-- A leading expression that a term sorts by takes that term. -/
lemma forced_cons_found {t : SortTerm} {rest : List SortTerm} (all : (t :: rest).Perm terms) :
    forced (t.subject :: es) terms = forced es rest := by
  rw [forced, ← (all.map (·.subject)).diff_left, List.map_cons, List.diff_cons, List.erase_cons_head,
    forced]

/-- A leading expression that no term sorts by is sorted by in ascending order. -/
lemma forced_cons_missing (missing : e ∉ terms.map (·.subject)) :
    forced (e :: es) terms = ⟨e, .ascending⟩ :: forced es terms := by
  rw [forced, List.cons_diff_of_not_mem missing, List.map_cons, forced]

/-- Of terms that are found by what they sort by, one for each reference comes first, the others keep
their order, and those that had to be made are new. -/
lemma leadBy_spec (finds : ∀ e ∈ es, ∀ t ∈ terms, sortsBy d e t = true ↔ t.subject = e) :
    ∃ lead rest, leadBy d es terms = lead ++ rest ∧ lead.map (·.subject) = es ∧
      rest.Sublist terms ∧ (lead ++ rest).Perm (terms ++ forced es terms) := by
  induction es generalizing terms with
  | nil => exact ⟨[], terms, rfl, rfl, .refl _, by simp [forced]⟩
  | cons e es ih =>
    obtain ⟨here, later⟩ := List.forall_mem_cons.1 finds
    rw [leadBy]
    cases found : terms.find? (sortsBy d e) with
    | some t =>
      -- the term that is found is missing from those that are left
      obtain rfl : t.subject = e := (here t (List.mem_of_find?_eq_some found)).1 (List.find?_some found)
      have all := cons_eraseP_perm found
      have fewer : (terms.eraseP (sortsBy d t.subject)).Sublist terms := List.eraseP_sublist
      obtain ⟨lead, rest, eq, subjects, kept, perm⟩ :=
        ih fun e mem t among => later e mem t (fewer.subset among)
      refine ⟨t :: lead, rest, congrArg (t :: ·) eq, by rw [List.map_cons, subjects],
        kept.trans fewer, ?_⟩
      rw [forced_cons_found all]
      exact (perm.cons t).trans (all.append_right _)
    | none =>
      have missing : e ∉ terms.map (·.subject) := by
        intro mem
        obtain ⟨t, among, rfl⟩ := List.mem_map.1 mem
        exact List.find?_eq_none.1 found t among ((here t among).2 rfl)
      obtain ⟨lead, rest, eq, subjects, kept, perm⟩ := ih later
      refine ⟨⟨e, .ascending⟩ :: lead, rest, congrArg _ eq, by rw [List.map_cons, subjects], kept, ?_⟩
      rw [forced_cons_missing missing]
      exact (perm.cons _).trans List.perm_middle.symm

end Lead

/-- A sort term is written as what it sorts by and its direction. -/
lemma text_sortTerm (d : Dialect) (t : SortTerm) : ∃ direction ∈ [" ASC", " DESC"],
    (t.sql d).text d = (t.subject.sql d).text d ++ direction := by
  refine ⟨" " ++ t.direction.keyword, by cases t.direction <;> decide, ?_⟩
  rw [Sql.text, spelling_sortTerm, Sql.text, ← String.toList_inj]
  simp

/-- For PostgreSQL, the statement of a query that tells rows apart by columns has these columns in
`DISTINCT ON` and, in the same order, in front of its sort order, each with a direction. The prefix test
finds a sort term for a reference exactly if the term sorts by it. All sort terms stay, with one
ascending term for each of the columns that have none left, and those that are not moved keep their
order. -/
theorem orderBy_distinctOn {q : Query} (reachable : Reachable q) {columns : List String}
    (dedup : q.dedup = .on columns) (source : Source) (page : Page) (known : Option (List String)) :
    let s := q.statement .postgres source page known
    let references := columns.map q.reference
    s.head = .distinctOn references ∧
      (∀ column, ∀ t ∈ q.order,
        sortsBy .postgres (q.reference column) t = true ↔ t.subject = q.reference column) ∧
      ∃ lead rest, s.orderBy = lead ++ rest ∧
        List.Forall₂ (fun e t => t.subject = e ∧ ∃ direction ∈ [" ASC", " DESC"],
          (t.sql .postgres).text .postgres = (e.sql .postgres).text .postgres ++ direction)
          references lead ∧
        rest.Sublist q.order ∧
        s.orderBy.Perm (q.order ++ forced references q.order) := by
  intro s references
  obtain ⟨changes, records⟩ := exists_records_of_reachable reachable
  have finds : ∀ column, ∀ t ∈ q.order,
      sortsBy .postgres (q.reference column) t = true ↔ t.subject = q.reference column :=
    fun column t mem => records.sortsBy_iff column mem
  have head : s.head = .distinctOn references := by
    show q.head .postgres = _
    rw [Query.head, dedup]
    rfl
  have order : s.orderBy = leadBy .postgres references q.order := by
    show q.orderBy .postgres = _
    rw [orderBy, dedup]
    rfl
  obtain ⟨lead, rest, eq, subjects, kept, perm⟩ :=
    leadBy_spec (List.forall_mem_map.2 fun column _ => finds column)
  refine ⟨head, finds, lead, rest, order.trans eq, ?_, kept, order.trans eq ▸ perm⟩
  rw [show references = lead.map (·.subject) from subjects.symm, List.forall₂_map_left_iff,
    List.forall₂_same]
  exact fun t _ => ⟨rfl, text_sortTerm .postgres t⟩

/-- The only term for the first column moves with its direction; named a second time the column has none
left. The other column has been changed since its term was added, and is looked for in vain. -/
theorem orderBy_distinctOn_quoted :
    let cast : Step := .cast "a\" b" "numeric(10, 2)"
    let sort : Step := .sort [⟨"b", none⟩, ⟨"a", none⟩, ⟨"a\" b", some "desc"⟩]
    let q := ((((({} : Query).apply "" cast).1.apply "" sort).1.apply "" (.trim "b" .both)).1.apply ""
      (.deduplicate ["a\" b", "b", "a\" b"])).1
    let s := q.statement .postgres ⟨"", "people"⟩ {} none
    let number : Expr := .changed (.field "a\" b") (.cast "numeric(10, 2)")
    let trimmed : Expr := .changed (.field "b") (.trim .both)
    Reachable q ∧ q.dedup = .on ["a\" b", "b", "a\" b"] ∧ s.head = .distinctOn [number, trimmed, number] ∧
      s.orderBy = [⟨number, .descending⟩, ⟨trimmed, .ascending⟩, ⟨number, .ascending⟩,
        ⟨.name "b", .ascending⟩, ⟨.name "a", .ascending⟩] ∧
      s.orderBy.Perm (q.order ++ [⟨trimmed, .ascending⟩, ⟨number, .ascending⟩]) := by
  intro cast sort q s number trimmed
  have reachable : Reachable q :=
    .apply "" _ (.apply "" _ (.apply "" sort (.apply "" cast .empty)))
  have dedup : q.dedup = .on ["a\" b", "b", "a\" b"] := by decide +kernel
  obtain ⟨head, -, lead, rest, -, -, -, perm⟩ :=
    orderBy_distinctOn reachable dedup ⟨"", "people"⟩ {} none
  have references : ["a\" b", "b", "a\" b"].map q.reference = [number, trimmed, number] := by
    decide +kernel
  have new : forced [number, trimmed, number] q.order =
      [⟨trimmed, .ascending⟩, ⟨number, .ascending⟩] := by
    decide +kernel
  rw [references] at head perm
  exact ⟨reachable, dedup, head, by decide +kernel, new ▸ perm⟩

end Query

end QueryRecipe
