import QueryRecipe.Proofs.Query.Entries
import QueryRecipe.Proofs.Query.History

/-!
# What the select list shows of a changed column

A reference to a changed column means its changed value. The entry of the select list for it shows the
same value if the query is grouped or the name of the column has no dots, and otherwise the column as
it was (`Query.shownItems_changed`). The two texts always differ, because a changed value begins with the
word of a function or of a case distinction and a name with a quote.

That the values of a query are changes of other values (`Query.Changes`) is part of what it keeps of its
past.
-/

namespace QueryRecipe

/-- A changed value is not written like a name. -/
lemma Expr.text_changed_ne {d : Dialect} (e : Expr) (c : Change) (column : String) :
    ((Expr.changed e c).sql d).text d ≠ ((Expr.name column).sql d).text d := by
  intro same
  obtain ⟨front, back, text, around⟩ := spelling_change (d := d) (e := e.sql d) (c := c)
  have begins : front ++ ((e.sql d).spelling d ++ back) = (Sql.dotted column).spelling d ++ [] := by
    calc front ++ ((e.sql d).spelling d ++ back)
      _ = (c.sql d (e.sql d)).spelling d := by rw [text, List.append_assoc]
      _ = (Sql.dotted column).spelling d := String.ofList_injective same
      _ = (Sql.dotted column).spelling d ++ [] := (List.append_nil _).symm
  exact around.ne_dotted begins

namespace Query

/-- Whether each value that a column has been given is a change of another. -/
def Changes (q : Query) : Prop :=
  ∀ column e, q.transform? column = some e → ∃ e' c, e = .changed e' c

/-- In a reachable query every transform is a change. -/
lemma changes_of_reachable {q : Query} (h : Reachable q) : q.Changes := by
  intro column value given
  obtain ⟨changes, records⟩ := exists_records_of_reachable h
  rw [records.transform?] at given
  split at given
  next => cases given
  next some =>
    obtain ⟨cs, c, last⟩ := (changes column).eq_nil_or_concat.resolve_left some
    rw [last, List.concat_eq_append, Expr.given_concat] at given
    cases given
    exact ⟨_, c, rfl⟩

/-- The select list has an entry for each listed column and the other items, in some order. The entry
for a changed column shows what a reference to the column means exactly if the query is grouped or the
name has no dots; otherwise it shows the column as it was. -/
theorem shownItems_changed {q : Query} (h : Reachable q) (d : Dialect)
    (known : Option (List String)) :
    (q.shownItems d known).Perm ((q.listedColumns known).map q.entry ++ q.otherItems) ∧
      ∀ column e, q.transform? column = some e →
        q.reference column = e ∧
          (((q.entry column).value.sql d).text d = (e.sql d).text d ↔
            q.grouping.isSome = true ∨ Sql.isDotted column = false) ∧
          (q.grouping.isSome = false → Sql.isDotted column = true →
            (q.entry column).value = .expr (.name column)) := by
  refine ⟨shownItems_perm, fun column e value => ⟨by rw [reference, value]; rfl, ?_, ?_⟩⟩
  · cases grouped : q.grouping.isSome with
    | true => simp [entry, grouped, groupedItem, value, ItemValue.sql]
    | false =>
      cases dotted : Sql.isDotted column with
      | false => simp [entry, grouped, columnItem, dotted, value, ItemValue.sql]
      | true =>
        -- the entry is a name and the value, in a reachable query, a change
        obtain ⟨e', c, rfl⟩ := changes_of_reachable h column e value
        have other := Expr.text_changed_ne (d := d) e' c column
        simp [entry, grouped, columnItem, dotted, ItemValue.sql, other.symm]
  · intro grouped dotted
    simp [entry, grouped, columnItem, dotted]

/-- A grouped list shows the trimmed column of a joined table as it is referred to. -/
theorem shownItems_changed_grouped :
    let join : Step := .join "shops" none none none [⟨"shop", "id"⟩] ["city"]
    let trim : Step := .trim "j1.city" .both
    let q := ((((({} : Query).apply "" join).1.apply "" trim).1).apply "" (.groupBy ["j1.city"] [])).1
    let trimmed : Expr := .changed (.field "j1.city") (.trim .both)
    Reachable q ∧ q.transform? "j1.city" = some trimmed ∧ q.reference "j1.city" = trimmed ∧
      ((q.entry "j1.city").value.sql .mysql).text .mysql = (trimmed.sql .mysql).text .mysql := by
  intro join trim q trimmed
  have reachable : Reachable q := .apply "" _ (.apply "" trim (.apply "" join .empty))
  have value : q.transform? "j1.city" = some trimmed := by decide +kernel
  obtain ⟨reference, same, -⟩ := (shownItems_changed reachable .mysql none).2 _ _ value
  exact ⟨reachable, value, reference, same.2 (.inl rfl)⟩

/-- A list that is not grouped shows the same column untrimmed. -/
theorem shownItems_changed_dotted :
    let join : Step := .join "shops" none none none [⟨"shop", "id"⟩] ["city"]
    let trim : Step := .trim "j1.city" .both
    let q := ((((({} : Query).apply "" (.select ["size"])).1.apply "" join).1).apply "" trim).1
    let trimmed : Expr := .changed (.field "j1.city") (.trim .both)
    Reachable q ∧ q.listedColumns none = ["size", "j1.city"] ∧
      q.transform? "j1.city" = some trimmed ∧ q.reference "j1.city" = trimmed ∧
      ((q.entry "j1.city").value.sql .postgres).text .postgres = "\"j1\".\"city\"" ∧
      (trimmed.sql .postgres).text .postgres = "TRIM(\"j1\".\"city\")" := by
  intro join trim q trimmed
  refine ⟨.apply "" trim (.apply "" join (.apply "" _ .empty)), ?_⟩
  decide +kernel

end Query

end QueryRecipe
