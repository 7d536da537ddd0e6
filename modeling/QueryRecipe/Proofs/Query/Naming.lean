import QueryRecipe.Proofs.Query.Entries
import QueryRecipe.Proofs.Statement.TrailingName
import QueryRecipe.Proofs.Step.Reachable

/-!
# The names of the columns in the result

The name of an entry of the select list is read off its text. It is the label of a renamed column, and
otherwise the whole name of a changed column and the last part of the name of another
(`Query.properName`), if the entry sees to that: in a grouped query only the entries for changed columns
do, in any other only those for columns without dots (`Query.namesEntry`). All other entries have the
last part of the column's name, whether or not the column has been renamed (`Query.shownItems_names`).
-/

namespace QueryRecipe

namespace Query

/-- The name that a column should have in the result: its label if it is renamed, or else its whole name
if it is changed, and the last part of its name if it is not. -/
def properName (q : Query) (column : String) : String :=
  (q.renames.get? column).getD
    (if (q.transform? column).isSome then column else Sql.lastPart column)

/-- Whether the entry for a column sees to its name: in a grouped query that of a changed column does,
in any other that of a column without dots. -/
def namesEntry (q : Query) (column : String) : Bool :=
  if q.grouping.isSome then (q.transform? column).isSome else !Sql.isDotted column

section Names
variable {q : Query} {d : Dialect} {column : String}

/-- A changed column is properly named by its output name. -/
lemma properName_changed {e : Expr} (value : q.transform? column = some e) :
    q.properName column = q.outputName column := by
  rw [properName, value, Option.isSome_some, if_pos rfl, outputName]

/-- In a grouped query a changed column has its name, and any other the last part of it. -/
lemma name_groupedItem : TrailingName.ofText (((q.groupedItem column).sql d).spelling d) =
    if (q.transform? column).isSome then q.properName column else Sql.lastPart column := by
  rw [groupedItem]
  cases value : q.transform? column with
  | none => exact TrailingName.ofText_dotted
  | some e =>
    rw [Option.isSome_some, if_pos rfl, properName_changed value]
    exact SelectItem.ofText_label rfl

/-- In a query that is not grouped a column without dots has its name, and any other the last part of
it. -/
lemma name_columnItem : TrailingName.ofText (((q.columnItem column).sql d).spelling d) =
    if Sql.isDotted column then Sql.lastPart column else q.properName column := by
  rw [columnItem]
  cases dotted : Sql.isDotted column with
  | true => exact TrailingName.ofText_dotted
  | false =>
    rw [if_neg (by simp), if_neg (by simp)]
    cases value : q.transform? column with
    | some e =>
      rw [properName_changed value]
      exact SelectItem.ofText_label rfl
    | none =>
      rw [properName, value, Option.isSome_none, if_neg (by simp), Sql.lastPart_of_plain dotted]
      cases q.renames.get? column with
      | some label => exact SelectItem.ofText_label rfl
      | none => exact TrailingName.ofText_own dotted

end Names

/-- The select list has an entry for each listed column and the other items, in some order. The name of
the entry for a column is the proper one if the entry sees to it, and otherwise the last part of the name
of the column. -/
theorem shownItems_names (q : Query) (d : Dialect) (known : Option (List String)) :
    (q.shownItems d known).Perm ((q.listedColumns known).map q.entry ++ q.otherItems) ∧
      ∀ column, TrailingName.ofText (((q.entry column).sql d).spelling d) =
        if q.namesEntry column then q.properName column else Sql.lastPart column := by
  refine ⟨shownItems_perm, fun column => ?_⟩
  cases grouped : q.grouping.isSome with
  | true => simp [entry, namesEntry, grouped, name_groupedItem]
  | false => cases dotted : Sql.isDotted column <;> simp [entry, namesEntry, grouped, dotted, name_columnItem]

/-- A column of a joined table keeps its name in a list, and a column that is not changed keeps it in a
grouped list, although both are renamed. -/
theorem shownItems_names_lost :
    let rename : Step := .rename (.ofList [("status", "state"), ("j1.city", "town")])
    let join : Step := .join "shops" none none none [⟨"shop", "id"⟩] ["city"]
    let listed := ((((({} : Query).apply "" (.select ["size"])).1.apply "" join).1).apply "" rename).1
    let grouped := ((({} : Query).apply "" rename).1.apply "" (.groupBy ["status"] [])).1
    let name (q : Query) (column : String) :=
      TrailingName.ofText (((q.entry column).sql .postgres).spelling .postgres)
    Reachable listed ∧ Reachable grouped ∧ listed.listedColumns none = ["size", "j1.city"] ∧
      listed.renames.get? "j1.city" = some "town" ∧ name listed "j1.city" = "city" ∧
      grouped.listedColumns none = ["status"] ∧ grouped.renames.get? "status" = some "state" ∧
      name grouped "status" = "status" := by
  intro rename join listed grouped name
  refine ⟨.apply "" rename (.apply "" join (.apply "" _ .empty)),
    .apply "" _ (.apply "" rename .empty), ?_⟩
  decide +kernel

end Query

end QueryRecipe
