import QueryRecipe.Proofs.Query.Entries
import QueryRecipe.Proofs.Query.History
import QueryRecipe.Proofs.Statement.TrailingName

/-!
# Every item is found by its name

Items are put in order by the names that are read off their texts. What the name of an item is can be said
without its text (`Query.ItemName`): the alias of a computed column, an aggregate, a changed or a renamed
column, and for any other column the last part of its name. Reading the text gives just this name, of every
item but the wildcard (`Query.itemName_iff`), whatever quotes, blanks and dots are in the names and whatever
expression stands before an alias.
-/

namespace QueryRecipe

namespace Query

/-- The items of a select list, other than the wildcard, with their names in the result. A column has an
alias where its entry shows a change to it or a new name. -/
inductive ItemName (q : Query) (known : Option (List String)) : SelectItem → String → Prop where
  | added {a} :
    a ∈ q.added →
    ItemName q known ⟨.written a.expression, some a.label⟩ a.label
  | aggregate {g a} :
    q.grouping = some g →
    a ∈ g.aggregates →
    ItemName q known (q.aggregateItem a) a.label
  | changed {column e} :
    column ∈ q.listedColumns known →
    q.transform? column = some e →
    ItemName q known ⟨.expr e, some (q.outputName column)⟩ (q.outputName column)
  | renamed {column label} :
    column ∈ q.listedColumns known →
    q.renames.get? column = some label →
    ItemName q known ⟨.expr (.field column), some label⟩ label
  | field {column} :
    column ∈ q.listedColumns known →
    ItemName q known ⟨.expr (.field column), none⟩ (Sql.lastPart column)
  | name {column} :
    column ∈ q.listedColumns known →
    ItemName q known ⟨.expr (.name column), none⟩ (Sql.lastPart column)

section ItemName
variable {q : Query} {known : Option (List String)} {d : Dialect} {i : SelectItem} {name : String}

/-- The name of an item is read off its text. -/
lemma ItemName.ofText (h : q.ItemName known i name) :
    TrailingName.ofText ((i.sql d).spelling d) = name := by
  cases h with
  | added | aggregate | changed | renamed => exact SelectItem.ofText_label rfl
  | name => exact TrailingName.ofText_dotted
  | @field column =>
    cases dotted : Sql.isDotted column with
    | true =>
      have whole : Sql.qualified column = Sql.dotted column := by simp [Sql.qualified, dotted]
      show TrailingName.ofText ((Sql.qualified column).spelling d) = _
      rw [whole, TrailingName.ofText_dotted]
    | false =>
      rw [Sql.lastPart_of_plain dotted]
      exact TrailingName.ofText_own dotted

/-- The entry for a listed column has a name. -/
lemma exists_itemName_entry {column : String} (listed : column ∈ q.listedColumns known) :
    ∃ name, q.ItemName known (q.entry column) name := by
  rw [entry, groupedItem, columnItem]
  split
  · cases value : q.transform? column with
    | some e => exact ⟨_, .changed listed value⟩
    | none => exact ⟨_, .name listed⟩
  · split
    · exact ⟨_, .name listed⟩
    · cases value : q.transform? column with
      | some e => exact ⟨_, .changed listed value⟩
      | none =>
        dsimp only
        cases label : q.renames.get? column with
        | some l => exact ⟨_, .renamed listed label⟩
        | none => exact ⟨_, .field listed⟩

/-- Every item but the wildcard has a name. -/
lemma exists_itemName (shown : i ∈ q.shownItems d known) (own : i ≠ ⟨.everything, none⟩) :
    ∃ name, q.ItemName known i name := by
  cases List.mem_append.1 (shownItems_perm.subset shown) with
  | inl entry =>
    obtain ⟨column, listed, rfl⟩ := List.mem_map.1 entry
    exact exists_itemName_entry listed
  | inr other =>
    rw [otherItems] at other
    cases grouped : q.grouping with
    | some g =>
      rw [grouped] at other
      obtain ⟨a, among, rfl⟩ := List.mem_map.1 other
      exact ⟨_, .aggregate grouped among⟩
    | none =>
      rw [grouped] at other
      cases List.mem_append.1 other with
      | inl wildcard =>
        split at wildcard
        · exact absurd (List.mem_singleton.1 wildcard) own
        · cases wildcard
      | inr computed =>
        obtain ⟨a, among, rfl⟩ := List.mem_map.1 computed
        exact ⟨_, .added among⟩

end ItemName

/-- For every item of a select list but the wildcard, the name that is read off its text is its name in
the result, and its only one. -/
theorem itemName_iff (q : Query) (d : Dialect) (known : Option (List String)) (i : SelectItem)
    (shown : i ∈ q.shownItems d known) (own : i ≠ ⟨.everything, none⟩) (name : String) :
    q.ItemName known i name ↔ TrailingName.ofText ((i.sql d).spelling d) = name := by
  refine ⟨ItemName.ofText, ?_⟩
  rintro rfl
  obtain ⟨name, named⟩ := exists_itemName shown own
  rwa [named.ofText]

/-- The expression ends like an alias, its alias is made of a dot and delimiters, and so is the name behind
a dot; the other alias has quotes that are no delimiters around what stands before an alias. -/
theorem itemName_quoted :
    let q : Query := {
      columns := .explicit ["a", "b.``"]
      renames := .ofList [("a", "\" AS \"")]
      added := [⟨"price || ' AS `x`'", "`.`"⟩] }
    let renamed : SelectItem := ⟨.expr (.field "a"), some "\" AS \""⟩
    let dotted : SelectItem := ⟨.expr (.name "b.``"), none⟩
    let computed : SelectItem := ⟨.written "price || ' AS `x`'", some "`.`"⟩
    let read (i : SelectItem) := TrailingName.ofText ((i.sql .mysql).spelling .mysql)
    q.shownItems .mysql none = [renamed, dotted, computed] ∧
      (∀ i ∈ [renamed, dotted, computed], i ≠ ⟨.everything, none⟩) ∧
      read renamed = "\" AS \"" ∧ read dotted = "``" ∧ read computed = "`.`" := by
  intro q renamed dotted computed read
  have items : q.shownItems .mysql none = [renamed, dotted, computed] := by decide +kernel
  have own : ∀ i ∈ [renamed, dotted, computed], i ≠ ⟨.everything, none⟩ := by decide +kernel
  have listed : ["a", "b.``"] = q.listedColumns none := rfl
  have last : Sql.lastPart "b.``" = "``" := by decide +kernel
  have reads (i : SelectItem) (mem : i ∈ [renamed, dotted, computed]) (name : String) :
      q.ItemName none i name ↔ read i = name :=
    itemName_iff q .mysql none i (items ▸ mem) (own i mem) name
  refine ⟨items, own, (reads renamed (by simp) _).1 ?_, (reads dotted (by simp) _).1 ?_,
    (reads computed (by simp) _).1 ?_⟩
  · exact .renamed (listed ▸ by simp) (by decide +kernel)
  · exact last ▸ .name (listed ▸ by simp)
  · have among : ⟨"price || ' AS `x`'", "`.`"⟩ ∈ q.added := List.mem_singleton_self _
    exact .added among

end Query

end QueryRecipe
