import QueryRecipe.Proofs.Compile.Commuting
import QueryRecipe.Proofs.Compile.Stock
import QueryRecipe.Proofs.Compile.Unions
import QueryRecipe.Proofs.Query.Mask
import QueryRecipe.Proofs.Recipe.Nesting
import QueryRecipe.Proofs.Statement.Common
import QueryRecipe.Proofs.Step.Footprint

/-!
# Recipes that SQLite and PostgreSQL compile alike

The query of a recipe is the same in all dialects, and its statement depends on the dialect only where
rows are told apart on some columns (`Query.statement_common`). So recipes whose statements avoid what the
two dialects write differently compile to the same text in both, and they are rejected alike
(`compile_common`).
-/

namespace QueryRecipe

open Text (Blank isBlank)

/-- How repeated rows are removed by a step that lists these columns. -/
def Dedup.by (columns : List String) : Dedup :=
  match Text.nonblanks columns with
  | [] => .rows
  | columns => .on columns

namespace Step

/-- The columns that a step lists for rows to be told apart on, if it removes repeated rows. -/
def distinctBy? : Step → Option (List String)
  | .deduplicate columns => some columns
  | _ => none

/-- The window that a step asks for, if it does. -/
def page? : Step → Option Page
  | .limit count offset => some ⟨count, offset⟩
  | _ => none

section Edits
variable {schema : String} {s : Step}

/-- A step that removes repeated rows says which, and any other leaves this as it was. -/
lemma dedup_edits (schema : String) (q : Query) (s : Step) :
    (q.edits (s.resolve schema).edits).dedup = s.distinctBy?.elim q.dedup .by := by
  cases removes : s.distinctBy? with
  | none =>
    have unwritten : .dedup ∉ s.writes := by
      cases s with
      | deduplicate => cases removes
      | _ => simp [writes]
    exact (agreeOn_edits unwritten : Query.AgreeOn .dedup _ q)
  | some columns =>
    cases s with
    | deduplicate =>
      cases removes
      rw [resolve, Option.elim_some, Dedup.by]
      cases Text.nonblanks columns <;> rfl
    | _ => cases removes

/-- A step that asks for a window sets it, and any other leaves it as it was. -/
lemma page_edits (schema : String) (q : Query) (s : Step) :
    (q.edits (s.resolve schema).edits).page = s.page?.elim q.page some := by
  cases asks : s.page? with
  | none =>
    have unwritten : .page ∉ s.writes := by
      cases s with
      | limit => cases asks
      | _ => simp [writes]
    exact (agreeOn_edits unwritten : Query.AgreeOn .page _ q)
  | some p =>
    cases s with
    | limit =>
      cases asks
      rfl
    | _ => cases asks

/-- Only unions add tables. -/
lemma unions_not_mem_writes (h : s.isUnion = false) : .unions ∉ s.writes := by
  cases s with
  | union => cases h
  | _ => simp [writes]

/-- Only sorts add sort terms. -/
lemma order_not_mem_writes (h : ∀ keys, s ≠ .sort keys) : .order ∉ s.writes := by
  cases s with
  | sort keys => exact absurd rfl (h keys)
  | _ => simp [writes]

/-- The change of a replacement without truth values is one that both dialects write alike. -/
lemma replacement_common {old : Option String} {new : Literal} {expression : Option String}
    (h : new.Truthless) : (replacement old new expression).Common := by
  rw [replacement.eq_def]
  cases givenWord? expression with
  | none => cases old <;> exact h
  | some e => cases old <;> trivial

/-- A step without truth values and title case brings in what both dialects write alike. -/
lemma covers_common (truthless : ∀ v ∈ s.literals, v.Truthless)
    (untitled : ∀ column, s ≠ .recase column (some .title)) : Stock.common.Covers s where
  columns _ _ := trivial
  change e made := by
    cases s with
    | cast | trim =>
      obtain rfl := Option.some.inj made
      trivial
    | replace column old new expression =>
      obtain rfl := Option.some.inj made
      exact replacement_common (truthless new List.mem_cons_self)
    | recase column mode =>
      obtain ⟨mode, rfl, ⟨⟩⟩ := Option.map_eq_some_iff.1 made
      rintro rfl
      exact untitled column rfl
    | fillNull column value emptyToo =>
      obtain rfl := Option.some.inj made
      exact truthless value List.mem_cons_self
    | _ => cases made
  operands c listed comparison _ := by
    cases s with
    | filter conditions connective => exact (truthless _ (List.mem_map_of_mem listed)).written
    | _ => cases listed

end Edits

end Step

/-- The window of a recipe's statement: that of its last limit step, or else the caller's. -/
def pageAfter (steps : List Step) (page : Page) : Page :=
  (steps.filterMap Step.page?).getLast?.getD page

namespace Query

section Statement
variable {q : Query} {source : Source} {page : Page} {known : Option (List String)}

/-- Entries are arranged alike by names that are the same for each of them. -/
lemma arrange_congr {α : Type} {nameOf nameOf' : α → String} {names : List String} {entries : List α}
    (same : ∀ a ∈ entries, nameOf a = nameOf' a) :
    arrange nameOf names entries = arrange nameOf' names entries := by
  have mapped : arrange nameOf names (entries.map id) = (arrange nameOf' names entries).map id :=
    arrange_map same
  rwa [List.map_id, List.map_id] at mapped

/-- The statement is the same in both dialects, if rows are not told apart on columns. -/
lemma statement_common (made : q.From .common) (rows : ∀ columns, q.dedup ≠ .on columns) :
    q.statement .sqlite source page known = q.statement .postgres source page known := by
  have head : q.head .sqlite = q.head .postgres := by
    rw [Query.head, Query.head]
    cases e : q.dedup with
    | off | rows => rfl
    | on columns => exact absurd e (rows columns)
  have items : q.shownItems .sqlite known = q.shownItems .postgres known := by
    rw [shownItems, shownItems]
    cases q.display with
    | none => rfl
    | some names =>
      -- the items are found by their texts, and these are the same
      refine arrange_congr fun i mem => congrArg TrailingName.ofText ?_
      exact SelectItem.alike (made.items (fun _ _ => trivial) i mem)
  have groupBy : q.groupBy .sqlite = q.groupBy .postgres := by
    rw [groupBy.eq_def, groupBy.eq_def]
    cases e : q.dedup with
    | off | rows => cases q.grouping <;> rfl
    | on columns => exact absurd e (rows columns)
  have orderBy : q.orderBy .sqlite = q.orderBy .postgres := by
    rw [Query.orderBy, Query.orderBy]
    cases e : q.dedup with
    | off | rows => rfl
    | on columns => exact absurd e (rows columns)
  rw [statement, statement, head, items, groupBy, orderBy]

end Statement

end Query

/-- Without truth values, title case, rows told apart on columns, rows passed over without a limit, and
sorted or cut unions, a recipe compiles to the same text in SQLite and in PostgreSQL, or is rejected with
the same fault. -/
theorem compile_common (table schema : String) (steps : List Step) (page : Page)
    (known : Option (List String)) (truthless : ∀ s ∈ steps, ∀ v ∈ s.literals, v.Truthless)
    (untitled : ∀ column, .recase column (some .title) ∉ steps)
    (rows : ∀ columns ∈ (steps.filterMap Step.distinctBy?).getLast?, ∀ c ∈ columns, Blank c)
    (bounded : (pageAfter steps page).Bounded)
    (single : (∀ s ∈ steps, s.isUnion = false) ∨
      (∀ keys, .sort keys ∉ steps) ∧ (pageAfter steps page).isAll = true) :
    (compile .sqlite table schema steps page known).map (Sql.text .sqlite) =
      (compile .postgres table schema steps page known).map (Sql.text .postgres) := by
  by_cases blank : Blank table
  · simp only [compile_blank blank, Except.map]
  simp only [compile_present blank]
  cases run : Query.ofSteps (Text.trim schema) steps with
  | error fault =>
    show Except.error fault = Except.error fault
    rfl
  | ok q =>
    have covers (s) (mem : s ∈ steps) : Stock.common.Covers s :=
      Step.covers_common (truthless s mem) fun column same => untitled column (same ▸ mem)
    have made : q.From .common := (Query.applyFrom_from run).2 .empty covers fun _ _ _ _ => trivial
    have dedup : ∀ columns, q.dedup ≠ .on columns := by
      rw [Query.last_applyFrom (·.dedup) (fun q s _ => Step.dedup_edits _ q s) run]
      cases last : (steps.filterMap Step.distinctBy?).getLast? with
      | none => exact nofun
      | some columns =>
        have none : Text.nonblanks columns = [] := by
          by_contra some
          obtain ⟨c, mem, present⟩ := Text.nonblanks_ne_nil_iff.1 some
          exact present (rows columns last c mem)
        rw [Option.elim_some, Dedup.by, none]
        exact nofun
    have window : q.page.getD page = pageAfter steps page := by
      rw [Query.last_applyFrom (·.page) (fun q s _ => Step.page_edits _ q s) run]
      exact congrArg (Option.getD · page) (Option.elim_none_some id _)
    have common : (q.statement .postgres ⟨Text.trim schema, Text.trim table⟩ page known).Common := by
      refine ⟨made.statement fun _ _ => trivial, ?_, single.imp (fun others => ?_) fun uncut => ?_⟩
      · show (q.page.getD page).Bounded
        rwa [window]
      · have none : ∀ s ∈ steps, .unions ∉ s.writes := fun s mem =>
          Step.unions_not_mem_writes (others s mem)
        exact (Query.agreeOn_applyFrom none run : Query.AgreeOn .unions q {})
      · obtain ⟨unsorted, whole⟩ := uncut
        have none : ∀ s ∈ steps, .order ∉ s.writes := fun s mem =>
          Step.order_not_mem_writes fun keys same => unsorted keys (same ▸ mem)
        have order : q.order = [] := (Query.agreeOn_applyFrom none run : Query.AgreeOn .order q {})
        have page : (q.page.getD page).isAll = true := by rwa [window]
        rw [Statement.isCut, Query.statement, Query.orderBy]
        cases e : q.dedup with
        | off | rows => simp [order, page]
        | on columns => exact absurd e (dedup columns)
    refine congrArg Except.ok (congrArg String.ofList ?_)
    rw [Query.statement_common made dedup]
    exact common.alike

/-- An earlier step tells rows apart on a column, and the window of an earlier step has no limit; a list
is compared and filled in. -/
theorem compile_common_last :
    let steps : List Step := [.deduplicate ["name"], .limit none (some 5), .trim "name" .both,
      .filter [⟨"size", some "not in", .list [.int 1, .list [.null, .string "a\"b"]]⟩,
        ⟨"name", some "like", .string "O'%"⟩] (some "or"),
      .fillNull "name" (.list [.string "x", .double (.ofInt 2)]) true,
      .join "sizes" (some "shop") (some "inner") none [⟨"size", "id"⟩] ["label"],
      .sort [⟨"name", some "desc"⟩], .deduplicate [" "], .reorder ["name"], .recase "name" (some .upper),
      .limit (some 10) (some 5)]
    (∀ s ∈ steps, ∀ v ∈ s.literals, v.Truthless) ∧
      (∀ column, .recase column (some .title) ∉ steps) ∧
      (∀ columns ∈ (steps.filterMap Step.distinctBy?).getLast?, ∀ c ∈ columns, Blank c) ∧
      (pageAfter steps {}).Bounded ∧ (∀ s ∈ steps, s.isUnion = false) ∧
      (compile .sqlite "people" "shop" steps {} none).isOk = true ∧
      (compile .sqlite "people" "shop" steps {} none).map (Sql.text .sqlite) =
        (compile .postgres "people" "shop" steps {} none).map (Sql.text .postgres) := by
  intro steps
  have truthless : ∀ s ∈ steps, ∀ v ∈ s.literals, v.Truthless := by
    simp [steps, Step.literals, Literal.Truthless, Literal.TruthlessAll]
  have untitled : ∀ column, .recase column (some .title) ∉ steps := by simp [steps]
  have last : (steps.filterMap Step.distinctBy?).getLast? = some [" "] := rfl
  have rows : ∀ columns ∈ (steps.filterMap Step.distinctBy?).getLast?, ∀ c ∈ columns, Blank c := by
    simp [last, Blank, isBlank]
  have bounded : (pageAfter steps {}).Bounded := by
    intro none
    cases none
  have single : ∀ s ∈ steps, s.isUnion = false := by simp [steps, Step.isUnion]
  exact ⟨truthless, untitled, rows, bounded, single, by decide +kernel,
    compile_common "people" "shop" steps {} none truthless untitled rows bounded (.inl single)⟩

/-- Each of the conditions is needed: without it the texts may differ. -/
example :
    let filter (v : Literal) : Step := .filter [⟨"a", some "in", v⟩] none
    let cases : List (List Step) := [[filter (.list [.list [.bool true]])],
      [.recase "a" (some .title)], [.deduplicate ["a"]], [.limit none (some 1)],
      [.union "s" none true, .sort [⟨"a", none⟩]], [.union "s" none true, .limit (some 1) none]]
    ∀ steps ∈ cases, (compile .sqlite "t" "" steps {} none).map (Sql.text .sqlite) ≠
      (compile .postgres "t" "" steps {} none).map (Sql.text .postgres) := by
  decide +kernel

end QueryRecipe
