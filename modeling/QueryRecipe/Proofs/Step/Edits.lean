import QueryRecipe.Proofs.Query.Edit
import QueryRecipe.Proofs.Step.WellFormed

/-!
# What a step comes to

Every edit of a step is one that it asks for, with the names trimmed and the words read (`Step.Asks`,
`asks_of_mem`). Of a step without fault, as far as transforms, filters and sort terms go, more is known:
it changes one column, or it is a filter or a sort step, or its edits leave all three alone
(`edits_change`, `edits_filter`, `edits_sort`, `edits_isQuiet`).
-/

namespace QueryRecipe

/-- Without fault the edits are all there. -/
lemma Resolution.eq_ok_of_whole {x : Except StepFault (List Edit)} (fine : (whole x).fault = none) :
    x = .ok (whole x).edits := by
  obtain ⟨es, rfl⟩ := whole_fault.1 fine
  rfl

/-- An edit of a step that counts as a whole is one that it is resolved to. -/
lemma Resolution.mem_whole {x : Except StepFault (List Edit)} {e} (h : e ∈ (whole x).edits) :
    ∃ es, x = .ok es ∧ e ∈ es := by
  cases x with
  | ok es => exact ⟨es, rfl, h⟩
  | error f => cases h

/-- An edit of a step that is resolved entry by entry comes from one of the entries. -/
lemma Resolution.mem_each {α : Type} {resolve : α → Except StepFault (List Edit)} {l : List α} {e}
    (h : e ∈ (each resolve l).edits) : ∃ a ∈ l, ∃ es, resolve a = .ok es ∧ e ∈ es := by
  induction l with
  | nil => cases h
  | cons a l ih =>
    rw [each] at h
    cases first : resolve a with
    | error f =>
      rw [first] at h
      cases h
    | ok es =>
      rw [first] at h
      cases List.mem_append.1 h with
      | inl now => exact ⟨a, List.mem_cons_self, es, first, now⟩
      | inr later =>
        obtain ⟨b, mem, rest⟩ := ih later
        exact ⟨b, List.mem_cons_of_mem a mem, rest⟩

namespace Step

/-- The change of a replace step: a blank expression counts like none. -/
def replacement (old : Option String) (new : Literal) (expression : Option String) : Change :=
  let new : Replacement := match givenWord? expression with
    | some e => .expression e
    | none => .literal new
  match old with
  | some old => .substitute old new
  | none => .coalesce new

/-- The column that a step changes, and the change. -/
def change? : Step → Option (String × Change)
  | .cast column dataType => some (Text.trim column, .cast (Text.trim dataType))
  | .replace column old new expression =>
    some (Text.trim column, replacement old new expression)
  | .trim column side => some (Text.trim column, .trim side)
  | .recase column mode => mode.map fun mode => (Text.trim column, .recase mode)
  | .fillNull column value emptyToo => some (Text.trim column, .fill value emptyToo)
  | _ => none

/-- The tests of a filter step: its conditions that have a column. -/
def tests (conditions : List FilterCondition) : List Test :=
  conditions.filterMap fun c => do
    let _ ← Text.nonblank? c.column
    let comparison ← (Comparison.ofText (c.comparison.getD "")).toOption
    return ⟨c.column, comparison, c.operand⟩

/-- The keys of a sort step that have a column. -/
def sortKeys (keys : List SortKey) : List (String × Direction) :=
  keys.filterMap fun k => do
    let _ ← Text.nonblank? k.column
    let direction ← (Direction.ofText k.direction).toOption
    return (k.column, direction)

/-- An edit that a step asks for, with its names trimmed and its words read. -/
inductive Asks (schema : String) : Step → Edit → Prop where
  | select {columns} : Asks schema (.select columns) (.select (Text.nonblanks columns))
  | rename {mapping entry} (listed : entry ∈ mapping.entries) :
    Asks schema (.rename mapping) (.rename (Text.trim entry.1) (Text.trim entry.2))
  | reorder {columns} : Asks schema (.reorder columns) (.reorder (Text.nonblanks columns))
  | change {s column change} (made : s.change? = some (column, change)) :
    Asks schema s (.change column change)
  | addColumn {name expression label written} (named : givenWord? name = some label)
    (given : givenWord? expression = some written) :
    Asks schema (.addColumn name expression) (.add ⟨Text.trim written, label⟩)
  | dropColumn {columns} : Asks schema (.dropColumn columns) (.drop (Text.nonblanks columns))
  | filter {conditions connective k} (known : Connective.ofText connective = .ok k) :
    Asks schema (.filter conditions connective) (.filter k (tests conditions))
  | sort {keys key direction} (listed : key ∈ keys)
    (known : Direction.ofText key.direction = .ok direction) :
    Asks schema (.sort keys) (.sort key.column direction)
  | rows {columns} (none : Text.nonblanks columns = []) :
    Asks schema (.deduplicate columns) (.dedup .rows)
  | deduplicate {columns} :
    Asks schema (.deduplicate columns) (.dedup (.on (Text.nonblanks columns)))
  | limit {count offset} : Asks schema (.limit count offset) (.page ⟨count, offset⟩)
  | join {table joinSchema kind label keys columns k pairs}
    (known : JoinKind.ofText kind = .ok k)
    (paired : pairs = [] ∨ keys.mapM resolveJoinKey = .ok pairs) :
    Asks schema (.join table joinSchema kind label keys columns)
      (.join k (schemaOr schema joinSchema) (Text.trim table) (givenWord? label) pairs
        (Text.nonblanks columns))
  | union {table unionSchema all} :
    Asks schema (.union table unionSchema all)
      (.union ⟨schemaOr schema unionSchema, Text.trim table, all⟩)
  | groupBy {columns aggregations aggregates}
    (made : aggregations.mapM resolveAggregation = .ok aggregates) :
    Asks schema (.groupBy columns aggregations) (.group ⟨Text.nonblanks columns, aggregates⟩)

/-- What a step must have is taken trimmed. -/
lemma needed_eq_ok {d s t} (h : needed d s = .ok t) : t = Text.trim s := by
  rw [needed] at h
  cases present : Text.nonblank? s with
  | none =>
    rw [present] at h
    cases h
  | some u =>
    rw [present] at h
    cases h
    exact (Text.nonblank?_eq_some_iff.1 present).1.symm

/-- A change that can be resolved is made to the trimmed column. -/
lemma changing_eq_ok {column change es} (h : changing column change = .ok es) :
    ∃ c, change = .ok c ∧ es = [.change (Text.trim column) c] := by
  obtain ⟨name, present, rest⟩ := bind_eq_ok.1 h
  obtain ⟨c, e, ⟨⟩⟩ := bind_eq_ok.1 rest
  exact ⟨c, e, by rw [needed_eq_ok present]⟩

/-- An accepted expression is written as it was given, trimmed. -/
lemma checked_screen_eq_ok {s t} (h : checked (screen s) = .ok t) : t = Text.trim s :=
  (screen_eq_ok_iff.1 (checked_eq_ok.1 h)).1

/-- A replacement that can be resolved writes its expression as it was given, trimmed. -/
lemma replacing_eq_ok {old new expression c} (h : replacing old new expression = .ok c) :
    c = replacement old new expression := by
  rw [replacing] at h
  cases given : givenWord? expression with
  | none =>
    rw [given] at h
    cases old with
    | none | some =>
      cases h
      simp [replacement, given]
  | some e =>
    obtain ⟨u, rfl, rfl, -⟩ := givenWord?_eq_some_iff.1 given
    rw [given] at h
    cases accepted : checked (screen (Text.trim u)) with
    | error r => simp [accepted] at h
    | ok t =>
      have same := checked_screen_eq_ok accepted
      rw [Text.trim_trim] at same
      subst same
      cases old with
      | none | some => simpa [accepted, replacement, given, eq_comm] using h

/-- The tests of a filter step are those that it is resolved to. -/
lemma resolveTests_eq_ok {conditions : List FilterCondition} {ts}
    (h : resolveTests conditions = .ok ts) : ts = tests conditions := by
  induction conditions generalizing ts with
  | nil =>
    cases h
    rfl
  | cons c rest ih =>
    rw [resolveTests] at h
    rw [tests, List.filterMap_cons]
    cases present : Text.nonblank? c.column with
    | none =>
      simp only [present] at h
      exact ih h
    | some t =>
      simp only [present] at h
      obtain ⟨comparison, known, h⟩ := bind_eq_ok.1 h
      obtain ⟨later, e, ⟨⟩⟩ := bind_eq_ok.1 h
      rw [checked_eq_ok] at known
      simp [known, Except.toOption, ih e, tests]

/-- The keys of a sort step are those that it is resolved to. -/
lemma each_sortKey {keys : List SortKey} (fine : (Resolution.each resolveSortKey keys).fault = none) :
    (Resolution.each resolveSortKey keys).edits = (sortKeys keys).map fun k => .sort k.1 k.2 := by
  induction keys with
  | nil => rfl
  | cons k rest ih =>
    rw [Resolution.each] at fine ⊢
    rw [sortKeys, List.filterMap_cons]
    cases present : Text.nonblank? k.column with
    | none =>
      simp only [resolveSortKey, present] at fine ⊢
      exact ih fine
    | some t =>
      cases known : Direction.ofText k.direction with
      | error r => simp [resolveSortKey, present, known, checked] at fine
      | ok direction =>
        simp only [resolveSortKey, present, known, checked] at fine ⊢
        simpa [Except.toOption, known, sortKeys] using ih fine

/-- A step that makes a change comes to it. -/
lemma edits_changing {column x} (fine : (Resolution.whole (changing column x)).fault = none) :
    ∃ c, x = .ok c ∧
      (Resolution.whole (changing column x)).edits = [.change (Text.trim column) c] :=
  changing_eq_ok (Resolution.eq_ok_of_whole fine)

/-- A step that changes a column comes to that change. -/
lemma edits_change {schema column} {s : Step} {change : Change} (fine : s.fault = none)
    (h : s.change? = some (column, change)) :
    (s.resolve schema).edits = [.change column change] := by
  rw [← resolve_fault schema] at fine
  cases s with
  | cast c dataType =>
    simp only [change?, Option.some.injEq, Prod.mk.injEq] at h
    obtain ⟨rfl, rfl⟩ := h
    rw [resolve] at fine ⊢
    obtain ⟨change, e, edits⟩ := edits_changing fine
    refine edits.trans ?_
    split at e
    · cases e
    · obtain ⟨t, accepted, ⟨⟩⟩ := bind_eq_ok.1 e
      rw [checked_screen_eq_ok accepted]
  | replace c old new expression =>
    simp only [change?, Option.some.injEq, Prod.mk.injEq] at h
    obtain ⟨rfl, rfl⟩ := h
    rw [resolve] at fine ⊢
    obtain ⟨change, e, edits⟩ := edits_changing fine
    rw [replacing_eq_ok e] at edits
    exact edits
  | trim c side =>
    simp only [change?, Option.some.injEq, Prod.mk.injEq] at h
    obtain ⟨rfl, rfl⟩ := h
    rw [resolve] at fine ⊢
    obtain ⟨change, ⟨⟩, edits⟩ := edits_changing fine
    exact edits
  | recase c mode =>
    cases mode with
    | none => cases h
    | some mode =>
      simp only [change?, Option.map_some, Option.some.injEq, Prod.mk.injEq] at h
      obtain ⟨rfl, rfl⟩ := h
      rw [resolve] at fine ⊢
      obtain ⟨change, ⟨⟩, edits⟩ := edits_changing fine
      exact edits
  | fillNull c value emptyToo =>
    simp only [change?, Option.some.injEq, Prod.mk.injEq] at h
    obtain ⟨rfl, rfl⟩ := h
    rw [resolve] at fine ⊢
    obtain ⟨change, ⟨⟩, edits⟩ := edits_changing fine
    exact edits
  | _ => cases h

/-- A filter step comes to one filter with its tests, if it has any. -/
lemma edits_filter (schema : String) {connective} {conditions : List FilterCondition}
    (fine : (Step.filter conditions connective).fault = none) :
    ∃ k, Connective.ofText connective = .ok k ∧
      ((Step.filter conditions connective).resolve schema).edits =
        if tests conditions = [] then [] else [.filter k (tests conditions)] := by
  rw [← resolve_fault schema, resolve] at fine
  rw [resolve]
  obtain ⟨k, known, rest⟩ := bind_eq_ok.1 (Resolution.eq_ok_of_whole fine)
  obtain ⟨ts, e, edits⟩ := bind_eq_ok.1 rest
  rw [resolveTests_eq_ok e] at edits
  exact ⟨k, checked_eq_ok.1 known, (Except.ok.inj edits).symm⟩

/-- A sort step comes to a sort term for each of its keys. -/
lemma edits_sort {schema} {keys : List SortKey} (fine : (Step.sort keys).fault = none) :
    ((Step.sort keys).resolve schema).edits = (sortKeys keys).map fun k => .sort k.1 k.2 :=
  each_sortKey fine

/-- An edit of a step that makes a change is that change. -/
lemma mem_changing {column x e} (mem : e ∈ (Resolution.whole (changing column x)).edits) :
    ∃ c, x = .ok c ∧ e = .change (Text.trim column) c := by
  obtain ⟨es, resolved, mem⟩ := Resolution.mem_whole mem
  obtain ⟨c, made, rfl⟩ := changing_eq_ok resolved
  exact ⟨c, made, List.mem_singleton.1 mem⟩

/-- A join that can be resolved comes to one edit. -/
lemma resolveJoin_eq_ok {schema table joinSchema kind label keys columns es}
    (h : resolveJoin schema table joinSchema kind label keys columns = .ok es) :
    ∃ k pairs, JoinKind.ofText kind = .ok k ∧
      (pairs = [] ∨ keys.mapM resolveJoinKey = .ok pairs) ∧
      es = [.join k (schemaOr schema joinSchema) (Text.trim table) (givenWord? label) pairs
        (Text.nonblanks columns)] := by
  obtain ⟨k, known, h⟩ := bind_eq_ok.1 h
  obtain ⟨t, present, h⟩ := bind_eq_ok.1 h
  rw [needed_eq_ok present] at h
  rw [checked_eq_ok] at known
  split at h
  · cases h
    exact ⟨k, [], known, .inl rfl, rfl⟩
  · split at h
    · cases h
    · obtain ⟨pairs, paired, ⟨⟩⟩ := bind_eq_ok.1 h
      exact ⟨k, pairs, known, .inr paired, rfl⟩

/-- A join step without fault comes to one join. -/
lemma edits_join (schema : String) {table joinSchema kind label keys columns}
    (fine : (join table joinSchema kind label keys columns).fault = none) :
    ∃ k pairs, ((join table joinSchema kind label keys columns).resolve schema).edits =
      [.join k (schemaOr schema joinSchema) (Text.trim table) (givenWord? label) pairs
        (Text.nonblanks columns)] := by
  rw [← resolve_fault schema] at fine
  obtain ⟨k, pairs, -, -, one⟩ := resolveJoin_eq_ok (Resolution.eq_ok_of_whole fine)
  exact ⟨k, pairs, one⟩

/-- Every edit of a step is one that the step asks for. -/
lemma asks_of_mem {schema e} {s : Step} (mem : e ∈ (s.resolve schema).edits) : s.Asks schema e := by
  cases s with
  | select columns =>
    cases present : Text.nonblanks columns with
    | nil => simp [resolve, present, Resolution.whole] at mem
    | cons c rest =>
      simp only [resolve, present, Resolution.whole, List.mem_singleton] at mem
      rw [mem, ← present]
      exact .select
  | rename mapping =>
    obtain ⟨entry, listed, es, resolved, mem⟩ := Resolution.mem_each mem
    obtain ⟨column, present, rest⟩ := bind_eq_ok.1 resolved
    obtain ⟨label, present', ⟨⟩⟩ := bind_eq_ok.1 rest
    cases List.mem_singleton.1 mem
    rw [needed_eq_ok present, needed_eq_ok present']
    exact .rename listed
  | reorder columns =>
    cases List.mem_singleton.1 mem
    exact .reorder
  | cast c dataType =>
    rw [resolve] at mem
    obtain ⟨change, made, rfl⟩ := mem_changing mem
    split at made
    · cases made
    · obtain ⟨t, accepted, ⟨⟩⟩ := bind_eq_ok.1 made
      rw [checked_screen_eq_ok accepted]
      exact .change rfl
  | addColumn name expression =>
    obtain ⟨es, resolved, mem⟩ := Resolution.mem_whole mem
    rw [resolveAddColumn] at resolved
    split at resolved
    next name' expression' named given =>
      obtain ⟨t, accepted, ⟨⟩⟩ := bind_eq_ok.1 resolved
      cases List.mem_singleton.1 mem
      rw [checked_screen_eq_ok accepted]
      exact .addColumn named given
    next => cases resolved
  | dropColumn columns =>
    cases List.mem_singleton.1 mem
    exact .dropColumn
  | filter conditions connective =>
    obtain ⟨es, resolved, mem⟩ := Resolution.mem_whole mem
    obtain ⟨k, known, rest⟩ := bind_eq_ok.1 resolved
    obtain ⟨ts, e, ⟨⟩⟩ := bind_eq_ok.1 rest
    split at mem
    · cases mem
    · cases List.mem_singleton.1 mem
      rw [resolveTests_eq_ok e]
      exact .filter (checked_eq_ok.1 known)
  | sort keys =>
    obtain ⟨key, listed, es, resolved, mem⟩ := Resolution.mem_each mem
    rw [resolveSortKey] at resolved
    split at resolved
    next =>
      cases resolved
      cases mem
    next =>
      obtain ⟨direction, known, ⟨⟩⟩ := bind_eq_ok.1 resolved
      cases List.mem_singleton.1 mem
      exact .sort listed (checked_eq_ok.1 known)
  | deduplicate columns =>
    cases present : Text.nonblanks columns with
    | nil =>
      simp only [resolve, present, Resolution.whole, List.mem_singleton] at mem
      rw [mem]
      exact .rows present
    | cons =>
      simp only [resolve, present, Resolution.whole, List.mem_singleton] at mem
      rw [mem, ← present]
      exact .deduplicate
  | limit count offset =>
    cases List.mem_singleton.1 mem
    exact .limit
  | replace c old new expression =>
    rw [resolve] at mem
    obtain ⟨change, made, rfl⟩ := mem_changing mem
    rw [replacing_eq_ok made]
    exact .change rfl
  | trim c side =>
    rw [resolve] at mem
    obtain ⟨change, ⟨⟩, rfl⟩ := mem_changing mem
    exact .change rfl
  | recase c mode =>
    cases mode with
    | none =>
      rw [resolve] at mem
      obtain ⟨change, ⟨⟩, -⟩ := mem_changing mem
    | some mode =>
      rw [resolve] at mem
      obtain ⟨change, ⟨⟩, rfl⟩ := mem_changing mem
      exact .change rfl
  | fillNull c value emptyToo =>
    rw [resolve] at mem
    obtain ⟨change, ⟨⟩, rfl⟩ := mem_changing mem
    exact .change rfl
  | join table joinSchema kind label keys columns =>
    obtain ⟨es, resolved, mem⟩ := Resolution.mem_whole mem
    obtain ⟨k, pairs, known, paired, rfl⟩ := resolveJoin_eq_ok resolved
    cases List.mem_singleton.1 mem
    exact .join known paired
  | union table unionSchema all =>
    obtain ⟨es, resolved, mem⟩ := Resolution.mem_whole mem
    obtain ⟨t, present, ⟨⟩⟩ := bind_eq_ok.1 resolved
    cases List.mem_singleton.1 mem
    rw [needed_eq_ok present]
    exact .union
  | groupBy columns aggregations =>
    obtain ⟨es, resolved, mem⟩ := Resolution.mem_whole mem
    obtain ⟨aggregates, made, resolved⟩ := bind_eq_ok.1 resolved
    split at resolved
    · cases resolved
    · cases resolved
      cases List.mem_singleton.1 mem
      exact .groupBy made

/-- Other steps leave the transforms, filters and sort terms alone. -/
lemma edits_isQuiet (schema : String) {s : Step} (none : s.change? = none)
    (filter : ∀ conditions connective, s ≠ .filter conditions connective)
    (sort : ∀ keys, s ≠ .sort keys) : ∀ e ∈ (s.resolve schema).edits, e.isQuiet = true := by
  intro e mem
  cases asks_of_mem mem with
  | change made =>
    rw [none] at made
    cases made
  | filter => exact absurd rfl (filter _ _)
  | sort => exact absurd rfl (sort _)
  | _ => rfl

end Step

end QueryRecipe
