import QueryRecipe.Compile
import QueryRecipe.Proofs.Results

/-!
# From steps to edits

To resolve a step is to trim its names, check its words and screen its expressions, without a query. The
result is the edits that the step asks for and, if something is wrong with the step, what that is. A
rename and a sort are resolved entry by entry, so what comes before the first wrong entry still counts;
every other step counts as a whole or not at all.

The handler of a step does what the step is resolved to: it makes the edits, and breaks off if there is a
fault (`Step.handle_eq_enact`). So what applying a step does to a query can be told from its resolution
(`Query.apply_eq`).
-/

namespace QueryRecipe

/-- What a step comes to: the edits that hold in any case, and what is wrong with it. -/
structure Resolution where
  edits : List Edit
  fault : Option StepFault := none
  deriving DecidableEq, Repr

namespace Resolution

/-- All of the edits or none. -/
def whole : Except StepFault (List Edit) → Resolution
  | .ok edits => ⟨edits, none⟩
  | .error fault => ⟨[], some fault⟩

/-- The edits of one entry after the other, up to the first wrong entry. -/
def each {α : Type} (resolve : α → Except StepFault (List Edit)) : List α → Resolution
  | [] => ⟨[], none⟩
  | a :: rest =>
    match resolve a with
    | .error fault => ⟨[], some fault⟩
    | .ok edits =>
      let r := each resolve rest
      ⟨edits ++ r.edits, r.fault⟩

end Resolution

namespace Step

/-- A word that is checked, as part of a step. -/
def checked {α : Type} : Except Rejection α → Except StepFault α
  | .ok a => .ok a
  | .error r => .error (.rejected r)

/-- The trimmed text of something that a step must have. -/
def needed (d : Defect) (s : String) : Except StepFault String :=
  match Text.nonblank? s with
  | some t => .ok t
  | none => .error (.defective d)

/-- A change to the column of this name. -/
def changing (column : String) (change : Except StepFault Change) :
    Except StepFault (List Edit) := do
  let column ← needed .noColumn column
  return [.change column (← change)]

/-- An entry of a rename. -/
def resolveRename (entry : String × String) : Except StepFault (List Edit) := do
  let column ← needed .incompleteRename entry.1
  let label ← needed .incompleteRename entry.2
  return [.rename column label]

/-- A key of a sort; one without a column is passed over. -/
def resolveSortKey (key : SortKey) : Except StepFault (List Edit) := do
  match Text.nonblank? key.column with
  | none => return []
  | some _ => return [.sort key.column (← checked (Direction.ofText key.direction))]

/-- The conditions of a filter; those without a column are passed over. -/
def resolveTests : List FilterCondition → Except StepFault (List Test)
  | [] => .ok []
  | c :: rest =>
    match Text.nonblank? c.column with
    | none => resolveTests rest
    | some _ => do
      let comparison ← checked (Comparison.ofText (c.comparison.getD ""))
      return ⟨c.column, comparison, c.operand⟩ :: (← resolveTests rest)

/-- A key of a join. -/
def resolveJoinKey (key : JoinKey) : Except StepFault (String × String) := do
  return (← needed .incompleteJoinKey key.left, ← needed .incompleteJoinKey key.right)

/-- The join of a table. A cross join has no keys. -/
def resolveJoin (recipeSchema table : String) (schema kind label : Option String)
    (keys : List JoinKey) (columns : List String) : Except StepFault (List Edit) := do
  let kind ← checked (JoinKind.ofText kind)
  let table ← needed .noTable table
  let keys ←
    if kind = .cross then pure []
    else if keys = [] then .error (.defective .noJoinKeys)
    else keys.mapM resolveJoinKey
  return [.join kind (schemaOr recipeSchema schema) table (givenWord? label) keys
    (Text.nonblanks columns)]

/-- An aggregate; only counting may leave out the column and then counts rows. -/
def resolveAggregation (a : Aggregation) : Except StepFault AggregateColumn := do
  let function ← checked (Aggregate.ofText a.function)
  let column ← match Text.nonblank? a.column with
    | some c => pure c
    | none =>
      if function = .count then pure "*"
      else .error (.defective (.aggregateWithoutColumn function))
  return ⟨function, column, (givenWord? a.label).getD (function.defaultLabel column)⟩

/-- A grouping. -/
def resolveGroupBy (columns : List String) (aggregations : List Aggregation) :
    Except StepFault (List Edit) := do
  let columns := Text.nonblanks columns
  let aggregates ← aggregations.mapM resolveAggregation
  if columns = [] ∧ aggregates = [] then
    .error (.defective .emptyGrouping)
  else
    return [.group ⟨columns, aggregates⟩]

/-- A computed column. -/
def resolveAddColumn (name expression : Option String) : Except StepFault (List Edit) :=
  match givenWord? name, givenWord? expression with
  | some name, some expression => do return [.add ⟨← checked (screen expression), name⟩]
  | _, _ => .error (.defective .incompleteColumn)

/-- The change that a replacement makes. -/
def replacing (old : Option String) (new : Literal) (expression : Option String) :
    Except StepFault Change := do
  let new ← match givenWord? expression with
    | some e => Replacement.expression <$> checked (screen e)
    | none => pure (.literal new)
  return match old with
    | some old => .substitute old new
    | none => .coalesce new

/-- What a step of a recipe with this schema comes to. -/
def resolve (schema : String) : Step → Resolution
  | .select columns =>
    match Text.nonblanks columns with
    | [] => .whole (.error (.defective .noColumns))
    | columns => .whole (.ok [.select columns])
  | .rename mapping => .each resolveRename mapping.entries
  | .reorder columns => .whole (.ok [.reorder (Text.nonblanks columns)])
  | .cast column dataType => .whole <| changing column do
    if (Text.nonblank? dataType).isNone then
      .error (.defective .noDataType)
    else
      return .cast (← checked (screen dataType))
  | .addColumn name expression => .whole (resolveAddColumn name expression)
  | .dropColumn columns => .whole (.ok [.drop (Text.nonblanks columns)])
  | .filter conditions connective => .whole do
    let connective ← checked (Connective.ofText connective)
    let tests ← resolveTests conditions
    return if tests = [] then [] else [.filter connective tests]
  | .sort keys => .each resolveSortKey keys
  | .deduplicate columns =>
    match Text.nonblanks columns with
    | [] => .whole (.ok [.dedup .rows])
    | columns => .whole (.ok [.dedup (.on columns)])
  | .limit count offset => .whole (.ok [.page ⟨count, offset⟩])
  | .replace column old new expression => .whole (changing column (replacing old new expression))
  | .trim column side => .whole (changing column (.ok (.trim side)))
  | .recase column mode => .whole <| changing column <|
    match mode with
    | some mode => .ok (.recase mode)
    | none => .error (.defective .noMode)
  | .fillNull column value emptyToo => .whole (changing column (.ok (.fill value emptyToo)))
  | .join table joinSchema kind label keys columns =>
    .whole (resolveJoin schema table joinSchema kind label keys columns)
  | .union table unionSchema all => .whole do
    let table ← needed .noTable table
    return [.union ⟨schemaOr schema unionSchema, table, all⟩]
  | .groupBy columns aggregations => .whole (resolveGroupBy columns aggregations)

end Step

namespace Handler
variable {α β : Type}

/-- To make edits one after the other never breaks off. -/
lemma run_writes (es : List Edit) (q : Query) : (es.forM write).run q = .ok () (q.edits es) := by
  induction es generalizing q with
  | nil => rfl
  | cons e es ih => exact ih (q.edit e)

/-- To know the end without a query is to know what comes first and then the rest. -/
lemma ofExcept_bind (x : Except StepFault α) (f : α → Except StepFault β) :
    (ofExcept (x >>= f) : Handler β) = ofExcept x >>= fun a => ofExcept (f a) := by
  cases x with
  | ok a => rfl
  | error fault => rfl

/-- To know all the results without a query is to know one after the other. -/
lemma ofExcept_mapM (f : α → Except StepFault β) (l : List α) :
    (ofExcept (l.mapM f) : Handler (List β)) = l.mapM fun a => ofExcept (f a) := by
  induction l with
  | nil => rfl
  | cons a l ih =>
    rw [List.mapM_cons, List.mapM_cons, ofExcept_bind]
    refine bind_congr fun b => ?_
    rw [ofExcept_bind, ih]
    rfl

/-- Whether a word is accepted is known without a query. -/
lemma check_eq (x : Except Rejection α) : check x = ofExcept (Step.checked x) := by
  cases x with
  | ok a => rfl
  | error r => rfl

/-- Whether something is there is known without a query. -/
lemma need_eq (d : Defect) (s : String) : need d s = ofExcept (Step.needed d s) := by
  rw [need, Step.needed]
  cases Text.nonblank? s with
  | none => rfl
  | some t => rfl

/-- The conditions of a filter are known without a query. -/
lemma tests_eq (conditions : List FilterCondition) :
    conditions.filterMapM test? = ofExcept (Step.resolveTests conditions) := by
  induction conditions with
  | nil => rfl
  | cons c rest ih =>
    rw [List.filterMapM_cons, test?, Step.resolveTests]
    cases Text.nonblank? c.column with
    | none => exact ih
    | some t =>
      simp only [ofExcept_bind, check_eq, ih, bind_assoc, pure_bind]
      rfl

/-- A key of a join is known without a query. -/
lemma joinKey_eq (key : JoinKey) : joinKey key = ofExcept (Step.resolveJoinKey key) := by
  simp only [joinKey, Step.resolveJoinKey, ofExcept_bind, need_eq]
  rfl

/-- An aggregate is known without a query. -/
lemma aggregate_eq (a : Aggregation) : aggregate a = ofExcept (Step.resolveAggregation a) := by
  rw [aggregate, Step.resolveAggregation, ofExcept_bind, check_eq]
  refine bind_congr fun f => ?_
  cases Text.nonblank? a.column with
  | some c => rfl
  | none =>
    by_cases count : f = .count
    · simp only [count, if_true]
      rfl
    · simp only [count, if_false]
      rfl

/-- The change that a cast makes is known without a query. -/
lemma cast_eq (dataType : String) : cast dataType = ofExcept (do
    if (Text.nonblank? dataType).isNone then
      .error (.defective .noDataType)
    else
      return .cast (← Step.checked (screen dataType))) := by
  rw [cast, check_eq]
  split
  · rfl
  · rw [ofExcept_bind]
    rfl

/-- The change that a replacement makes is known without a query. -/
lemma replace_eq (old : Option String) (new : Literal) (expression : Option String) :
    replace old new expression = ofExcept (Step.replacing old new expression) := by
  rw [replace, Step.replacing]
  cases givenWord? expression with
  | none => cases old <;> rfl
  | some e =>
    simp only [map_eq_pure_bind, ofExcept_bind, check_eq, bind_assoc]
    cases old <;> rfl

end Handler

namespace Resolution

/-- To make the edits and break off if there is a fault. -/
def enact (r : Resolution) : Handler Unit := do
  r.edits.forM Handler.write
  match r.fault with
  | none => pure ()
  | some fault => throw fault

/-- What enacting a resolution does to a query. -/
lemma run_enact (r : Resolution) (q : Query) : r.enact.run q =
    match r.fault with
    | none => .ok () (q.edits r.edits)
    | some fault => .error fault (q.edits r.edits) := by
  rw [enact, EStateM.run_bind, Handler.run_writes]
  cases r.fault with
  | none => rfl
  | some fault => rfl

/-- To know the edits without a query is to make them when they are known. -/
lemma enact_whole (x : Except StepFault (List Edit)) :
    (whole x).enact = ofExcept x >>= fun es => es.forM Handler.write := by
  cases x with
  | ok es => exact bind_pure_unit
  | error fault => rfl

/-- To make one edit is to enact it. -/
lemma write_eq (e : Edit) : Handler.write e = (whole (pure [e])).enact := by
  rw [enact_whole]
  exact bind_pure_unit.symm

/-- A part that is known without a query comes before a whole. -/
lemma bind_eq_enact {α : Type} {m : Handler α} {x : Except StepFault α} {f : α → Handler Unit}
    {g : α → Except StepFault (List Edit)} (first : m = ofExcept x)
    (rest : ∀ a, f a = (whole (g a)).enact) : m >>= f = (whole (x >>= g)).enact := by
  rw [enact_whole, Handler.ofExcept_bind, bind_assoc, first]
  refine bind_congr fun a => ?_
  rw [rest, enact_whole]

/-- What a step that is resolved entry by entry comes to is known before the first edit of each. -/
lemma enact_each {α : Type} (resolve : α → Except StepFault (List Edit)) (l : List α) :
    (each resolve l).enact = l.forM fun a => (whole (resolve a)).enact := by
  induction l with
  | nil => rfl
  | cons a l ih =>
    show _ = (whole (resolve a)).enact >>= fun _ => l.forM fun a => (whole (resolve a)).enact
    rw [← ih, each]
    cases resolve a with
    | error fault => rfl
    | ok es =>
      funext q
      simp [enact, whole]

end Resolution

namespace Step

/-- A change of a column is made once the column and the change are known. -/
lemma change_eq {column : String} {reading : Handler Change} {x : Except StepFault Change}
    (known : reading = ofExcept x) :
    Handler.change column reading = (Resolution.whole (changing column x)).enact :=
  Resolution.bind_eq_enact (Handler.need_eq _ _) fun _ =>
    Resolution.bind_eq_enact known fun _ => Resolution.write_eq _

/-- A rename makes its entries one by one. -/
lemma renameEntry_eq (entry : String × String) :
    Handler.renameEntry entry = (Resolution.whole (resolveRename entry)).enact :=
  Resolution.bind_eq_enact (Handler.need_eq _ _) fun _ =>
    Resolution.bind_eq_enact (Handler.need_eq _ _) fun _ => Resolution.write_eq _

/-- A sort adds its terms one by one. -/
lemma sortKey_eq (key : SortKey) :
    Handler.sortKey key = (Resolution.whole (resolveSortKey key)).enact := by
  rw [Handler.sortKey, resolveSortKey]
  cases Text.nonblank? key.column with
  | none => rfl
  | some t => exact Resolution.bind_eq_enact (Handler.check_eq _) fun _ => Resolution.write_eq _

/-- A computed column is added once its expression is known. -/
lemma addColumn_eq (name expression : Option String) :
    Handler.addColumn name expression = (Resolution.whole (resolveAddColumn name expression)).enact := by
  rw [Handler.addColumn, resolveAddColumn]
  cases givenWord? name with
  | none => rfl
  | some name =>
    cases givenWord? expression with
    | none => rfl
    | some expression =>
      exact Resolution.bind_eq_enact (Handler.check_eq _) fun _ => Resolution.write_eq _

/-- A table is joined once its keys are known. -/
lemma join_eq (schema table : String) (joinSchema kind label : Option String) (keys : List JoinKey)
    (columns : List String) : Handler.join schema table joinSchema kind label keys columns =
      (Resolution.whole (resolveJoin schema table joinSchema kind label keys columns)).enact := by
  refine Resolution.bind_eq_enact (Handler.check_eq _) fun kind => ?_
  refine Resolution.bind_eq_enact (Handler.need_eq _ _) fun table => ?_
  by_cases cross : kind = .cross
  · simp only [cross, ne_eq, not_true, false_and, if_false, if_true]
    exact Resolution.bind_eq_enact rfl fun _ => Resolution.write_eq _
  · by_cases none : keys = []
    · simp only [cross, none, ne_eq, not_false_iff, and_self, if_true, if_false]
      rfl
    · simp only [cross, none, and_false, if_false]
      have known : keys.mapM Handler.joinKey = ofExcept (keys.mapM resolveJoinKey) := by
        rw [Handler.ofExcept_mapM, funext Handler.joinKey_eq]
      exact Resolution.bind_eq_enact known fun _ => Resolution.write_eq _

/-- A query is grouped once the aggregates are known. -/
lemma groupBy_eq (columns : List String) (aggregations : List Aggregation) :
    Handler.groupBy columns aggregations =
      (Resolution.whole (resolveGroupBy columns aggregations)).enact := by
  have known : aggregations.mapM Handler.aggregate =
      ofExcept (aggregations.mapM resolveAggregation) := by
    rw [Handler.ofExcept_mapM, funext Handler.aggregate_eq]
  refine Resolution.bind_eq_enact known fun aggregates => ?_
  split
  · rfl
  · exact Resolution.write_eq _

/-- The handler of a step does what the step is resolved to. -/
theorem handle_eq_enact (schema : String) (s : Step) :
    s.handle schema = (s.resolve schema).enact := by
  cases s with
    rw [handle]
  | select columns =>
    rw [Handler.select, resolve]
    cases Text.nonblanks columns with
    | nil => rfl
    | cons c rest => exact Resolution.write_eq _
  | rename mapping => rw [resolve, Resolution.enact_each, funext renameEntry_eq]
  | cast column dataType =>
    rw [resolve]
    exact change_eq (Handler.cast_eq dataType)
  | addColumn name expression => rw [resolve, addColumn_eq]
  | filter conditions connective =>
    rw [resolve]
    refine Resolution.bind_eq_enact (Handler.check_eq _) fun connective => ?_
    refine Resolution.bind_eq_enact (Handler.tests_eq _) fun tests => ?_
    cases tests with
    | nil => rfl
    | cons t rest => exact Resolution.write_eq _
  | sort keys => rw [resolve, Resolution.enact_each, funext sortKey_eq]
  | deduplicate columns =>
    rw [Handler.deduplicate, resolve]
    cases Text.nonblanks columns with
    | nil => exact Resolution.write_eq _
    | cons c rest => exact Resolution.write_eq _
  | replace column old new expression =>
    rw [resolve]
    exact change_eq (Handler.replace_eq old new expression)
  | trim column side | fillNull column value emptyToo =>
    rw [resolve]
    exact change_eq rfl
  | recase column mode =>
    cases mode with
      rw [resolve]
    | none => exact change_eq rfl
    | some mode => exact change_eq rfl
  | join table joinSchema kind label keys columns => rw [resolve, join_eq]
  | union table unionSchema all =>
    rw [resolve]
    exact Resolution.bind_eq_enact (Handler.need_eq _ _) fun _ => Resolution.write_eq _
  | groupBy columns aggregations => rw [resolve, groupBy_eq]
  | reorder columns | dropColumn columns | limit count offset =>
    rw [resolve]
    exact Resolution.write_eq _

end Step

namespace Query

/-- What a step does to a query, and what is wrong with the step, is what the step is resolved to. -/
lemma apply_eq (schema : String) (q : Query) (s : Step) :
    q.apply schema s = (q.edits (s.resolve schema).edits, (s.resolve schema).fault) := by
  rw [apply, Step.handle_eq_enact, Resolution.run_enact]
  cases (s.resolve schema).fault with
  | none => rfl
  | some fault => rfl

end Query

end QueryRecipe
