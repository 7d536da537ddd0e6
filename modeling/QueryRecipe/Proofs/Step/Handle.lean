import QueryRecipe.Proofs.Results
import QueryRecipe.Proofs.Text.Blank
import QueryRecipe.Step.Handle

/-!
# When a handler writes

A part of a handler that only checks leaves the query as it is, however it ends (`Handler.Silent`). Parts
in a row and loops over such parts are silent too. A handler that does all its checking in silent parts
and writes when nothing can go wrong any more has written nothing if it breaks off
(`Handler.ChecksFirst`); the handlers of all steps are like that (`Step.checksFirst_handle`), except for
the two that loop over parts which write, the rename and the sort. Such a loop breaks off at one of its
entries, with all that comes before it done (`Handler.forM_broken`).
-/

namespace QueryRecipe

namespace Handler

open Text (Blank)

variable {α β : Type} {q r : Query} {fault : StepFault}

/-- Two parts in a row end well if the first does and then the second. -/
lemma run_bind_eq_ok {m : Handler α} {f : α → Handler β} {b : β} :
    (m >>= f).run q = .ok b r ↔ ∃ a s, m.run q = .ok a s ∧ (f a).run s = .ok b r := by
  rw [EStateM.run_bind]
  cases m.run q with
  | ok a s => simp
  | error fault s => simp

/-- Two parts in a row break off if the first does, or else the second. -/
lemma run_bind_eq_error {m : Handler α} {f : α → Handler β} :
    (m >>= f).run q = .error fault r ↔
      m.run q = .error fault r ∨ ∃ a s, m.run q = .ok a s ∧ (f a).run s = .error fault r := by
  rw [EStateM.run_bind]
  cases m.run q with
  | ok a s => simp
  | error fault s => simp

/-- A loop that breaks off does so at an entry, and has done all that comes before it. -/
lemma forM_broken {f : α → Handler Unit} {l : List α} (broken : (l.forM f).run q = .error fault r) :
    ∃ before a after s, l = before ++ a :: after ∧ (before.forM f).run q = .ok () s ∧
      (f a).run s = .error fault r := by
  induction l generalizing q with
  | nil => cases broken
  | cons b l ih =>
    cases run_bind_eq_error.1 broken with
    | inl here => exact ⟨[], b, l, q, rfl, rfl, here⟩
    | inr later =>
      obtain ⟨_, s, first, rest⟩ := later
      obtain ⟨before, a, after, t, rfl, done, here⟩ := ih rest
      exact ⟨b :: before, a, after, t, rfl, run_bind_eq_ok.2 ⟨(), s, first, done⟩, here⟩

/-- Whether a part of a handler that breaks off has written nothing, because all its checks come first. -/
def ChecksFirst (m : Handler α) : Prop :=
  ∀ ⦃q fault r⦄, m.run q = .error fault r → r = q

/-- Whether a part of a handler leaves the query as it is, however it ends. -/
structure Silent (m : Handler α) : Prop where
  checksFirst : ChecksFirst m
  result : ∀ ⦃q a r⦄, m.run q = .ok a r → r = q

/-- An edit never breaks off. -/
lemma checksFirst_write (e : Edit) : ChecksFirst (write e) := by
  intro q fault r wrong
  cases wrong

/-- What checks first may have silent parts before it. -/
lemma Silent.andThen {m : Handler α} {f : α → Handler β} (first : Silent m)
    (rest : ∀ a, ChecksFirst (f a)) : ChecksFirst (m >>= f) := by
  intro q fault r wrong
  cases run_bind_eq_error.1 wrong with
  | inl now => exact first.checksFirst now
  | inr later =>
    obtain ⟨a, s, now, later⟩ := later
    rw [rest a later, first.result now]

/-- Nothing is written by giving a result. -/
lemma silent_pure (a : α) : Silent (pure a) where
  checksFirst := by
    intro q fault r wrong
    cases wrong
  result := by
    intro q b r done
    cases done
    rfl

/-- Nothing is written by breaking off. -/
lemma silent_throw (fault : StepFault) : Silent (throw fault : Handler α) where
  checksFirst := by
    intro q found r wrong
    cases wrong
    rfl
  result := by
    intro q a r done
    cases done

/-- Silent parts in a row are silent. -/
lemma Silent.bind {m : Handler α} {f : α → Handler β} (first : Silent m) (rest : ∀ a, Silent (f a)) :
    Silent (m >>= f) where
  checksFirst := first.andThen fun a => (rest a).checksFirst
  result := by
    intro q b r done
    obtain ⟨a, s, now, later⟩ := run_bind_eq_ok.1 done
    rw [(rest a).result later, first.result now]

/-- A silent part is silent for each entry of a list. -/
lemma Silent.mapM {f : α → Handler β} (each : ∀ a, Silent (f a)) (l : List α) :
    Silent (l.mapM f) := by
  induction l with
  | nil =>
    rw [List.mapM_nil]
    exact silent_pure []
  | cons a l ih =>
    rw [List.mapM_cons]
    exact (each a).bind fun b => ih.bind fun bs => silent_pure (b :: bs)

/-- A silent part that passes over some entries of a list is silent for all of it. -/
lemma Silent.filterMapM {f : α → Handler (Option β)} (each : ∀ a, Silent (f a)) (l : List α) :
    Silent (l.filterMapM f) := by
  induction l with
  | nil =>
    rw [List.filterMapM_nil]
    exact silent_pure []
  | cons a l ih =>
    rw [List.filterMapM_cons]
    refine (each a).bind fun b => ?_
    cases b with
    | none => exact ih
    | some b => exact ih.bind fun bs => silent_pure (b :: bs)

/-- Nothing is written while a word or an expression is checked. -/
lemma silent_check (x : Except Rejection α) : Silent (check x) := by
  cases x with
  | ok a => exact silent_pure a
  | error r => exact silent_throw (.rejected r)

/-- Nothing is written while a name is looked at. -/
lemma silent_need (d : Defect) (s : String) : Silent (need d s) := by
  rw [need]
  cases Text.nonblank? s with
  | none => exact silent_throw (.defective d)
  | some t => exact silent_pure t

/-- What has been accepted is given on. -/
lemma check_eq_ok {x : Except Rejection α} {a : α} (done : (check x).run q = .ok a r) :
    x = .ok a ∧ r = q := by
  cases x with
  | ok b =>
    cases done
    exact ⟨rfl, rfl⟩
  | error f => cases done

/-- What breaks off a check has not been accepted. -/
lemma not_succeeds_of_check {x : Except Rejection α} (wrong : (check x).run q = .error fault r) :
    ¬ Succeeds x := by
  cases x with
  | ok b => cases wrong
  | error f => exact not_succeeds_error f

/-- A name that is there is given on trimmed. -/
lemma need_eq_ok {d : Defect} {s t : String} (done : (need d s).run q = .ok t r) :
    ¬ Blank s ∧ t = Text.trim s ∧ r = q := by
  rw [need] at done
  cases present : Text.nonblank? s with
  | none =>
    rw [present] at done
    cases done
  | some u =>
    rw [present] at done
    cases done
    exact ⟨Text.nonblank?_isSome.1 ⟨t, present⟩, (Text.nonblank?_eq_some_iff.1 present).1.symm, rfl⟩

/-- A name that is missed is blank. -/
lemma blank_of_need {d : Defect} {s : String} (wrong : (need d s).run q = .error fault r) :
    Blank s := by
  rw [need] at wrong
  cases present : Text.nonblank? s with
  | none => exact Text.trim_eq_empty_iff.1 (Text.nonblank?_eq_none_iff.1 present)
  | some u =>
    rw [present] at wrong
    cases wrong

/-- Nothing is written while a condition of a filter is read. -/
lemma silent_test? (c : FilterCondition) : Silent (test? c) := by
  rw [test?]
  cases Text.nonblank? c.column with
  | none => exact silent_pure none
  | some t => exact (silent_check _).bind fun _ => silent_pure _

/-- Nothing is written while a key of a join is read. -/
lemma silent_joinKey (key : JoinKey) : Silent (joinKey key) :=
  (silent_need _ _).bind fun _ => (silent_need _ _).bind fun _ => silent_pure _

/-- Nothing is written while an aggregate is read. -/
lemma silent_aggregate (a : Aggregation) : Silent (aggregate a) := by
  refine (silent_check _).bind fun function => ?_
  cases Text.nonblank? a.column with
  | some column => exact silent_pure _
  | none =>
    dsimp only
    split
    · exact silent_pure _
    · exact silent_throw _

/-- Nothing is written while a cast is read. -/
lemma silent_cast (dataType : String) : Silent (cast dataType) := by
  rw [cast]
  split
  · exact silent_throw (.defective .noDataType)
  · exact (silent_check _).bind fun _ => silent_pure _

/-- Nothing is written while a replacement is read. -/
lemma silent_replace (old : Option String) (new : Literal) (expression : Option String) :
    Silent (replace old new expression) := by
  rw [replace]
  cases givenWord? expression with
  | none =>
    cases old with
    | none => exact silent_pure (Change.coalesce (.literal new))
    | some old => exact silent_pure (Change.substitute old (.literal new))
  | some e =>
    have screened : Silent (Replacement.expression <$> check (screen e)) := by
      rw [map_eq_pure_bind]
      exact (silent_check _).bind fun _ => silent_pure _
    refine screened.bind fun new => ?_
    cases old with
    | none => exact silent_pure (Change.coalesce new)
    | some old => exact silent_pure (Change.substitute old new)

/-- Nothing is written while a change of letter case is read. -/
lemma silent_recase (mode : Option LetterCase) : Silent (recase mode) := by
  cases mode with
  | none => exact silent_throw (.defective .noMode)
  | some mode => exact silent_pure (Change.recase mode)

/-- An entry is renamed after both of its names have been looked at. -/
lemma checksFirst_renameEntry (entry : String × String) : ChecksFirst (renameEntry entry) :=
  (silent_need _ _).andThen fun _ => (silent_need _ _).andThen fun _ => checksFirst_write _

/-- A sort term is added after its direction has been read. -/
lemma checksFirst_sortKey (key : SortKey) : ChecksFirst (sortKey key) := by
  rw [sortKey]
  cases Text.nonblank? key.column with
  | none => exact (silent_pure ()).checksFirst
  | some t => exact (silent_check _).andThen fun _ => checksFirst_write _

/-- Columns are chosen after they have been counted. -/
lemma checksFirst_select (columns : List String) : ChecksFirst (select columns) := by
  rw [select]
  split
  · exact (silent_throw _).andThen fun _ => checksFirst_write _
  · exact checksFirst_write _

/-- A computed column is added after its expression has been screened. -/
lemma checksFirst_addColumn (name expression : Option String) :
    ChecksFirst (addColumn name expression) := by
  rw [addColumn]
  split
  · exact (silent_check _).andThen fun _ => checksFirst_write _
  · exact (silent_throw _).checksFirst

/-- A filter is added after the last of its conditions has been read. -/
lemma checksFirst_filter (conditions : List FilterCondition) (connective : Option String) :
    ChecksFirst (filter conditions connective) := by
  refine (silent_check _).andThen fun connective => ?_
  refine (Silent.filterMapM silent_test? conditions).andThen fun tests => ?_
  split
  · exact (silent_pure ()).checksFirst
  · exact checksFirst_write _

/-- A table is joined after the last of its keys has been read. -/
lemma checksFirst_join (recipeSchema table : String) (schema kind label : Option String)
    (keys : List JoinKey) (columns : List String) :
    ChecksFirst (join recipeSchema table schema kind label keys columns) := by
  refine (silent_check _).andThen fun kind => (silent_need _ _).andThen fun table => ?_
  have keyed : ChecksFirst (do
      let keys ← if kind = .cross then pure [] else keys.mapM joinKey
      write (.join kind (Step.schemaOr recipeSchema schema) table (givenWord? label) keys
        (Text.nonblanks columns))) := by
    split
    · exact (silent_pure _).andThen fun _ => checksFirst_write _
    · exact (Silent.mapM silent_joinKey keys).andThen fun _ => checksFirst_write _
  dsimp only
  split
  · exact (silent_throw _).andThen fun _ => keyed
  · exact keyed

/-- A query is grouped after the last of the aggregates has been read. -/
lemma checksFirst_groupBy (columns : List String) (aggregations : List Aggregation) :
    ChecksFirst (groupBy columns aggregations) := by
  refine (Silent.mapM silent_aggregate aggregations).andThen fun aggregates => ?_
  dsimp only
  split
  · exact (silent_throw _).andThen fun _ => checksFirst_write _
  · exact checksFirst_write _

/-- Repeated rows are removed without a check. -/
lemma checksFirst_deduplicate (columns : List String) : ChecksFirst (deduplicate columns) := by
  rw [deduplicate]
  cases Text.nonblanks columns with
  | nil => exact checksFirst_write _
  | cons c rest => exact checksFirst_write _

/-- The rows of a table are added after its name has been looked at. -/
lemma checksFirst_union (recipeSchema table : String) (schema : Option String) (all : Bool) :
    ChecksFirst (union recipeSchema table schema all) :=
  (silent_need _ _).andThen fun _ => checksFirst_write _

/-- A column is changed after the change has been read. -/
lemma checksFirst_change {column : String} {reading : Handler Change} (h : Silent reading) :
    ChecksFirst (change column reading) :=
  (silent_need _ _).andThen fun _ => h.andThen fun _ => checksFirst_write _

end Handler

namespace Step

/-- The handlers of all steps but the renames and the sorts do all their checks first. -/
theorem checksFirst_handle {schema : String} {s : Step} (rename : ∀ mapping, s ≠ .rename mapping)
    (sort : ∀ keys, s ≠ .sort keys) : Handler.ChecksFirst (s.handle schema) := by
  cases s with
  | rename mapping => exact absurd rfl (rename mapping)
  | sort keys => exact absurd rfl (sort keys)
  | select columns => exact Handler.checksFirst_select columns
  | reorder columns => exact Handler.checksFirst_write _
  | cast column dataType => exact Handler.checksFirst_change (Handler.silent_cast dataType)
  | addColumn name expression => exact Handler.checksFirst_addColumn name expression
  | dropColumn columns => exact Handler.checksFirst_write _
  | filter conditions connective => exact Handler.checksFirst_filter conditions connective
  | deduplicate columns => exact Handler.checksFirst_deduplicate columns
  | limit count offset => exact Handler.checksFirst_write _
  | replace column old new expression =>
    exact Handler.checksFirst_change (Handler.silent_replace old new expression)
  | trim column side => exact Handler.checksFirst_change (Handler.silent_pure _)
  | recase column mode => exact Handler.checksFirst_change (Handler.silent_recase mode)
  | fillNull column value emptyToo => exact Handler.checksFirst_change (Handler.silent_pure _)
  | join table joinSchema kind label keys columns =>
    exact Handler.checksFirst_join schema table joinSchema kind label keys columns
  | union table unionSchema all => exact Handler.checksFirst_union schema table unionSchema all
  | groupBy columns aggregations => exact Handler.checksFirst_groupBy columns aggregations

end Step

end QueryRecipe
