import Mathlib.Data.List.Basic
import Mathlib.Tactic.Common
import QueryRecipe.Query.Edit

/-!
# What an edit leaves alone

Three parts of a query refer to columns by what the steps have made of them: the transforms, the filters
and the sort terms. One kind of edit changes each of these and all others leave it alone, so what a
column stands for (`reference`) changes with the transforms only. The joins are changed by joins only.

What every edit keeps, a run of edits keeps: of one query (`edits_invariant`) and between two
(`edits_related`).
-/

namespace QueryRecipe

/-- Whether an edit leaves the transforms, filters and sort terms as they are. -/
def Edit.isQuiet : Edit → Bool
  | .change .. | .filter .. | .sort .. => false
  | _ => true

/-- Whether an edit joins a table. -/
def Edit.isJoin : Edit → Bool
  | .join .. => true
  | _ => false

/-- Whether an edit joins a table without giving it an alias. -/
def Edit.isUnnamedJoin : Edit → Bool
  | .join _ _ _ none _ _ => true
  | _ => false

namespace Query

/-- The value that is set is found, and those of other columns are found as before. -/
lemma find?_setTransform {column value c} {ts : List Transform} :
    ((setTransform column value ts).find? (·.column == c)).map (·.value) =
      if column = c then some value else (ts.find? (·.column == c)).map (·.value) := by
  induction ts with
  | nil =>
    by_cases e : column = c <;> simp [setTransform, e]
  | cons t ts ih =>
    by_cases same : t.column = column
    · by_cases e : column = c <;> simp [setTransform, same, e]
    · by_cases e : t.column = c
      · have ne : column ≠ c := fun h => same (e.trans h.symm)
        rw [setTransform, if_neg same, if_neg ne]
        simp [e]
      · simpa [setTransform, same, e] using ih

/-- The columns with a value keep their order; a new one is the last. -/
lemma columns_setTransform {column value} {ts : List Transform} :
    (setTransform column value ts).map (·.column) =
      if column ∈ ts.map (·.column) then ts.map (·.column) else ts.map (·.column) ++ [column] := by
  induction ts with
  | nil => simp [setTransform]
  | cons t ts ih =>
    by_cases same : t.column = column
    · simp [setTransform, same]
    · have ne : column ≠ t.column := fun h => same h.symm
      by_cases mem : column ∈ ts.map (·.column)
      · simp [setTransform, same, ih, mem]
      · simp [setTransform, same, ih, mem, ne]

/-- To set a value gives no column a second one. -/
lemma nodup_setTransform {column value} {ts : List Transform}
    (h : (ts.map (·.column)).Nodup) : ((setTransform column value ts).map (·.column)).Nodup := by
  rw [columns_setTransform]
  split
  next => exact h
  next mem =>
    refine List.nodup_append.2 ⟨h, by simp, fun a ha b hb e => mem ?_⟩
    rw [List.mem_singleton] at hb
    rwa [← hb, ← e]

/-- A change gives its column a value that starts from the one before, and no other column. -/
lemma transform?_change (q : Query) (column : String) (change : Change) (c : String) :
    (q.edit (.change column change)).transform? c =
      if column = c then some (.changed (q.source c) change) else q.transform? c := by
  rw [edit, transform?, find?_setTransform]
  by_cases e : column = c <;> simp [e, transform?]

/-- What each of some edits preserves they preserve one after the other. -/
lemma edits_invariant {P : Query → Prop} {q : Query} {es : List Edit} (h : P q)
    (step : ∀ e ∈ es, ∀ q, P q → P (q.edit e)) : P (q.edits es) :=
  List.foldlRecOn es edit h fun q hq e mem => step e mem q hq

/-- Queries stay related under edits if they do under each of these. -/
lemma edits_related {R : Query → Query → Prop} {q r : Query} {es : List Edit} (h : R q r)
    (step : ∀ e ∈ es, ∀ q r, R q r → R (q.edit e) (r.edit e)) : R (q.edits es) (r.edits es) := by
  induction es generalizing q r with
  | nil => exact h
  | cons e es ih =>
    obtain ⟨now, later⟩ := List.forall_mem_cons.1 step
    exact ih (now q r h) later

/-- Quiet edits leave the transforms, filters and sort terms as they are. -/
lemma edits_quiet {q : Query} {es : List Edit} (quiet : ∀ e ∈ es, e.isQuiet = true) :
    (q.edits es).transforms = q.transforms ∧ (q.edits es).filters = q.filters ∧
      (q.edits es).order = q.order := by
  refine edits_invariant (P := fun r => r.transforms = q.transforms ∧ r.filters = q.filters ∧
    r.order = q.order) ⟨rfl, rfl, rfl⟩ fun e mem r same => ?_
  have quiet := quiet e mem
  cases e with
  | change | filter | sort => simp [Edit.isQuiet] at quiet
  | _ => exact same

/-- Sort keys add their terms in their order and change nothing else. -/
lemma edits_sort {q : Query} (keys : List (String × Direction)) :
    q.edits (keys.map fun k => .sort k.1 k.2) =
      { q with order := q.order ++ keys.map fun k => ⟨q.reference k.1, k.2⟩ } := by
  induction keys generalizing q with
  | nil => simp [edits]
  | cons k keys ih =>
    refine (ih (q := q.edit (.sort k.1 k.2))).trans ?_
    simp [edit, reference, transform?]

/-- Edits that join no table leave the joins as they are. -/
lemma joins_edits {q : Query} {es : List Edit} (h : ∀ e ∈ es, e.isJoin = false) :
    (q.edits es).joins = q.joins := by
  refine edits_invariant (P := fun r => r.joins = q.joins) rfl fun e mem r same => ?_
  have other := h e mem
  cases e with
  | join => cases other
  | _ => exact same

/-- A join adds one table to the joins. -/
lemma joins_join {q : Query} {e : Edit} (join : e.isJoin = true) :
    (q.edit e).joins.length = q.joins.length + 1 := by
  cases e with
  | join => simp [edit]
  | _ => cases join

end Query

end QueryRecipe
