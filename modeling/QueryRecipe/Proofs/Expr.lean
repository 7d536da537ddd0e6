import Mathlib.Tactic.Common
import QueryRecipe.Expr

/-!
# The column and the changes in a value

A value is a column inside changes. What a column stands for after some changes (`Expr.given`) tells both
the column and the changes (`Expr.given_inj`).
-/

namespace QueryRecipe

namespace Expr

/-- The column that an expression is a value of. -/
def column : Expr → String
  | .field column | .name column => column
  | .changed e _ => e.column

/-- The changes in an expression, the outermost last. -/
def changes : Expr → List Change
  | .field _ | .name _ => []
  | .changed e c => e.changes ++ [c]

/-- What a column stands for after changes: itself by its name alone if there are none. -/
def given (column : String) : List Change → Expr
  | [] => .name column
  | c :: cs => (c :: cs).foldl .changed (.field column)

variable {column : String} {cs : List Change}

/-- Changes leave the column of an expression. -/
lemma column_foldl {e : Expr} : (cs.foldl .changed e).column = e.column := by
  induction cs generalizing e with
  | nil => rfl
  | cons c cs ih => exact ih

/-- Further changes stand behind those that an expression has. -/
lemma changes_foldl {e : Expr} : (cs.foldl .changed e).changes = e.changes ++ cs := by
  induction cs generalizing e with
  | nil => exact (List.append_nil _).symm
  | cons c cs ih => rw [List.foldl_cons, ih, changes, List.append_assoc, List.singleton_append]

/-- The column of a changed column is that column. -/
@[simp]
lemma column_given : (given column cs).column = column := by
  cases cs with
  | nil => rfl
  | cons c cs => exact column_foldl

/-- The changes of a changed column are those made to it. -/
@[simp]
lemma changes_given : (given column cs).changes = cs := by
  cases cs with
  | nil => rfl
  | cons c cs => exact changes_foldl

/-- A changed column tells its column and its changes. -/
lemma given_inj {column' : String} {cs' : List Change} :
    given column cs = given column' cs' ↔ column = column' ∧ cs = cs' := by
  refine ⟨fun same => ⟨?_, ?_⟩, fun ⟨columns, changes⟩ => columns ▸ changes ▸ rfl⟩
  · simpa using congrArg Expr.column same
  · simpa using congrArg changes same

/-- A further change is the outermost. -/
lemma given_concat {c : Change} :
    given column (cs ++ [c]) = .changed (if cs = [] then .field column else given column cs) c := by
  cases cs with
  | nil => rfl
  | cons c cs => simp [given]

/-- Further changes to a column that has been changed start from what it has become. -/
lemma given_append {later : List Change} (ne : cs ≠ []) :
    given column (cs ++ later) = later.foldl .changed (given column cs) := by
  cases cs with
  | nil => exact absurd rfl ne
  | cons c cs => simp [given]

end Expr

end QueryRecipe
