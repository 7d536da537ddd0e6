import QueryRecipe.Statement

/-!
# What a statement is made of

The columns, changes and operands that may stand in a statement (`Stock`). A statement is made from them
if its expressions and conditions are (`Statement.From`); so a property of columns or of literals can be
followed from the steps of a recipe to the clauses of its statement.
-/

namespace QueryRecipe

/-- The columns, the changes of columns and the operands of comparisons that something is made of. -/
structure Stock where
  column : String → Prop
  change : Change → Prop
  operand : Comparison → Literal → Prop

section From
variable (S : Stock)

/-- Whether an expression starts from a column of a stock and has changes of it only. -/
def Expr.From : Expr → Prop
  | .field column | .name column => S.column column
  | .changed e change => e.From ∧ S.change change

/-- The expressions in a value of the select list. -/
def ItemValue.exprs : ItemValue → List Expr
  | .expr e | .aggregate _ (some e) => [e]
  | _ => []

/-- The expressions in a head. -/
def Head.exprs : Head → List Expr
  | .distinctOn columns => columns
  | _ => []

/-- Whether a condition compares an expression from a stock with an operand of it. -/
structure Condition.From (c : Condition) : Prop where
  subject : c.subject.From S
  operand : S.operand c.comparison c.operand

/-- Whether a statement is made from a stock. -/
structure Statement.From (s : Statement) : Prop where
  head : ∀ e ∈ s.head.exprs, e.From S
  items : ∀ i ∈ s.items, ∀ e ∈ i.value.exprs, e.From S
  filters : ∀ f ∈ s.filters, ∀ c ∈ f.conditions, c.From S
  groupBy : ∀ e ∈ s.groupBy, e.From S
  orderBy : ∀ t ∈ s.orderBy, t.subject.From S

end From

/-- All columns, changes and operands. -/
def Stock.whole : Stock where
  column _ := True
  change _ := True
  operand _ _ := True

/-- Every expression is made from the whole stock. -/
theorem Expr.from_whole (e : Expr) : e.From .whole := by
  induction e with
  | field column | name column => trivial
  | changed e change ih => exact ⟨ih, trivial⟩

/-- Every statement is made from the whole stock. -/
theorem Statement.from_whole (s : Statement) : s.From .whole where
  head e _ := e.from_whole
  items _ _ e _ := e.from_whole
  filters _ _ c _ := ⟨c.subject.from_whole, trivial⟩
  groupBy e _ := e.from_whole
  orderBy t _ := t.subject.from_whole

end QueryRecipe
