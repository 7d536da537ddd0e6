import QueryRecipe.Proofs.Query.Mask
import QueryRecipe.Proofs.Step.Within

/-!
# Steps with their strings emptied

The strings of a step are those in the values of a filter, in what is replaced and by what, and in what
a missing value is filled with. Emptying them changes neither whether the step is well formed nor what
it asks for otherwise (`Step.resolve_mask`).
-/

namespace QueryRecipe

/-- A condition with its strings emptied. A value under a word that is no comparison is not looked at. -/
def FilterCondition.mask (c : FilterCondition) : FilterCondition :=
  { c with
    operand := match Comparison.ofText (c.comparison.getD "") with
      | .ok comparison => c.operand.maskOperand comparison
      | .error _ => c.operand.mask }

namespace Step

/-- A step with its strings emptied. -/
def mask : Step → Step
  | .filter conditions connective => .filter (conditions.map FilterCondition.mask) connective
  | .replace column old new expression =>
    .replace column (old.map fun _ => "") new.mask expression
  | .fillNull column value emptyToo => .fillNull column value.mask emptyToo
  | s => s

/-- The masked step is of the same kind. -/
lemma mask_tag (s : Step) : s.mask.tag = s.tag := by
  cases s <;> rfl

/-- The masked step is plain exactly if the step is. -/
lemma mask_isPlain {s : Step} : s.mask.IsPlain ↔ s.IsPlain := by
  cases s <;> simp only [mask, IsPlain]

/-- Masked conditions are resolved to the masked tests, or fail alike. -/
lemma resolveTests_mask {conditions : List FilterCondition} :
    resolveTests (conditions.map FilterCondition.mask) =
      (resolveTests conditions).map (List.map Test.mask) := by
  induction conditions with
  | nil => rfl
  | cons c rest ih =>
    have column : c.mask.column = c.column := by rw [FilterCondition.mask]
    have comparison : c.mask.comparison = c.comparison := by rw [FilterCondition.mask]
    rw [List.map_cons, resolveTests, resolveTests, column, comparison, ih]
    cases Text.nonblank? c.column with
    | none => rfl
    | some t =>
      cases known : Comparison.ofText (c.comparison.getD "") with
      | error r => rfl
      | ok k =>
        have operand : c.mask.operand = c.operand.maskOperand k := by simp [FilterCondition.mask, known]
        rw [operand]
        cases resolveTests rest <;> rfl

/-- A replacement with masked values is the masked replacement. -/
lemma replacing_mask {old new expression} :
    replacing (old.map fun _ => "") (Literal.mask new) expression =
      (replacing old new expression).map Change.mask := by
  rw [replacing, replacing]
  cases givenWord? expression with
  | none => cases old <;> rfl
  | some e =>
    cases accepted : checked (screen e) with
    | error r => simp [accepted, Except.map]
    | ok t => cases old <;> simp [accepted, Except.map, Change.mask, Replacement.mask]

/-- Changing a column by a masked change is the masked edit. -/
lemma changing_mask {column} {x : Except StepFault Change} :
    changing column (x.map Change.mask) = (changing column x).map (List.map Edit.mask) := by
  rw [changing, changing]
  cases needed .noColumn column with
  | error f => rfl
  | ok c => cases x <;> rfl

/-- A step that is resolved as a whole is masked by masking its edits. -/
lemma mask_whole {x : Except StepFault (List Edit)} :
    Resolution.whole (x.map (List.map Edit.mask)) =
      ⟨(Resolution.whole x).edits.map Edit.mask, (Resolution.whole x).fault⟩ := by
  cases x <;> rfl

/-- A step comes to the same edits but for their strings, and to the same fault. -/
lemma resolve_mask (schema : String) (s : Step) :
    s.mask.resolve schema = ⟨(s.resolve schema).edits.map Edit.mask, (s.resolve schema).fault⟩ := by
  have kept {s : Step} (same : ∀ e ∈ (s.resolve schema).edits, e.mask = e) :
      s.resolve schema = ⟨(s.resolve schema).edits.map Edit.mask, (s.resolve schema).fault⟩ := by
    rw [List.map_congr_left same, List.map_id']
  cases s with
  | filter conditions connective =>
    rw [mask, resolve, resolve, ← mask_whole, resolveTests_mask]
    cases checked (Connective.ofText connective) with
    | error f => rfl
    | ok k =>
      cases resolveTests conditions with
      | error f => rfl
      | ok ts => cases ts <;> rfl
  | replace column old new expression =>
    rw [mask, resolve, resolve, replacing_mask, changing_mask, mask_whole]
  | fillNull column value emptyToo =>
    have made : Except.ok (Change.fill value.mask emptyToo) =
        (Except.ok (Change.fill value emptyToo) : Except StepFault Change).map Change.mask := rfl
    rw [mask, resolve, resolve, made, changing_mask, mask_whole]
  | recase column mode =>
    refine kept fun e mem => ?_
    cases asks_of_mem mem with
    | change made =>
      cases mode with
      | none => cases made
      | some mode =>
        cases made
        rfl
  | cast | trim =>
    refine kept fun e mem => ?_
    cases asks_of_mem mem with
    | change made =>
      cases made
      rfl
  | _ =>
    refine kept fun e mem => ?_
    cases asks_of_mem mem with
    | change made => cases made
    | _ => rfl

end Step

end QueryRecipe
