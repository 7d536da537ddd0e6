import QueryRecipe.Compile
import QueryRecipe.Proofs.Step.Edits

/-!
# What a step reads and writes

Which parts of a query each kind of step consults (`Step.reads`) and which it may change
(`Step.writes`). The tables are exact in two respects: what a step does not write stays as it was
(`Step.agreeOn_edits`), and what it makes of a part depends on this part and on those that it reads
(`Step.edits_congr`). So two steps of which neither writes a part that the other reads or writes come to
the same query in either order (`Query.edits_comm`).
-/

namespace QueryRecipe

/-- The parts of a query. -/
inductive Part where
  | columns
  | renames
  | dropped
  | added
  | transforms
  | filters
  | grouping
  | order
  | joins
  | dedup
  | page
  | unions
  | display
  | selected
  deriving DecidableEq, Repr

/-- Whether two queries have the same part. -/
def Query.AgreeOn (p : Part) (q r : Query) : Prop :=
  match p with
  | .columns => q.columns = r.columns
  | .renames => q.renames = r.renames
  | .dropped => q.dropped = r.dropped
  | .added => q.added = r.added
  | .transforms => q.transforms = r.transforms
  | .filters => q.filters = r.filters
  | .grouping => q.grouping = r.grouping
  | .order => q.order = r.order
  | .joins => q.joins = r.joins
  | .dedup => q.dedup = r.dedup
  | .page => q.page = r.page
  | .unions => q.unions = r.unions
  | .display => q.display = r.display
  | .selected => q.selected = r.selected

namespace Query

section AgreeOn
variable {p : Part} {q r s : Query}

/-- A query agrees with itself on every part. -/
lemma AgreeOn.refl (p : Part) (q : Query) : AgreeOn p q q := by
  cases p <;> rfl

/-- Agreement on a part is symmetric. -/
lemma AgreeOn.symm (h : AgreeOn p q r) : AgreeOn p r q := by
  cases p <;> exact Eq.symm h

/-- Agreement on a part is transitive. -/
lemma AgreeOn.trans (h : AgreeOn p q r) (h' : AgreeOn p r s) : AgreeOn p q s := by
  cases p <;> exact Eq.trans h h'

/-- Queries with the same parts are the same. -/
lemma eq_of_agreeOn (h : ∀ p, AgreeOn p q r) : q = r := by
  cases q
  cases r
  rw [mk.injEq]
  exact ⟨h .columns, h .renames, h .dropped, h .added, h .transforms, h .filters, h .grouping,
    h .order, h .joins, h .dedup, h .page, h .unions, h .display, h .selected⟩

/-- The reference to a column depends on the transforms alone. -/
lemma reference_congr (same : AgreeOn .transforms q r) (column : String) :
    q.reference column = r.reference column := by
  have transforms : q.transforms = r.transforms := same
  rw [reference, reference, transform?, transform?, transforms]

/-- What a step changes depends on the transforms alone. -/
lemma source_congr (same : AgreeOn .transforms q r) (column : String) :
    q.source column = r.source column := by
  have transforms : q.transforms = r.transforms := same
  rw [source, source, transform?, transform?, transforms]

end AgreeOn

end Query

namespace Step

/-- The parts of a query that a step consults besides those that it only adds to or replaces. -/
def reads : Step → List Part
  | .dropColumn _ => [.columns]
  | .filter .. | .sort _ => [.transforms]
  | .join .. => [.joins, .columns]
  | .reorder _ => [.selected, .dropped]
  | .cast .. | .replace .. | .trim .. | .recase .. | .fillNull .. => [.transforms]
  | .select _ | .rename _ | .addColumn .. | .deduplicate _ | .limit .. | .union .. | .groupBy .. => []

/-- The parts of a query that a step may change. -/
def writes : Step → List Part
  | .select _ => [.columns, .selected]
  | .rename _ => [.renames]
  | .dropColumn _ => [.columns, .dropped]
  | .addColumn .. => [.added]
  | .filter .. => [.filters]
  | .sort _ => [.order]
  | .join .. => [.joins, .columns]
  | .groupBy .. => [.grouping]
  | .deduplicate _ => [.dedup]
  | .limit .. => [.page]
  | .union .. => [.unions]
  | .reorder _ => [.columns, .display]
  | .cast .. | .replace .. | .trim .. | .recase .. | .fillNull .. => [.transforms]

/-- Whether neither of two steps writes a part that the other reads or writes. -/
def Independent (s t : Step) : Prop :=
  (∀ p ∈ s.writes, p ∉ t.reads ∧ p ∉ t.writes) ∧ ∀ p ∈ t.writes, p ∉ s.reads ∧ p ∉ s.writes

instance (s t : Step) : Decidable (s.Independent t) :=
  inferInstanceAs (Decidable (_ ∧ _))

/-- A step that changes a column reads and writes the transforms alone. -/
lemma footprint_of_change {s : Step} {e : String × Change} (made : s.change? = some e) :
    s.reads = [.transforms] ∧ s.writes = [.transforms] := by
  cases s with
  | cast | replace | trim | recase | fillNull => exact ⟨rfl, rfl⟩
  | _ => cases made

section Edits
variable {schema : String} {s : Step} {p : Part} {q r : Query}

/-- An edit leaves the parts that its step does not write. -/
lemma agreeOn_edit {e : Edit} (asked : s.Asks schema e) (unwritten : p ∉ s.writes) :
    (q.edit e).AgreeOn p q := by
  cases asked with
  | change made =>
    rw [(footprint_of_change made).2] at unwritten
    cases p with
    | transforms => exact absurd (List.mem_singleton_self _) unwritten
    | _ => rfl
  | select =>
    cases p with
    | columns | selected => simp [writes] at unwritten
    | _ => rfl
  | rename =>
    cases p with
    | renames => simp [writes] at unwritten
    | _ => rfl
  | reorder =>
    cases p with
    | columns | display => simp [writes] at unwritten
    | _ => rfl
  | addColumn =>
    cases p with
    | added => simp [writes] at unwritten
    | _ => rfl
  | dropColumn =>
    cases p with
    | columns | dropped => simp [writes] at unwritten
    | _ => rfl
  | filter =>
    cases p with
    | filters => simp [writes] at unwritten
    | _ => rfl
  | sort =>
    cases p with
    | order => simp [writes] at unwritten
    | _ => rfl
  | rows | deduplicate =>
    cases p with
    | dedup => simp [writes] at unwritten
    | _ => rfl
  | limit =>
    cases p with
    | page => simp [writes] at unwritten
    | _ => rfl
  | join =>
    cases p with
    | joins | columns => simp [writes] at unwritten
    | _ => rfl
  | union =>
    cases p with
    | unions => simp [writes] at unwritten
    | _ => rfl
  | groupBy =>
    cases p with
    | grouping => simp [writes] at unwritten
    | _ => rfl

/-- What an edit makes of a part depends on the part and on what its step reads. -/
lemma edit_congr {e : Edit} (asked : s.Asks schema e) (same : ∀ p ∈ s.reads, q.AgreeOn p r)
    (own : q.AgreeOn p r) : (q.edit e).AgreeOn p (r.edit e) := by
  cases asked with
  | change made =>
    have values := same .transforms (by simp [footprint_of_change made])
    cases p with
    | transforms =>
      show Query.setTransform _ (.changed (q.source _) _) q.transforms = _
      rw [Query.source_congr values, show q.transforms = r.transforms from own]
      rfl
    | _ => exact own
  | select =>
    cases p with
    | columns | selected => rfl
    | _ => exact own
  | rename =>
    cases p with
    | renames => exact congrArg (NameMap.insert · _ _) own
    | _ => exact own
  | reorder =>
    have selected : q.selected = r.selected := same .selected List.mem_cons_self
    have dropped : q.dropped = r.dropped := same .dropped (List.mem_cons_of_mem _ List.mem_cons_self)
    cases p with
    | columns =>
      show (if q.selected then q.columns else _) = if r.selected then r.columns else _
      rw [selected, dropped, show q.columns = r.columns from own]
    | display => rfl
    | _ => exact own
  | addColumn =>
    cases p with
    | added => exact congrArg (· ++ _) own
    | _ => exact own
  | dropColumn =>
    cases p with
    | columns => exact congrArg (Query.Columns.without _) own
    | dropped => exact congrArg (NameSet.insertAll · _) own
    | _ => exact own
  | filter =>
    have values := same .transforms List.mem_cons_self
    cases p with
    | filters =>
      show q.filters ++ [⟨_, List.map _ _⟩] = r.filters ++ [⟨_, List.map _ _⟩]
      simp only [Query.reference_congr values, show q.filters = r.filters from own]
    | _ => exact own
  | sort =>
    have values := same .transforms List.mem_cons_self
    cases p with
    | order =>
      show q.order ++ [⟨q.reference _, _⟩] = r.order ++ [⟨r.reference _, _⟩]
      rw [Query.reference_congr values, show q.order = r.order from own]
    | _ => exact own
  | rows | deduplicate =>
    cases p with
    | dedup => rfl
    | _ => exact own
  | limit =>
    cases p with
    | page => rfl
    | _ => exact own
  | join =>
    have joins : q.joins = r.joins := same .joins List.mem_cons_self
    have label : q.nextLabel = r.nextLabel := by rw [Query.nextLabel, Query.nextLabel, joins]
    cases p with
    | joins =>
      show q.joins ++ [⟨_, _, _, Option.getD _ q.nextLabel, _⟩] = _
      rw [label, joins]
      rfl
    | columns =>
      show Query.Columns.joined (Option.getD _ q.nextLabel) _ q.columns = _
      rw [label, show q.columns = r.columns from own]
      rfl
    | _ => exact own
  | union =>
    cases p with
    | unions => exact congrArg (· ++ _) own
    | _ => exact own
  | groupBy =>
    cases p with
    | grouping => rfl
    | _ => exact own

/-- A step leaves the parts that it does not write. -/
lemma agreeOn_edits (unwritten : p ∉ s.writes) : (q.edits (s.resolve schema).edits).AgreeOn p q := by
  refine Query.edits_invariant (P := (·.AgreeOn p q)) (.refl p q) fun e mem r agree => ?_
  exact (agreeOn_edit (asks_of_mem mem) unwritten).trans agree

/-- What a step makes of a part depends on the part and on what the step reads. -/
lemma edits_congr (same : ∀ p ∈ s.reads, q.AgreeOn p r) (own : q.AgreeOn p r) :
    (q.edits (s.resolve schema).edits).AgreeOn p (r.edits (s.resolve schema).edits) := by
  -- the parts that are read have to stay the same for the next edit
  refine (Query.edits_related (R := fun q r => (∀ p ∈ s.reads, q.AgreeOn p r) ∧ q.AgreeOn p r)
    ⟨same, own⟩ ?_).2
  rintro e mem q r ⟨same, own⟩
  have asks := asks_of_mem mem
  exact ⟨fun p read => edit_congr asks same (same p read), edit_congr asks same own⟩

end Edits

end Step

namespace Query

/-- Independent steps come to the same query in either order. -/
lemma edits_comm {schema : String} {s t : Step} (independent : s.Independent t) (q : Query) :
    (q.edits (s.resolve schema).edits).edits (t.resolve schema).edits =
      (q.edits (t.resolve schema).edits).edits (s.resolve schema).edits := by
  -- a part that one step writes is left by the other, which also leaves what the first reads
  have half {s t : Step} {p : Part} (alone : ∀ p ∈ t.writes, p ∉ s.reads) (left : p ∉ t.writes) :
      AgreeOn p ((q.edits (s.resolve schema).edits).edits (t.resolve schema).edits)
        ((q.edits (t.resolve schema).edits).edits (s.resolve schema).edits) := by
    have first : AgreeOn p ((q.edits (s.resolve schema).edits).edits (t.resolve schema).edits)
        (q.edits (s.resolve schema).edits) := Step.agreeOn_edits left
    refine first.trans (Step.edits_congr ?_ (Step.agreeOn_edits left).symm)
    intro p mem
    exact (Step.agreeOn_edits fun written => alone p written mem).symm
  obtain ⟨forward, backward⟩ := independent
  apply eq_of_agreeOn
  intro p
  by_cases written : p ∈ t.writes
  · exact (half (fun p mem => (forward p mem).1) (backward p written).2).symm
  · exact half (fun p mem => (backward p mem).1) written

end Query

end QueryRecipe
