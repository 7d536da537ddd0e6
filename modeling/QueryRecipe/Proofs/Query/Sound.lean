import QueryRecipe.Proofs.Query.Within
import QueryRecipe.Proofs.Screening.Keywords
import QueryRecipe.Proofs.Text.Blank

/-!
# Queries that hold together

What is true of a query whatever steps it has gone through (`Query.Sound`): its names are trimmed and not
blank, no column has two values, a chosen or shown order goes with an explicit list of columns, filters
and groupings are not empty, and expressions and function names are those that were accepted.

The parts depend on each other. That an order to show goes with an explicit list rests on the same being
true of the choice of columns, since an edit that reorders chosen columns leaves them alone. Edits that
bring in nothing else keep a query so (`Query.Sound.edits`).
-/

namespace QueryRecipe

open Text (Tidy)

/-- Whether the names of an aggregate are tidy, and any further function is a plain name in capitals
without forbidden keywords. -/
structure AggregateColumn.Sound (a : AggregateColumn) : Prop where
  column : Tidy a.column
  label : Tidy a.label
  function : ∀ name, a.function = .other name →
    IsFunctionName name.toList ∧ Keyword.Free Keyword.forbidden name.toList

/-- Whether a grouping has something in it, with tidy names. -/
structure Grouping.Sound (g : Grouping) : Prop where
  something : g.columns ≠ [] ∨ g.aggregates ≠ []
  columns : ∀ c ∈ g.columns, Tidy c
  aggregates : ∀ a ∈ g.aggregates, a.Sound

/-- Whether a computed column has a tidy name and an expression that screening returns as it is. -/
structure Added.Sound (a : Added) : Prop where
  expression : screen a.expression = .ok a.expression
  label : Tidy a.label

/-- Whether the text of a filter is something in parentheses. -/
def Filter.Enclosed (f : Filter) : Prop :=
  ∀ d, ∃ inside, inside ≠ [] ∧ (f.sql d).spelling d = '(' :: inside ++ [')']

/-- Whether the text of a sort term ends with its direction. -/
def SortTerm.Directed (t : SortTerm) : Prop :=
  ∀ d, " ASC".toList <:+ (t.sql d).spelling d ∨ " DESC".toList <:+ (t.sql d).spelling d

/-- Whether an edit brings in tidy names, accepted texts and no empty filter or grouping. -/
def Edit.Sound : Edit → Prop
  | .select columns | .reorder columns | .drop columns => ∀ c ∈ columns, Tidy c
  | .rename column label => Tidy column ∧ Tidy label
  | .add a => a.Sound
  | .filter _ tests => tests ≠ []
  | .sort .. | .page _ => True
  | .join _ _ _ label _ columns => (∀ l ∈ label, Tidy l) ∧ ∀ c ∈ columns, Tidy c
  | .group g => g.Sound
  | .dedup d => ∀ columns, d = .on columns → columns ≠ [] ∧ ∀ c ∈ columns, Tidy c
  | .union u => Tidy u.table
  | .change column _ => Tidy column

namespace Query

/-- What is true of every query. -/
structure Sound (q : Query) : Prop where
  distinct : (q.transforms.map (·.column)).Nodup
  transforms : ∀ t ∈ q.transforms, Tidy t.column
  selected : q.selected = true → ∃ names, q.columns = .explicit names
  displayed : q.display.isSome = true → ∃ names, q.columns = .explicit names
  columns : ∀ c ∈ q.columns.names, Tidy c
  dropped : ∀ c ∈ q.dropped.names, Tidy c
  renames : ∀ e ∈ q.renames.entries, Tidy e.1 ∧ Tidy e.2
  added : ∀ a ∈ q.added, a.Sound
  filters : ∀ f ∈ q.filters, f.Enclosed
  order : ∀ t ∈ q.order, t.Directed
  dedup : ∀ columns, q.dedup = .on columns → columns ≠ [] ∧ ∀ c ∈ columns, Tidy c
  display : ∀ names ∈ q.display, ∀ c ∈ names, Tidy c
  grouping : ∀ g ∈ q.grouping, g.Sound
  unions : ∀ u ∈ q.unions, Tidy u.table

end Query

section Texts

/-- A condition is never written as nothing. -/
lemma Condition.spelling_ne_nil (c : Condition) (d : Dialect) : (c.sql d).spelling d ≠ [] := by
  obtain ⟨subject, comparison, operand⟩ := c
  -- each form of a condition has a blank or a constant in it
  cases comparison with
  | isIn | notIn => cases e : operand.members <;> simp [Condition.sql, e, Sql.spelling, Piece.spelling]
  | _ => simp [Condition.sql, Sql.spelling, Piece.spelling]

/-- A filter with conditions has something between its parentheses. -/
lemma Filter.enclosed {f : Filter} (h : f.conditions ≠ []) : f.Enclosed := by
  intro d
  obtain ⟨c, cs, e⟩ := List.exists_cons_of_ne_nil h
  let inside := Sql.separated (" " ++ f.connective.keyword ++ " ") (f.conditions.map (·.sql d))
  refine ⟨Sql.spelling d inside, ?_, by simp [inside, Filter.sql, Sql.spelling, Piece.spelling]⟩
  obtain ⟨rest, split⟩ : c.sql d <+: inside := by
    show c.sql d <+: Sql.separated _ _
    rw [e]
    exact Sql.prefix_separated
  rw [← split, Sql.spelling_append]
  intro none
  exact c.spelling_ne_nil d (List.append_eq_nil_iff.1 none).1

/-- Every sort term is directed. -/
lemma SortTerm.directed (t : SortTerm) : t.Directed := by
  intro d
  cases e : t.direction with
  | ascending =>
    refine .inl ⟨(t.subject.sql d).spelling d, ?_⟩
    simp [SortTerm.sql, e, Sql.spelling, Piece.spelling, Direction.keyword]
  | descending =>
    refine .inr ⟨(t.subject.sql d).spelling d, ?_⟩
    simp [SortTerm.sql, e, Sql.spelling, Piece.spelling, Direction.keyword]

end Texts

namespace Query

/-- Dropping columns from a list leaves a list. -/
lemma Columns.explicit_without {gone columns} (h : ∃ names, columns = Columns.explicit names) :
    ∃ names, Columns.without gone columns = .explicit names := by
  obtain ⟨names, rfl⟩ := h
  exact ⟨_, rfl⟩

/-- Joining columns to a list leaves a list. -/
lemma Columns.explicit_joined {label cs columns} (h : ∃ names, columns = Columns.explicit names) :
    ∃ names, Columns.joined label cs columns = .explicit names := by
  obtain ⟨names, rfl⟩ := h
  exact ⟨_, rfl⟩

/-- What dropping columns leaves was listed before. -/
lemma Columns.mem_without {gone columns c} (h : c ∈ (Columns.without gone columns).names) :
    c ∈ columns.names := by
  cases columns with
  | wildcard => exact h
  | explicit names => exact (List.mem_filter.1 h).1

/-- After a join a listed column was listed before or is a joined one under its label. -/
lemma Columns.mem_joined {label cs columns c} (h : c ∈ (Columns.joined label cs columns).names) :
    c ∈ columns.names ∨ ∃ c' ∈ cs, c = label ++ "." ++ c' := by
  cases columns with
  | wildcard => cases h
  | explicit names =>
    cases List.mem_append.1 h with
    | inl old => exact .inl old
    | inr new =>
      obtain ⟨c', mem, rfl⟩ := List.mem_map.1 new
      exact .inr ⟨c', mem, rfl⟩

/-- The names of a set after inserting several are the inserted ones and its own. -/
lemma mem_insertAll {s : NameSet} {names : List String} {c} (h : c ∈ (s.insertAll names).names) :
    c ∈ names ∨ c ∈ s.names := by
  induction names generalizing s with
  | nil => exact .inr h
  | cons n names ih =>
    cases ih h with
    | inl later => exact .inl (List.mem_cons_of_mem n later)
    | inr inserted =>
      obtain ⟨e, mem, rfl⟩ := List.mem_map.1 inserted
      cases NameMap.mem_insertEntry mem with
      | inl new => exact .inl (new ▸ List.mem_cons_self)
      | inr old => exact .inr (List.mem_map_of_mem old)

section Sound
variable {q : Query}

/-- The empty query is sound. -/
lemma Sound.empty : Sound {} where
  distinct := List.nodup_nil
  transforms := by simp
  selected := by simp
  displayed := by simp
  columns := by simp [Columns.names]
  dropped := by simp [NameMap.names, EmptyCollection.emptyCollection, NameMap.empty]
  renames := by simp [EmptyCollection.emptyCollection, NameMap.empty]
  added := by simp
  filters := by simp
  order := by simp
  dedup := by simp
  display := by simp
  grouping := by simp
  unions := by simp

/-- The alias of a joined table that is given none is tidy. -/
lemma tidy_nextLabel (q : Query) : Tidy q.nextLabel := by
  have digits : (Text.naturalText (q.joins.length + 1)).toList =
      Text.digitsOf (q.joins.length + 1) := String.toList_ofList
  have ne : Text.digitsOf (q.joins.length + 1) ≠ [] := Nat.toDigits_ne_nil
  obtain ⟨l, last⟩ := Option.ne_none_iff_exists'.1 (mt List.getLast?_eq_none_iff.1 ne)
  refine Text.tidy_iff.2 ⟨⟨'j', by simp [nextLabel], by decide⟩, l, ?_, ?_⟩
  · simp [nextLabel, digits, List.getLast?_cons, last]
  · have digit := Text.isDigit_digitsOf (List.mem_of_getLast? last)
    rw [Lexer.isDigit_iff] at digit
    simp [Text.isBlank]
    omega

/-- A sound edit keeps a query sound. -/
lemma Sound.edit (h : q.Sound) {e : Edit} (he : e.Sound) : (q.edit e).Sound := by
  cases e with
  | select columns =>
    exact { h with selected := fun _ => ⟨_, rfl⟩, displayed := fun _ => ⟨_, rfl⟩, columns := he }
  | rename column label =>
    refine { h with renames := fun entry mem => ?_ }
    cases NameMap.mem_insertEntry mem with
    | inl new => exact new ▸ he
    | inr old => exact h.renames entry old
  | drop columns =>
    refine { h with
      selected := fun chosen => Columns.explicit_without (h.selected chosen)
      displayed := fun shown => Columns.explicit_without (h.displayed shown)
      columns := fun c mem => h.columns c (Columns.mem_without mem)
      dropped := fun c mem => ?_ }
    exact (mem_insertAll mem).elim (he c) (h.dropped c)
  | add a =>
    refine { h with added := fun a' mem => ?_ }
    cases List.mem_append.1 mem with
    | inl old => exact h.added a' old
    | inr new => exact List.mem_singleton.1 new ▸ he
  | filter connective tests =>
    refine { h with filters := fun f mem => ?_ }
    cases List.mem_append.1 mem with
    | inl old => exact h.filters f old
    | inr new =>
      cases List.mem_singleton.1 new
      exact Filter.enclosed (mt List.map_eq_nil_iff.1 he)
  | sort column direction =>
    exact { h with order := fun t _ => t.directed }
  | join kind schema table label keys columns =>
    obtain ⟨given, columns⟩ := he
    have label : Tidy (label.getD q.nextLabel) := by
      cases label with
      | none => exact q.tidy_nextLabel
      | some l => exact given l rfl
    refine { h with
      selected := fun chosen => Columns.explicit_joined (h.selected chosen)
      displayed := fun shown => Columns.explicit_joined (h.displayed shown)
      columns := fun c mem => ?_ }
    cases Columns.mem_joined mem with
    | inl old => exact h.columns c old
    | inr new =>
      obtain ⟨c, asked, rfl⟩ := new
      exact label.append "." (columns c asked)
  | group g =>
    refine { h with grouping := fun g' mem => ?_ }
    cases mem
    exact he
  | dedup d => exact { h with dedup := he }
  | page p => exact { h with }
  | reorder columns =>
    have listed : ∃ names, (q.edit (.reorder columns)).columns = .explicit names := by
      show ∃ names, (if q.selected then q.columns else _) = Columns.explicit names
      split
      next chosen => exact h.selected chosen
      next => exact ⟨_, rfl⟩
    refine { h with
      selected := fun _ => listed
      displayed := fun _ => listed
      columns := fun c mem => ?_
      display := fun names mem => ?_ }
    · change c ∈ (if q.selected then q.columns else _).names at mem
      split at mem
      next => exact h.columns c mem
      next => exact he c (List.mem_filter.1 mem).1
    · cases mem
      exact he
  | union u =>
    refine { h with unions := fun u' mem => ?_ }
    cases List.mem_append.1 mem with
    | inl old => exact h.unions u' old
    | inr new => exact List.mem_singleton.1 new ▸ he
  | change column c =>
    refine { h with distinct := nodup_setTransform h.distinct, transforms := fun t mem => ?_ }
    cases mem_setTransform mem with
    | inl new => exact new ▸ he
    | inr old => exact h.transforms t old

/-- Sound edits of a sound query leave it sound. -/
lemma Sound.edits (h : q.Sound) {es : List Edit} (hes : ∀ e ∈ es, e.Sound) :
    (q.edits es).Sound :=
  edits_invariant h fun e mem _ sound => sound.edit (hes e mem)

end Sound

end Query

end QueryRecipe
