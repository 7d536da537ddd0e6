import QueryRecipe.Proofs.Query.Within
import QueryRecipe.Proofs.Step.Edits

/-!
# What a step brings in

The names, strings and aggregates that a step gives, in terms of its own fields, and when it is free of
expressions and types that are written as they stand (`Step.IsPlain`). The edits of such a step stay
within every vocabulary that covers what it gives (`Step.edits_within`).
-/

namespace QueryRecipe

/-- The column of an aggregate; without one all rows are meant. -/
def Aggregation.subject (a : Aggregation) : String :=
  (Text.nonblank? a.column).getD "*"

namespace Step

/-- The names that a step gives, as the recipe has them. -/
def names : Step → List String
  | .select columns | .reorder columns | .dropColumn columns | .deduplicate columns => columns
  | .rename mapping => mapping.entries.flatMap fun e => [e.1, e.2]
  | .cast column _ | .trim column _ | .recase column _ => [column]
  | .replace column _ _ _ | .fillNull column _ _ => [column]
  | .addColumn name _ => name.toList
  | .filter conditions _ => conditions.map (·.column)
  | .sort keys => keys.map (·.column)
  | .limit .. => []
  | .join table schema _ label keys columns =>
    table :: schema.toList ++ label.toList ++ keys.flatMap (fun k => [k.left, k.right]) ++ columns
  | .union table schema _ => table :: schema.toList
  | .groupBy columns aggregations =>
    columns ++ aggregations.flatMap fun a => a.column :: a.label.toList

/-- The strings that are written for a condition. -/
def conditionStrings (c : FilterCondition) : List String :=
  (Comparison.ofText (c.comparison.getD "")).toOption.elim [] c.operand.operandStrings

/-- The strings that are written for the literals of a step. -/
def strings : Step → List String
  | .filter conditions _ => conditions.flatMap conditionStrings
  | .replace _ old new _ => old.toList ++ new.strings
  | .fillNull _ value emptyToo => value.strings ++ if emptyToo then [""] else []
  | _ => []

/-- The aggregates of a step. -/
def aggregations : Step → List Aggregation
  | .groupBy _ aggregations => aggregations
  | _ => []

/-- Whether nothing of a step is written as it stands: it has no expression and no type. -/
def IsPlain : Step → Prop
  | .cast .. | .addColumn .. => False
  | .replace _ _ _ expression => ¬ Present expression
  | _ => True

/-- Whether a step joins a table. -/
def isJoin : Step → Bool
  | .join .. => true
  | _ => false

end Step

/-- Whether a name and its parts belong to a vocabulary. -/
def Vocabulary.Knows (V : Vocabulary) (n : String) : Prop :=
  V.name n ∧ V.Parts n

/-- Whether what a step gives belongs to a vocabulary: its names as they stand and trimmed, its strings,
its aggregates, and their names in the result where it gives none. -/
structure Vocabulary.Covers (V : Vocabulary) (s : Step) : Prop where
  names : ∀ n ∈ s.names, V.Knows n ∧ V.Knows (Text.trim n)
  strings : ∀ x ∈ s.strings, V.string x
  functions : ∀ a ∈ s.aggregations, ∀ f, Aggregate.ofText a.function = .ok f → V.function f.title
  labels : ∀ a ∈ s.aggregations, ∀ f, Aggregate.ofText a.function = .ok f →
    givenWord? a.label = none → V.name (f.defaultLabel a.subject)

section Functions

/-- What the capitals of the characters of an identifier are. -/
lemma toUpper_ascii : ∀ n : Fin 128,
    (Aggregate.isNameStart (.ofNat n) = true →
        (Char.ofNat n).toUpper.isUpper = true ∨ (Char.ofNat n).toUpper = '_') ∧
      ((Char.ofNat n).isDigit = true → (Char.ofNat n).toUpper = .ofNat n) := by
  decide +kernel

/-- The characters of an identifier are basic ones. -/
lemma toNat_lt_of_plain {c : Char} (h : Aggregate.isNameStart c = true ∨ c.isDigit = true) :
    c.toNat < 128 := by
  simp only [Aggregate.isNameStart, Bool.or_eq_true, decide_eq_true_eq, Lexer.isAlpha_iff,
    Lexer.isUpper_iff, Lexer.isLower_iff, Lexer.isDigit_iff] at h
  rcases h with (letter | rfl) | digit
  · omega
  · decide
  · omega

/-- A character that starts an identifier becomes a capital, or it is an underscore. -/
lemma upperChar_nameStart {c} (h : Aggregate.isNameStart c = true) :
    ∃ u, Text.upperChar c = [u] ∧ (u.isUpper = true ∨ u = '_') := by
  have basic : c.toNat < 128 := toNat_lt_of_plain (.inl h)
  have capital := (toUpper_ascii ⟨c.toNat, basic⟩).1
  rw [Char.ofNat_toNat] at capital
  exact ⟨c.toUpper, if_pos basic, capital h⟩

/-- A digit has no capital. -/
lemma upperChar_digit {c : Char} (h : c.isDigit = true) : Text.upperChar c = [c] := by
  have basic : c.toNat < 128 := toNat_lt_of_plain (.inr h)
  have same := (toUpper_ascii ⟨c.toNat, basic⟩).2
  rw [Char.ofNat_toNat] at same
  rw [Text.upperChar, if_pos basic, same h]

/-- A plain identifier in capitals is a function name. -/
lemma isFunctionName_upper {s : List Char} (h : Aggregate.isPlainName s = true) :
    IsFunctionName (Text.upperChars s) := by
  cases s with
  | nil => cases h
  | cons c r =>
    simp only [Aggregate.isPlainName, Bool.and_eq_true, List.all_eq_true, Bool.or_eq_true] at h
    obtain ⟨first, rest⟩ := h
    obtain ⟨u, upper, capital⟩ := upperChar_nameStart first
    refine ⟨u, Text.upperChars r, by simp [Text.upperChars, upper], capital, fun a mem => ?_⟩
    obtain ⟨b, listed, mem⟩ := List.mem_flatMap.1 mem
    cases rest b listed with
    | inl start =>
      obtain ⟨v, upper, capital⟩ := upperChar_nameStart start
      rw [upper] at mem
      cases List.mem_singleton.1 mem
      exact capital.imp id .inr
    | inr digit =>
      rw [upperChar_digit digit] at mem
      cases List.mem_singleton.1 mem
      exact .inr (.inl digit)

/-- Capitals are a function name. -/
lemma isFunctionName_of_upper {s : List Char} (ne : s ≠ []) (h : s.all Char.isUpper = true) :
    IsFunctionName s := by
  obtain ⟨c, r, rfl⟩ := List.exists_cons_of_ne_nil ne
  obtain ⟨first, rest⟩ := List.forall_mem_cons.1 (List.all_eq_true.1 h)
  exact ⟨c, r, rfl, .inl first, fun a mem => .inl (rest a mem)⟩

/-- None of the functions that every dialect has is known by its own name only. -/
lemma named?_ne_other {w name} : Aggregate.named? w ≠ some (.other name) := by
  intro h
  rw [Aggregate.named?.eq_def] at h
  split at h <;> cases h

/-- The functions that every dialect has are known by words in capitals, apart from the one with two
words. -/
lemma isFunctionName_of_named {w f} (h : Aggregate.named? w = some f) :
    f = .countDistinct ∨ IsFunctionName f.title.toList := by
  cases f with
  | countDistinct => exact .inl rfl
  | count | sum | avg | min | max =>
    exact .inr (isFunctionName_of_upper (by decide) (by decide))
  | other name => exact absurd h named?_ne_other

/-- A function is known by an identifier in capitals, unless it is the one with two words. -/
lemma isFunctionName_of_ofText {s f} (h : Aggregate.ofText s = .ok f) :
    f = .countDistinct ∨ IsFunctionName f.title.toList := by
  rw [Aggregate.ofText] at h
  split at h
  next known =>
    cases h
    exact isFunctionName_of_named known
  next =>
    dsimp only at h
    split at h
    next plain =>
      cases h
      rw [Bool.and_eq_true] at plain
      rw [Aggregate.title, Text.upper, String.toList_ofList]
      exact .inr (isFunctionName_upper plain.1)
    next => cases h

end Functions

section Edits
variable {V : Vocabulary} {schema : String}

/-- The names of a list that are not blank are trimmed names of the list. -/
lemma Vocabulary.knows_nonblanks {V : Vocabulary} {columns : List String}
    (h : ∀ n ∈ columns, V.Knows n ∧ V.Knows (Text.trim n)) :
    ∀ n ∈ Text.nonblanks columns, V.Knows n := by
  intro n mem
  obtain ⟨c, listed, present⟩ := List.mem_filterMap.1 mem
  rw [← (Text.nonblank?_eq_some_iff.1 present).1]
  exact (h c listed).2

/-- A vocabulary that knows a word as written and trimmed knows the word that is given. -/
lemma Vocabulary.knows_given {V : Vocabulary} {s : Option String} {t}
    (h : ∀ n ∈ s.toList, V.Knows n ∧ V.Knows (Text.trim n)) (given : givenWord? s = some t) :
    V.Knows t := by
  obtain ⟨u, rfl, rfl, -⟩ := Step.givenWord?_eq_some_iff.1 given
  exact (h u (by simp)).2

/-- The schema of a table is the one that is given or that of the recipe. -/
lemma Vocabulary.name_schemaOr {V : Vocabulary} {s : Option String}
    (h : ∀ n ∈ s.toList, V.Knows n ∧ V.Knows (Text.trim n)) (own : V.name schema) :
    V.name (Step.schemaOr schema s) := by
  rw [Step.schemaOr]
  cases given : givenWord? s with
  | none => exact own
  | some t => exact (V.knows_given h given).1

namespace Step

/-- A test of a filter step comes from one of its conditions. -/
lemma mem_tests {conditions : List FilterCondition} {t} (h : t ∈ tests conditions) :
    ∃ c ∈ conditions, ∃ comparison, Comparison.ofText (c.comparison.getD "") = .ok comparison ∧
      t = ⟨c.column, comparison, c.operand⟩ := by
  obtain ⟨c, listed, made⟩ := List.mem_filterMap.1 h
  obtain ⟨_, -, made⟩ := Option.bind_eq_some_iff.1 made
  obtain ⟨comparison, known, ⟨⟩⟩ := Option.bind_eq_some_iff.1 made
  cases e : Comparison.ofText (c.comparison.getD "") with
  | error r =>
    rw [e] at known
    cases known
  | ok o =>
    rw [e] at known
    cases known
    exact ⟨c, listed, _, e, rfl⟩

/-- The change of a plain step belongs to the vocabulary. -/
lemma change_within {s : Step} {column change} (h : V.Covers s) (plain : s.IsPlain)
    (made : s.change? = some (column, change)) : (Edit.change column change).Within V := by
  have names := h.names
  have strings := h.strings
  cases s with
  | cast => exact plain.elim
  | replace c old new expression =>
    simp only [change?, Option.some.injEq, Prod.mk.injEq] at made
    obtain ⟨rfl, rfl⟩ := made
    refine ⟨(names c (by simp [Step.names])).2.2, ?_⟩
    have absent : givenWord? expression = none := by
      by_contra given
      exact plain (givenWord?_isSome.1 (Option.ne_none_iff_exists'.1 given))
    obtain ⟨olds, news⟩ := List.forall_mem_append.1 strings
    cases old with
    | none =>
      simp only [replacement, absent]
      exact news
    | some old =>
      simp only [replacement, absent]
      exact ⟨olds old (by simp), news⟩
  | trim c side =>
    simp only [change?, Option.some.injEq, Prod.mk.injEq] at made
    obtain ⟨rfl, rfl⟩ := made
    exact ⟨(names c (by simp [Step.names])).2.2, trivial⟩
  | recase c mode =>
    obtain ⟨mode, -, ⟨⟩⟩ := Option.map_eq_some_iff.1 made
    exact ⟨(names c (by simp [Step.names])).2.2, trivial⟩
  | fillNull c value emptyToo =>
    simp only [change?, Option.some.injEq, Prod.mk.injEq] at made
    obtain ⟨rfl, rfl⟩ := made
    obtain ⟨values, empty⟩ := List.forall_mem_append.1 strings
    refine ⟨(names c (by simp [Step.names])).2.2, values, fun too => empty "" ?_⟩
    simp [too]
  | _ => cases made

/-- An aggregate that a step asks for belongs to the vocabulary. -/
lemma aggregation_within {s : Step} {a c} (h : V.Covers s) (listed : a ∈ s.aggregations)
    (resolved : resolveAggregation a = .ok c) : c.Within V := by
  obtain ⟨f, known, resolved⟩ := bind_eq_ok.1 resolved
  rw [checked_eq_ok] at known
  -- only a grouping has aggregates, and their columns and labels are among its names
  have told : ∀ n ∈ a.column :: a.label.toList, V.Knows n ∧ V.Knows (Text.trim n) := by
    cases s with
    | groupBy columns aggregations =>
      intro n mem
      exact h.names n (List.mem_append_right _ (List.mem_flatMap.2 ⟨a, listed, mem⟩))
    | _ => cases listed
  obtain ⟨column, label⟩ := List.forall_mem_cons.1 told
  have function : f.Within V :=
    (isFunctionName_of_ofText known).imp id fun name => ⟨h.functions a listed f known, name⟩
  have named : V.name ((givenWord? a.label).getD (f.defaultLabel a.subject)) := by
    cases given : givenWord? a.label with
    | none =>
      rw [Option.getD_none]
      exact h.labels a listed f known given
    | some l => exact (V.knows_given label given).1
  rw [Aggregation.subject] at named
  split at resolved
  next t present =>
    cases resolved
    rw [present] at named
    refine ⟨function, fun _ => ?_, named⟩
    rw [← (Text.nonblank?_eq_some_iff.1 present).1]
    exact column.2.2
  next absent =>
    rw [absent] at named
    split at resolved
    next =>
      cases resolved
      exact ⟨function, fun ne => absurd rfl ne, named⟩
    next => cases resolved

end Step

/-- The edits of a plain step stay within a vocabulary that covers what it gives. -/
lemma Step.edits_within {s : Step} (h : V.Covers s) (own : V.name schema) (plain : s.IsPlain) :
    ∀ e ∈ (s.resolve schema).edits, e.Within V := by
  intro e mem
  have names := h.names
  cases Step.asks_of_mem mem with
  | select => exact fun c mem => (V.knows_nonblanks names c mem).2
  | @rename mapping entry listed =>
    refine (names entry.2 ?_).2.1
    exact List.mem_flatMap.2 ⟨entry, listed, by simp⟩
  | reorder => exact fun c mem => (V.knows_nonblanks names c mem).2
  | @change _ column change made => exact change_within h plain made
  | addColumn => exact plain.elim
  | dropColumn => trivial
  | @filter conditions connective k known =>
    intro t mem
    obtain ⟨c, listed, comparison, known, rfl⟩ := mem_tests mem
    refine ⟨(names c.column (List.mem_map.2 ⟨c, listed, rfl⟩)).1.2, fun x written => ?_⟩
    refine h.strings x (List.mem_flatMap.2 ⟨c, listed, ?_⟩)
    rw [conditionStrings, known]
    exact written
  | @sort keys key direction listed =>
    exact (names key.column (List.mem_map.2 ⟨key, listed, rfl⟩)).1.2
  | rows => trivial
  | deduplicate => exact fun c mem => (V.knows_nonblanks names c mem).2
  | limit => trivial
  | @join table joinSchema kind label keys columns k pairs known paired =>
    simp only [Step.names, List.cons_append, List.forall_mem_cons, List.forall_mem_append] at names
    obtain ⟨table, ⟨⟨schema, label⟩, keys⟩, columns⟩ := names
    refine ⟨⟨V.name_schemaOr schema own, table.2.1⟩, fun l given => V.knows_given label given, ?_,
      fun c mem => (V.knows_nonblanks columns c mem).2⟩
    intro pair mem
    -- a cross join has no keys
    rcases paired with rfl | paired
    · cases mem
    · obtain ⟨key, listed, resolved⟩ := mem_of_mapM paired mem
      obtain ⟨left, given, resolved⟩ := bind_eq_ok.1 resolved
      obtain ⟨right, given', ⟨⟩⟩ := bind_eq_ok.1 resolved
      rw [needed_eq_ok given, needed_eq_ok given']
      have both {n} (mem : n ∈ [key.left, key.right]) : V.Parts (Text.trim n) :=
        (keys n (List.mem_flatMap.2 ⟨key, listed, mem⟩)).2.2
      exact ⟨both (by simp), both (by simp)⟩
  | union =>
    obtain ⟨table, schema⟩ := List.forall_mem_cons.1 names
    exact ⟨V.name_schemaOr schema own, table.2.1⟩
  | @groupBy columns aggregations aggregates made =>
    obtain ⟨columns, aggregations⟩ := List.forall_mem_append.1 names
    refine ⟨fun c mem => V.knows_nonblanks columns c mem, fun a mem => ?_⟩
    obtain ⟨asked, listed, resolved⟩ := mem_of_mapM made mem
    exact aggregation_within h listed resolved

/-- A step without fault that joins a table comes to one edit, and one that joins none has no edit that
does. -/
lemma Step.edits_joins (schema : String) {s : Step} (fine : s.fault = none) :
    if s.isJoin then ∃ e, (s.resolve schema).edits = [e] ∧ e.isJoin = true
    else ∀ e ∈ (s.resolve schema).edits, e.isJoin = false := by
  split
  next joins =>
    cases s with
    | join table joinSchema kind label keys columns =>
      obtain ⟨k, pairs, one⟩ := edits_join schema fine
      exact ⟨_, one, rfl⟩
    | _ => cases joins
  next none =>
    intro e mem
    cases asks_of_mem mem with
    | join => exact absurd rfl none
    | _ => rfl

end Edits

end QueryRecipe
