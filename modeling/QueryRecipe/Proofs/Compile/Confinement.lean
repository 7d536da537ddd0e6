import QueryRecipe.Proofs.Compile.Acceptance
import QueryRecipe.Proofs.Step.Within

/-!
# What stands in a compiled statement

Everything that a caller gives ends up inside quotes, as long as no step has an expression or a type
that is written as it stands. The text that such a recipe compiles to is read to its end by the dialect
that it is written for, without comments or semicolons, and each quoted token in it is a name that the
caller gave, a part of one, an alias made for a joined table or an aggregate, or a string that one of
the steps asks for; what stands outside quotes are the keywords and signs of the templates, numerals,
and function names in capitals (`compile_confined`).
-/

namespace QueryRecipe

/-- Whether a name is among those given, with or without the blanks around it, or a part of one between
dots. -/
def IsGiven (names : List String) (x : String) : Prop :=
  ∃ n ∈ names, ∃ m, (m = n ∨ m = Text.trim n) ∧ (x = m ∨ x ∈ Text.split '.' m)

/-- Whether a name is the alias of a joined table that is given none: it is numbered by the joins up to
its own. -/
def IsJoinAlias (steps : List Step) (x : String) : Prop :=
  ∃ pre table schema kind label keys columns post,
    steps = pre ++ .join table schema kind label keys columns :: post ∧ givenWord? label = none ∧
      x = "j" ++ Text.naturalText (pre.countP Step.isJoin + 1)

/-- Whether a name is that of an aggregate that is given none. -/
def IsAggregateLabel (steps : List Step) (x : String) : Prop :=
  ∃ s ∈ steps, ∃ a ∈ s.aggregations, ∃ f, Aggregate.ofText a.function = .ok f ∧
    givenWord? a.label = none ∧ x = f.defaultLabel a.subject

/-- The vocabulary of a recipe on a source table whose columns may be known. -/
def Vocabulary.ofRecipe (table schema : String) (steps : List Step) (known : Option (List String)) :
    Vocabulary where
  name x :=
    IsGiven (table :: schema :: known.getD [] ++ steps.flatMap Step.names) x ∨
      IsJoinAlias steps x ∨ IsAggregateLabel steps x
  string x := ∃ s ∈ steps, x ∈ s.strings
  function x := ∃ s ∈ steps, ∃ a ∈ s.aggregations, ∃ f,
    Aggregate.ofText a.function = .ok f ∧ x = f.title

section OfRecipe
variable {table schema : String} {steps : List Step} {known : Option (List String)}

/-- A name that is given belongs to the vocabulary with its parts, also when it is trimmed. -/
lemma Vocabulary.ofRecipe_knows {n}
    (h : n ∈ table :: schema :: known.getD [] ++ steps.flatMap Step.names) :
    (ofRecipe table schema steps known).Knows n ∧
      (ofRecipe table schema steps known).Knows (Text.trim n) := by
  refine ⟨⟨.inl ?_, fun part mem => .inl ?_⟩, ⟨.inl ?_, fun part mem => .inl ?_⟩⟩
  · exact ⟨n, h, n, .inl rfl, .inl rfl⟩
  · exact ⟨n, h, n, .inl rfl, .inr mem⟩
  · exact ⟨n, h, Text.trim n, .inr rfl, .inl rfl⟩
  · exact ⟨n, h, Text.trim n, .inr rfl, .inr mem⟩

/-- The vocabulary of a recipe covers each of its steps. -/
lemma Vocabulary.ofRecipe_covers {s} (mem : s ∈ steps) :
    (ofRecipe table schema steps known).Covers s where
  names n given := by
    refine ofRecipe_knows (List.mem_append_right _ ?_)
    exact List.mem_flatMap.2 ⟨s, mem, given⟩
  strings x written := ⟨s, mem, written⟩
  functions a listed f read := ⟨s, mem, a, listed, f, read, rfl⟩
  labels a listed f read none := .inr (.inr ⟨s, mem, a, listed, f, read, none, rfl⟩)

/-- A numbered alias has no dots. -/
lemma split_numbered (n : ℕ) :
    Text.split '.' ("j" ++ Text.naturalText n) = ["j" ++ Text.naturalText n] := by
  have plain : '.' ∉ ("j" ++ Text.naturalText n).toList := by
    have digits : (Text.naturalText n).toList = Text.digitsOf n := String.toList_ofList
    rw [String.toList_append, digits, List.mem_append]
    rintro (mem | mem)
    · exact absurd mem (by decide)
    · exact absurd (Text.isDigit_digitsOf mem) (by decide)
  rw [Text.split, Text.splitAtChar_of_not_mem plain]
  simp

end OfRecipe

namespace Query

section Run
variable {table schema : String} {steps : List Step} {known : Option (List String)}

/-- The alias that a step leaves open is the numbered one, and it belongs to the vocabulary. -/
lemma nextLabel_known {own e} {pre rest : List Step} {s : Step} {q : Query}
    (whole : steps = pre ++ s :: rest)
    (numbered : q.joins.length = pre.countP Step.isJoin) (asked : s.Asks own e)
    (unnamed : e.isUnnamedJoin = true) :
    (Vocabulary.ofRecipe table schema steps known).Knows q.nextLabel := by
  have numberedAlias : IsJoinAlias steps q.nextLabel := by
    cases asked with
    | @join table joinSchema kind label keys columns k pairs known paired =>
      cases given : givenWord? label with
      | some l =>
        rw [given] at unnamed
        cases unnamed
      | none =>
        refine ⟨pre, table, joinSchema, kind, label, keys, columns, rest, whole, given, ?_⟩
        rw [nextLabel, numbered]
    | _ => cases unnamed
  refine ⟨.inr (.inl numberedAlias), ?_⟩
  rw [Vocabulary.Parts, nextLabel, split_numbered, List.forall_mem_singleton]
  exact .inr (.inl numberedAlias)

/-- Steps that are applied to the end keep a query within the vocabulary of the recipe. -/
lemma Within.applyFrom {own i pre rest} {q q' : Query}
    (h : q.Within (.ofRecipe table schema steps known)) (whole : steps = pre ++ rest)
    (numbered : q.joins.length = pre.countP Step.isJoin) (plain : ∀ s ∈ steps, s.IsPlain)
    (named : (Vocabulary.ofRecipe table schema steps known).name own)
    (run : applyFrom own i q rest = .ok q') : q'.Within (.ofRecipe table schema steps known) := by
  induction rest generalizing i pre q with
  | nil =>
    cases run
    exact h
  | cons s rest ih =>
    have mem : s ∈ steps := by simp [whole]
    have edits : ∀ e ∈ (s.resolve own).edits, e.Within (.ofRecipe table schema steps known) :=
      Step.edits_within (Vocabulary.ofRecipe_covers mem) named (plain s mem)
    obtain ⟨fine, run⟩ := applyFrom_cons_eq_ok.1 run
    -- `pre` grows by the step, and with it the number of joins if the step is one
    have joins := Step.edits_joins own fine
    have split : steps = (pre ++ [s]) ++ rest := by simp [whole]
    cases joined : s.isJoin with
    | true =>
      rw [if_pos joined] at joins
      obtain ⟨e, one, join⟩ := joins
      rw [one] at edits run
      refine ih (q := q.edit e) (h.edit (edits e (by simp)) fun unnamed => ?_) split ?_ run
      · have asked : s.Asks own e := Step.asks_of_mem (one ▸ List.mem_singleton_self e)
        exact nextLabel_known whole numbered asked unnamed
      · rw [joins_join join, numbered, List.countP_append, List.countP_singleton, if_pos joined]
    | false =>
      rw [if_neg (by simp [joined])] at joins
      refine ih (h.edits edits joins) split ?_ run
      simp [joins_edits joins, numbered, joined]

end Run

end Query

section Vocabulary
variable {table schema : String} {steps : List Step} {known : Option (List String)}

/-- The table, the schema and the known columns belong to the vocabulary of a recipe. -/
lemma Vocabulary.ofRecipe_given (n : String) (mem : n ∈ table :: schema :: known.getD []) :
    (ofRecipe table schema steps known).Knows n ∧
      (ofRecipe table schema steps known).Knows (Text.trim n) :=
  ofRecipe_knows (List.mem_append_left _ mem)

/-- The query of steps without expressions and types is within the vocabulary of the recipe. -/
lemma Query.within_of_ofSteps (table : String) (known : Option (List String)) {q : Query} (plain : ∀ s ∈ steps, s.IsPlain)
    (run : Query.ofSteps (Text.trim schema) steps = .ok q) :
    q.Within (.ofRecipe table schema steps known) :=
  Query.Within.empty.applyFrom (List.nil_append steps).symm rfl plain
    (Vocabulary.ofRecipe_given schema (by simp)).2.1 run

/-- A recipe without expressions and types compiles to a statement within its vocabulary. -/
lemma within_of_compile {d : Dialect} {page : Page} {sql : Sql} (plain : ∀ s ∈ steps, s.IsPlain)
    (compiled : compile d table schema steps page known = .ok sql) :
    ∃ q, Query.ofSteps (Text.trim schema) steps = .ok q ∧
      sql = (q.statement d ⟨Text.trim schema, Text.trim table⟩ page known).sql d ∧
        (q.statement d ⟨Text.trim schema, Text.trim table⟩ page known).Within
          (.ofRecipe table schema steps known) := by
  obtain ⟨query, run, rfl⟩ := compile_eq_ok compiled
  have columns : ∀ names ∈ known, ∀ c ∈ names,
      (Vocabulary.ofRecipe table schema steps known).Parts c := by
    rintro names ⟨⟩ c mem
    exact (Vocabulary.ofRecipe_given c (by simp [mem])).1.2
  have own : (Vocabulary.ofRecipe table schema steps known).name (Text.trim schema) :=
    (Vocabulary.ofRecipe_given schema (by simp)).2.1
  have source : (Vocabulary.ofRecipe table schema steps known).name (Text.trim table) :=
    (Vocabulary.ofRecipe_given table (by simp)).2.1
  have within := Query.within_of_ofSteps table known plain run
  exact ⟨query, run, rfl, within.statement ⟨own, source⟩ columns⟩

end Vocabulary

/-- The statement of a recipe without expressions and types is read to its end by its dialect, without
comments and semicolons, and each token of it is a name, string or function of the recipe, quoted as is
meant for it, or a keyword, sign or numeral. -/
theorem compile_confined (d : Dialect) (table schema : String) (steps : List Step) (page : Page)
    (known : Option (List String)) (plain : ∀ s ∈ steps, s.IsPlain) (q : Sql)
    (compiled : compile d table schema steps page known = .ok q) :
    ∃ toks, Lexer.lex d (q.text d).toList = some toks ∧ .comment ∉ toks ∧ .symbol ';' ∉ toks ∧
      ∀ t ∈ toks, t.Within (.ofRecipe table schema steps known) d := by
  obtain ⟨query, -, rfl, within⟩ := within_of_compile plain compiled
  rw [Sql.text, String.toList_ofList]
  obtain ⟨toks, read, fine⟩ := (Statement.fits within).reads (d := d)
  refine ⟨toks, read, fine .comment, fun mem => ?_, fine⟩
  have semicolon : ';' ∈ signs := fine (.symbol ';') mem
  exact absurd semicolon (by decide)

/-- Quotes and backslashes of the caller stay inside the quotes. -/
theorem compile_confined_quotes :
    let steps : List Step := [.filter [⟨"it`s", some "like", .string "a\' OR 1 = 1 -- "⟩] none,
      .join "si;zes" none none none [⟨"size", "id"⟩] [], .groupBy ["size"] [⟨"price", some "sum", none⟩]]
    (∀ s ∈ steps, s.IsPlain) ∧ ∃ q, compile .mysql "orders" "shop" steps {} none = .ok q ∧
      ∃ toks, Lexer.lex .mysql (q.text .mysql).toList = some toks ∧ .comment ∉ toks ∧
        .symbol ';' ∉ toks ∧ ∀ t ∈ toks, t.Within (.ofRecipe "orders" "shop" steps none) .mysql := by
  intro steps
  have plain : ∀ s ∈ steps, s.IsPlain := by simp [steps, Step.IsPlain]
  have compiles : (compile .mysql "orders" "shop" steps {} none).isOk = true := by decide +kernel
  cases e : compile .mysql "orders" "shop" steps {} none with
  | error fault =>
    rw [e] at compiles
    cases compiles
  | ok q => exact ⟨plain, q, rfl, compile_confined .mysql "orders" "shop" steps {} none plain q e⟩

/-- Under a membership test a string with commas is written as its trimmed parts, which are neither
literals nor names of the caller. -/
theorem compile_splits_string :
    let s : Step := .filter [⟨"size", some "in", .string "a, b"⟩] none
    s.IsPlain ∧ ∃ q toks, compile .postgres "orders" "" [s] {} none = .ok q ∧
      Lexer.lex .postgres (q.text .postgres).toList = some toks ∧
      .quoted .single ['a'] ∈ toks ∧ "a" ∉ (Literal.string "a, b").strings ∧
      "a" ≠ (Literal.string "a, b").text ∧ ¬ (Vocabulary.ofRecipe "orders" "" [s] none).name "a" := by
  intro s
  refine ⟨trivial, ?_⟩
  -- the phrase and its tokens are computed together, so that neither has to be written out
  have written : ((compile .postgres "orders" "" [s] {} none).toOption.bind fun q =>
      Lexer.lex .postgres (q.text .postgres).toList).any (.quoted .single ['a'] ∈ ·) = true := by
    decide +kernel
  obtain ⟨toks, read, mem⟩ := Option.any_eq_true _ _ |>.1 written
  obtain ⟨q, compiled, read⟩ := Option.bind_eq_some_iff.1 read
  refine ⟨q, toks, ?_, read, of_decide_eq_true mem, by decide, by decide, ?_⟩
  · cases e : compile .postgres "orders" "" [s] {} none with
    | error fault =>
      rw [e] at compiled
      cases compiled
    | ok q' =>
      rw [e] at compiled
      cases compiled
      rfl
  · have none : ∀ n ∈ ["orders", "", "size"], ∀ m ∈ [n, Text.trim n],
        ¬ ("a" = m ∨ "a" ∈ Text.split '.' m) := by decide +kernel
    rintro (⟨n, given, m, same, part⟩ | ⟨pre, table, schema, kind, label, keys, columns, post, e, -⟩ |
      ⟨s', given, a, listed, -⟩)
    · exact none n given m (by simpa using same) part
    · have join : Step.join table schema kind label keys columns ∈ [s] := by simp [e]
      exact absurd (List.mem_singleton.1 join) (by simp [s])
    · cases List.mem_singleton.1 given
      cases listed

end QueryRecipe
