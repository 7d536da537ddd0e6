import QueryRecipe.Proofs.Expr
import QueryRecipe.Proofs.Lexer.Next
import QueryRecipe.Proofs.Sql.Phrase
import QueryRecipe.Proofs.Text.Search
import QueryRecipe.Statement.OfQuery

/-!
# Which sort terms a reference finds

The sort terms for `DISTINCT ON` are found by comparing texts: a term is taken for a reference if its
text begins with that of the reference and a blank. Of the columns of a recipe this means what it should
(`sortsBy_given`): where a name ends in a text can be seen from the text (`quoteName_append_inj`), the
column is the first thing in the text of its changes that can begin a column at all, and every change puts
something around what it changes, so the text of one state of a column is never the beginning of
another's. Expressions and types that a change brings in stand behind the column and have no part in this.
-/

namespace QueryRecipe

namespace Dialect

/-- Whether a column may begin with a character: with the alias of the source table or a quoted name. -/
def opensColumn (d : Dialect) (c : Char) : Bool :=
  c = 't' || c = d.nameQuote

/-- Whether a text is not the continuation of a column. -/
def Apart (d : Dialect) (s : List Char) : Prop :=
  s.head? ≠ some '.' ∧ s.head? ≠ some d.nameQuote

variable {d : Dialect} {s s' r r' : List Char}

/-- Whether a text continues a column depends on its beginning only. -/
lemma apart_append (ne : s ≠ []) : d.Apart (s ++ r) ↔ d.Apart s := by
  rw [Apart, Apart, List.head?_append_of_ne_nil _ ne]

/-- A quoted name ends where no delimiter follows, since it is read back as far as there. -/
lemma quoteName_append_inj {n n' : String} (h : r.head? ≠ some d.nameQuote)
    (h' : r'.head? ≠ some d.nameQuote) (same : d.quoteName n ++ r = d.quoteName n' ++ r') :
    n = n' ∧ r = r' := by
  have read : some (n, r) = some (n', r') := by
    rw [← Lexer.first?_quoteName h, ← Lexer.first?_quoteName h', same]
  exact Prod.mk.inj (Option.some.inj read)

/-- No dialect quotes names with the dot or with the alias of the source table. -/
lemma nameQuote_ne : d.nameQuote ≠ '.' ∧ d.nameQuote ≠ 't' := by
  cases d <;> decide

end Dialect

section Columns
variable {d : Dialect} {r r' : List Char}

/-- A column without dots is written behind the alias of the source table. -/
lemma spelling_own {column : String} (plain : Sql.isDotted column = false) :
    (Sql.qualified column).spelling d = 't' :: '.' :: d.quoteName column := by
  simp [Sql.qualified, plain, Sql.spelling, Piece.spelling]

/-- The parts of a name end where no dot and no delimiter follows. -/
lemma parts_append_inj {ns ms : List String} (h : d.Apart r) (h' : d.Apart r')
    (same : (ns.flatMap fun m => '.' :: d.quoteName m) ++ r =
      (ms.flatMap fun m => '.' :: d.quoteName m) ++ r') : ns = ms ∧ r = r' := by
  induction ns generalizing ms with
  | nil =>
    cases ms with
    | nil => exact ⟨rfl, same⟩
    | cons m ms => exact absurd (congrArg List.head? same) h.1
  | cons n ns ih =>
    cases ms with
    | nil => exact absurd (congrArg List.head? same).symm h'.1
    | cons m ms =>
      have behind {r : List Char} (h : d.Apart r) (ns : List String) :
          ((ns.flatMap fun m => '.' :: d.quoteName m) ++ r).head? ≠ some d.nameQuote := by
        cases ns with
        | nil => exact h.2
        | cons => exact fun e => d.nameQuote_ne.1 (Option.some.inj e).symm
      rw [List.flatMap_cons, List.flatMap_cons, List.append_assoc, List.append_assoc, List.cons_append,
        List.cons_append, List.cons.injEq] at same
      obtain ⟨rfl, later⟩ := Dialect.quoteName_append_inj (behind h ns) (behind h' ms) same.2
      obtain ⟨rfl, rest⟩ := ih later
      exact ⟨rfl, rest⟩

/-- A column by its name is determined by a text that begins with it. -/
lemma dotted_append_inj {column column' : String} (h : d.Apart r) (h' : d.Apart r')
    (same : (Sql.dotted column).spelling d ++ r = (Sql.dotted column').spelling d ++ r') :
    column = column' := by
  obtain ⟨n, ns, parts, text⟩ := Sql.spelling_dotted (d := d) column
  obtain ⟨m, ms, parts', text'⟩ := Sql.spelling_dotted (d := d) column'
  -- a dot before the first part makes it one of the parts
  have all : ((n :: ns).flatMap fun m => '.' :: d.quoteName m) ++ r =
      ((m :: ms).flatMap fun m => '.' :: d.quoteName m) ++ r' := by
    rw [text, text'] at same
    simpa using same
  obtain ⟨names, -⟩ := parts_append_inj h h' all
  exact Text.split_injective '.' (by rw [parts, parts', names])

/-- A name in parts begins with the quote of its first part. -/
lemma Sql.head?_dotted {column : String} :
    ((Sql.dotted column).spelling d ++ r).head? = some d.nameQuote := by
  obtain ⟨n, ns, -, text⟩ := Sql.spelling_dotted (d := d) column
  rw [text]
  rfl

/-- A column of the source table is determined by a text that begins with it. -/
lemma qualified_append_inj {column column' : String} (h : d.Apart r) (h' : d.Apart r')
    (same : (Sql.qualified column).spelling d ++ r = (Sql.qualified column').spelling d ++ r') :
    column = column' := by
  cases e : Sql.isDotted column <;> cases e' : Sql.isDotted column'
  · rw [spelling_own e, spelling_own e'] at same
    simp only [List.cons_append, List.cons.injEq, true_and] at same
    exact (Dialect.quoteName_append_inj h.2 h'.2 same).1
  · rw [spelling_own e, Sql.qualified, e', if_pos rfl] at same
    have first := congrArg List.head? same
    rw [Sql.head?_dotted] at first
    exact absurd (Option.some.inj first).symm d.nameQuote_ne.2
  · rw [spelling_own e', Sql.qualified, e, if_pos rfl] at same
    have first := congrArg List.head? same
    rw [Sql.head?_dotted] at first
    exact absurd (Option.some.inj first) d.nameQuote_ne.2
  · rw [Sql.qualified, Sql.qualified, e, e', if_pos rfl, if_pos rfl] at same
    exact dotted_append_inj h h' same

/-- A column may begin with what the text of a column begins with. -/
lemma spelling_qualified (column : String) : ∃ c rest,
    (Sql.qualified column).spelling d = c :: rest ∧ d.opensColumn c = true := by
  cases e : Sql.isDotted column with
  | true =>
    obtain ⟨n, ns, -, text⟩ := Sql.spelling_dotted (d := d) column
    rw [Sql.qualified, e, if_pos rfl, text]
    exact ⟨d.nameQuote, _, rfl, by simp [Dialect.opensColumn]⟩
  | false =>
    rw [spelling_own e]
    exact ⟨'t', _, rfl, by simp [Dialect.opensColumn]⟩

end Columns

/-- Texts on the two sides of a changed value: no short one before it, in which no column may begin, and
one after it that does not continue it. -/
structure Surrounds (d : Dialect) (front back : List Char) : Prop where
  size : 5 ≤ front.length
  front : ∀ c ∈ front, d.opensColumn c = false
  back_ne : back ≠ []
  back : d.Apart back

section Surrounds
variable {d : Dialect} {front back front' back' : List Char}

/-- Something may stand around a value with something around it. -/
lemma Surrounds.around (h : Surrounds d front back) (h' : Surrounds d front' back') :
    Surrounds d (front' ++ front) (back ++ back') where
  size := by
    have first := h'.size
    rw [List.length_append]
    omega
  front := List.forall_mem_append.2 ⟨h'.front, h.front⟩
  back_ne := List.append_ne_nil_of_left_ne_nil h.back_ne _
  back := (Dialect.apart_append h.back_ne).2 h.back

/-- A text that begins with what may stand before a value does not begin with a column. -/
lemma Surrounds.ne_dotted {column : String} {more more' : List Char} (h : Surrounds d front back) :
    front ++ more ≠ (Sql.dotted column).spelling d ++ more' := by
  obtain ⟨c, rest, first⟩ :=
    List.exists_cons_of_length_pos (Nat.lt_of_lt_of_le (by decide) h.size)
  intro same
  have begins := congrArg List.head? same
  rw [Sql.head?_dotted, first] at begins
  have closed := h.front c (first ▸ List.mem_cons_self)
  rw [Option.some.inj begins] at closed
  simp [Dialect.opensColumn] at closed

/-- The first column in a text is determined by the text. -/
lemma Surrounds.column_eq {column column' : String} {more more' : List Char}
    (h : Surrounds d front back) (h' : Surrounds d front' back')
    (same : front ++ (Sql.qualified column).spelling d ++ back ++ more =
      front' ++ (Sql.qualified column').spelling d ++ back' ++ more') : column = column' := by
  have first {front back more : List Char} {column : String} (h : Surrounds d front back) :
      (front ++ (Sql.qualified column).spelling d ++ back ++ more).dropWhile (!d.opensColumn ·) =
        (Sql.qualified column).spelling d ++ (back ++ more) := by
    obtain ⟨c, rest, text, opens⟩ := spelling_qualified (d := d) column
    rw [List.append_assoc, List.append_assoc,
      List.dropWhile_append_of_pos fun c mem => by simp [h.front c mem], text]
    simp [opens]
  have rest := congrArg (List.dropWhile (!d.opensColumn ·)) same
  rw [first h, first h'] at rest
  exact qualified_append_inj ((Dialect.apart_append h.back_ne).2 h.back)
    ((Dialect.apart_append h'.back_ne).2 h'.back) rest

/-- The templates before a value that is changed. -/
@[simp]
def fronts : List String :=
  ["CAST(", "REPLACE(", "COALESCE(", "TRIM", "LTRIM", "RTRIM", "(", "UPPER(", "LOWER(", "INITCAP(",
    "CONCAT(UPPER(LEFT(", "UPPER(SUBSTR(", "CASE WHEN "]

/-- The templates that follow it. -/
@[simp]
def backs : List String :=
  [" AS ", ", ", ")", ", 1)), LOWER(SUBSTRING(", ", 1, 1)) || LOWER(SUBSTR(", " IS NULL"]

/-- No template before a changed value has a character in it that may begin a column, and none behind it
continues one. -/
lemma templates_surround : ∀ d ∈ [Dialect.postgres, .mysql, .sqlite],
    (∀ s ∈ fronts, s.toList.all (!d.opensColumn ·) = true) ∧
      ∀ s ∈ backs, s.toList ≠ [] ∧ s.toList.head? ≠ some '.' ∧ s.toList.head? ≠ some d.nameQuote := by
  decide +kernel

/-- What is written around a value between such templates surrounds it. -/
lemma spelling_between (front : List String) (s : String) {e : Sql} (rest : Sql)
    (size : 5 ≤ (front.flatMap String.toList).length) (before : ∀ s ∈ front, s ∈ fronts)
    (after : s ∈ backs) : ∃ f b,
    Sql.spelling d (front.map .fixed ++ e ++ .fixed s :: rest) = f ++ e.spelling d ++ b ∧
      Surrounds d f b := by
  obtain ⟨fronts, backs⟩ := templates_surround d d.mem_all
  obtain ⟨ne, apart⟩ := backs s after
  refine ⟨front.flatMap String.toList, s.toList ++ Sql.spelling d rest, ?_, size, fun c mem => ?_,
    List.append_ne_nil_of_left_ne_nil ne _, (Dialect.apart_append ne).2 apart⟩
  · simp [Sql.spelling, Piece.spelling, List.flatMap_map]
  · obtain ⟨s', among, mem⟩ := List.mem_flatMap.1 mem
    simpa using List.all_eq_true.1 (fronts s' (before s' among)) c mem

/-- A change puts something around what it changes. -/
lemma spelling_change {e : Sql} {c : Change} : ∃ front back,
    (c.sql d e).spelling d = front ++ e.spelling d ++ back ∧ Surrounds d front back := by
  have one (s s' : String) {rest : Sql} (size : 5 ≤ s.toList.length) (before : s ∈ fronts)
      (after : s' ∈ backs) : ∃ f b,
      Sql.spelling d (.fixed s :: (e ++ .fixed s' :: rest)) = f ++ e.spelling d ++ b ∧
        Surrounds d f b :=
    spelling_between [s] s' rest (by simpa using size) (by simpa using before) after
  cases c with
  | cast dataType =>
    simpa [Change.sql] using one "CAST(" " AS " (by decide) (by simp) (by simp)
  | substitute old new =>
    simpa [Change.sql] using one "REPLACE(" ", " (by decide) (by simp) (by simp)
  | coalesce new =>
    simpa [Change.sql] using one "COALESCE(" ", " (by decide) (by simp) (by simp)
  | trim side =>
    have known : ∀ s ∈ [side.function, "("], s ∈ fronts := by
      cases side <;> simp [TrimSide.function]
    have size : 5 ≤ ([side.function, "("].flatMap String.toList).length := by
      cases side <;> decide
    have two := spelling_between (d := d) (e := e) _ ")" [] size known (by simp)
    simpa [Change.sql] using two
  | recase mode =>
    cases mode with
    | upper => simpa [Change.sql] using one "UPPER(" ")" (by decide) (by simp) (by simp)
    | lower => simpa [Change.sql] using one "LOWER(" ")" (by decide) (by simp) (by simp)
    | title =>
      cases d with
      | postgres =>
        simpa [Change.sql, Sql.titleCase] using
          one "INITCAP(" ")" (by decide) (by simp) (by simp)
      | mysql =>
        simpa [Change.sql, Sql.titleCase] using
          one "CONCAT(UPPER(LEFT(" ", 1)), LOWER(SUBSTRING(" (by decide) (by simp) (by simp)
      | sqlite =>
        simpa [Change.sql, Sql.titleCase] using
          one "UPPER(SUBSTR(" ", 1, 1)) || LOWER(SUBSTR(" (by decide) (by simp) (by simp)
  | fill value emptyToo =>
    simpa [Change.sql] using one "CASE WHEN " " IS NULL" (by decide) (by simp) (by simp)

/-- Changes put something around what they change. -/
lemma spelling_changes {e : Expr} {cs : List Change} (ne : cs ≠ []) : ∃ front back,
    ((cs.foldl .changed e).sql d).spelling d = front ++ (e.sql d).spelling d ++ back ∧
      Surrounds d front back := by
  induction cs generalizing e with
  | nil => exact absurd rfl ne
  | cons c cs ih =>
    obtain ⟨front, back, one, around⟩ := spelling_change (d := d) (e := e.sql d) (c := c)
    cases cs with
    | nil => exact ⟨front, back, one, around⟩
    | cons c' cs =>
      obtain ⟨front', back', more, around'⟩ := ih (e := .changed e c) (List.cons_ne_nil c' cs)
      refine ⟨front' ++ front, back ++ back', ?_, around.around around'⟩
      rw [List.foldl_cons, more, Expr.sql, one]
      simp only [List.append_assoc]

end Surrounds

section Given
variable {d : Dialect} {column column' : String} {cs cs' : List Change}

/-- What a reference is written as when its column has been changed. -/
lemma spelling_given (column : String) (ne : cs ≠ []) : ∃ front back,
    ((Expr.given column cs).sql d).spelling d =
      front ++ (Sql.qualified column).spelling d ++ back ∧ Surrounds d front back := by
  cases cs with
  | nil => exact absurd rfl ne
  | cons c cs => exact spelling_changes ne

/-- The text of a changed column does not begin with a column. -/
lemma spelling_given_ne {more more' : List Char} (ne : cs ≠ []) :
    ((Expr.given column cs).sql d).spelling d ++ more ≠
      (Sql.dotted column').spelling d ++ more' := by
  obtain ⟨front, back, text, around⟩ := spelling_given (d := d) column ne
  rw [text, List.append_assoc, List.append_assoc]
  exact around.ne_dotted

/-- A sort term is written as what it sorts by, a blank and its direction. -/
lemma spelling_sortTerm {t : SortTerm} : (t.sql d).spelling d =
    (t.subject.sql d).spelling d ++ ' ' :: t.direction.keyword.toList := by
  simp [SortTerm.sql, Sql.spelling, Piece.spelling]

/-- A blank does not continue a column. -/
lemma apart_blank {s : List Char} : d.Apart (' ' :: s) := by
  cases d <;> simp [Dialect.Apart, Dialect.nameQuote]

/-- A reference finds a sort term exactly if it is what the term sorts by: the same column after the same
changes. Here, to the same column, the reference has been changed at least as often as the term. -/
lemma sortsBy_given {t : SortTerm} (subject : t.subject = .given column' cs')
    (earlier : column = column' → cs' <+: cs) :
    Query.sortsBy d (.given column cs) t = true ↔ column = column' ∧ cs = cs' := by
  rw [Query.sortsBy, List.isPrefixOf_iff_prefix, spelling_sortTerm, subject]
  constructor
  · rintro ⟨r, text⟩
    rw [List.append_assoc, List.singleton_append] at text
    by_cases ne : cs = []
    · subst ne
      have ne' : cs' = [] := by
        by_contra changed
        exact spelling_given_ne changed text.symm
      subst ne'
      exact ⟨dotted_append_inj apart_blank apart_blank text, rfl⟩
    · have ne' : cs' ≠ [] := by
        rintro rfl
        exact spelling_given_ne ne text
      have same : column = column' := by
        obtain ⟨front, back, e, around⟩ := spelling_given (d := d) column ne
        obtain ⟨front', back', e', around'⟩ := spelling_given (d := d) column' ne'
        rw [e, e'] at text
        exact around.column_eq around' text
      refine ⟨same, ?_⟩
      subst same
      obtain ⟨later, rfl⟩ := earlier rfl
      -- a further change would make the reference longer than the term with its direction
      by_contra further
      have more_ne : later ≠ [] := by
        rintro rfl
        exact further (List.append_nil cs')
      obtain ⟨f, b, longer, beyond⟩ := spelling_changes (d := d) (e := .given column cs') more_ne
      rw [Expr.given_append ne', longer] at text
      have sizes := congrArg List.length text
      have front_size := beyond.size
      have back_size := List.length_pos_of_ne_nil beyond.back_ne
      have keyword : t.direction.keyword.toList.length ≤ 4 := by cases t.direction <;> decide
      simp only [List.length_append, List.length_cons] at sizes
      omega
  · rintro ⟨rfl, rfl⟩
    exact ⟨t.direction.keyword.toList, by simp⟩

end Given

end QueryRecipe
