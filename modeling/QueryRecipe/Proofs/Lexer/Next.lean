import QueryRecipe.Proofs.Lexer.Quoting
import QueryRecipe.Proofs.Lexer.Scope

/-!
# Reading token by token

A reader that stops where a token is complete and says what is left of the text (`next?`). To read a
whole text is to read what comes first and then what is left (`lex_of_next?`). On top of it stand readers
for one string or one quoted name at the start of a text (`first?`), and for a name with parts (`path?`).
What a dialect quotes is read back by them, and they leave exactly what was behind it.
-/

namespace QueryRecipe.Lexer

/-- The tokens that are complete first when a text is read on in a mode, and what is left of the text.
They are one token, except that a `$` with a word behind it is told from a dollar-quoted string only where
the word ends. -/
def next? (d : Dialect) (m : Mode) : List Char → Option (List Token × List Char)
  | [] => if m.isOpen ∨ m.flush = [] then none else some (m.flush, [])
  | c :: r =>
    let now := step d m c
    if now.1 = [] then next? d now.2 r
    else if m.flush = [] then some (now.1, r)
    else some (m.flush, c :: r)

/-- Whether what stands in a run is a string; otherwise it is a name. -/
def Quote.isString (d : Dialect) : Quote → Bool
  | .single => true
  | .double => d = .mysql
  | .back | .bracket => false

/-- The value of a string. -/
def Token.string? (d : Dialect) : Token → Option String
  | .quoted q s => if q.isString d then some (.ofList s) else none
  | .dollar s => some (.ofList s)
  | _ => none

/-- The name that is quoted. -/
def Token.identifier? (d : Dialect) : Token → Option String
  | .quoted q s => if q.isString d then none else some (.ofList s)
  | _ => none

/-- The value of the token that a text begins with, and what is left of the text, if what comes first is
one token and it is of the kind that is asked for. -/
def first? (kind : Dialect → Token → Option String) (d : Dialect) (s : List Char) :
    Option (String × List Char) :=
  match next? d .neutral s with
  | some ([t], rest) => (kind d t).map (·, rest)
  | _ => none

/-- The parts of a name: quoted names with a dot between. -/
def path? (d : Dialect) : List Token → Option (List String)
  | [] => none
  | t :: rest =>
    match t.identifier? d, rest with
    | some n, [] => some [n]
    | some n, u :: rest => if u = dot then (path? d rest).map (n :: ·) else none
    | none, _ => none

section Next
variable {d : Dialect} {m m' : Mode} {s rest : List Char} {toks : List Token}

/-- The empty text has no tokens. -/
@[simp]
lemma lex_nil (d : Dialect) : lex d [] = some [] := rfl

/-- The tokens that a scanned text comes to, unless a run or comment is open at its end. -/
def close? (s : List Token × Mode) : Option (List Token) :=
  if s.2.isOpen then none else some (s.1 ++ s.2.flush)

/-- Tokens given off before are among those at the end. -/
lemma close?_emit (ts : List Token) (s : List Token × Mode) :
    close? (emit ts s) = (close? s).map (ts ++ ·) := by
  cases e : s.2.isOpen <;> simp [close?, emit, e]

/-- A character that begins something gives off a token only if it is one by itself. -/
lemma start_cases (c : Char) : (start d c).1 = [] ∨ (start d c).2 = .neutral := by
  unfold start
  split
  · exact .inl rfl
  · split_ifs <;> simp

/-- What is read in a mode goes on with a character, ends with it or has ended before it. -/
lemma step_cases (m : Mode) (c : Char) : (step d m c).1 = [] ∨
    m.flush = [] ∧ (step d m c).2 = .neutral ∨ m.flush ≠ [] ∧ Settles d m c := by
  cases m with
  | neutral => exact (start_cases c).imp_right fun ends => .inl ⟨rfl, ends⟩
  | word rev =>
    cases more : isWordChar c with
    | true => exact .inl (by simp [step, more])
    | false => exact .inr (.inr ⟨List.cons_ne_nil _ _, .word more⟩)
  | number rev =>
    by_cases more : c.isDigit ∨ c = '.'
    · exact .inl (by simp [step, more])
    · rw [not_or, Bool.not_eq_true] at more
      exact .inr (.inr ⟨List.cons_ne_nil _ _, .number more.1 more.2⟩)
  | dash =>
    by_cases more : c = '-'
    · exact .inl (by simp [step, more])
    · exact .inr (.inr ⟨List.cons_ne_nil _ _, by simp [Settles, step, more]⟩)
  | slash =>
    by_cases more : c = '*'
    · exact .inl (by simp [step, more])
    · exact .inr (.inr ⟨List.cons_ne_nil _ _, by simp [Settles, step, more]⟩)
  | tag rev =>
    by_cases more : isTagChar rev c = true ∨ c = '$'
    · refine .inl ?_
      rcases more with more | rfl <;> simp only [step] <;> split_ifs <;> rfl
    · rw [not_or] at more
      exact .inr (.inr ⟨by cases rev <;> simp [Mode.flush], by simp [Settles, step, more]⟩)
  | closed q rev =>
    by_cases more : c = q.closing
    · exact .inl (by simp [step, more])
    · exact .inr (.inr ⟨List.cons_ne_nil _ _, .closed more⟩)
  | run q rev =>
    simp only [step]
    split_ifs <;> simp [Mode.flush]
  | escape q rev => exact .inl rfl
  | dollar tag rev =>
    simp only [step]
    split_ifs <;> simp [Mode.flush]
  | line =>
    simp only [step]
    split_ifs <;> simp [Mode.flush]
  | block depth last =>
    simp only [step, blockStep]
    split_ifs <;> simp [Mode.flush]

/-- Reading goes on through a text that completes no token. -/
lemma next?_append {w : List Char} (none : scan d m w = ([], m')) :
    next? d m (w ++ rest) = next? d m' rest := by
  induction w generalizing m with
  | nil =>
    cases none
    rfl
  | cons c w ih =>
    obtain ⟨now, later⟩ : (step d m c).1 = [] ∧ scan d (step d m c).2 w = ([], m') := by
      simpa [scan, emit, Prod.ext_iff, and_assoc] using none
    rw [List.cons_append, next?, if_pos now, ih later]

/-- What has been read is complete where the text goes on with something else. -/
lemma next?_settled (full : m.flush ≠ []) (rests : m.isOpen = false)
    (ends : ∀ c ∈ rest.head?, Settles d m c) : next? d m rest = some (m.flush, rest) := by
  cases rest with
  | nil => simp [next?, rests, full]
  | cons c r =>
    have now : step d m c = emit m.flush (start d c) := ends c rfl
    have gives : (step d m c).1 ≠ [] := by simp [now, emit, full]
    rw [next?, if_neg gives, if_neg full]

/-- A text that is read on comes to what is complete first in it and then what is left. -/
lemma close?_of_next? (h : next? d m s = some (toks, rest)) :
    close? (scan d m s) = (lex d rest).map (toks ++ ·) := by
  induction s generalizing m with
  | nil =>
    rw [next?] at h
    split_ifs at h with none
    cases h
    rw [not_or, Bool.not_eq_true] at none
    rw [scan_nil, close?, none.1, lex_nil]
    simp
  | cons c r ih =>
    rw [next?] at h
    split_ifs at h with now none
    · -- nothing is complete before `r`
      rw [scan, now, emit_nil]
      exact ih h
    · cases h
      have ends : (step d m c).2 = .neutral := by
        rcases step_cases m c with goes | ⟨-, ends⟩ | ⟨full, -⟩
        · exact absurd goes now
        · exact ends
        · exact absurd none full
      rw [scan, ends, close?_emit]
      rfl
    · cases h
      have settles : Settles d m c := by
        rcases step_cases m c with goes | ⟨empty, -⟩ | ⟨-, settles⟩
        · exact absurd goes now
        · exact absurd empty none
        · exact settles
      rw [scan_settled r settles, close?_emit]
      rfl

/-- A whole text is read as what comes first in it and then what is left. -/
lemma lex_of_next? (h : next? d .neutral s = some (toks, rest)) :
    lex d s = (lex d rest).map (toks ++ ·) :=
  close?_of_next? h

end Next

section Quoted
variable {d : Dialect} {rest : List Char} {s : String}

/-- A delimited text is one token if the text does not go on with the delimiter. -/
lemma next?_closed {w rev : List Char} {q : Quote} (read : scan d .neutral w = ([], .closed q rev))
    (apart : rest.head? ≠ some q.closing) :
    next? d .neutral (w ++ rest) = some ([.quoted q rev.reverse], rest) := by
  rw [next?_append read]
  refine next?_settled (List.cons_ne_nil _ _) rfl fun c first => .closed ?_
  rintro rfl
  exact apart first

/-- The delimiter of names is that of a run in which names stand. -/
lemma closing_nameQuote : (nameQuote d).closing = d.nameQuote := by
  cases d <;> rfl

/-- What stands between name quotes is a name. -/
lemma identifier?_nameQuote {s : List Char} :
    (Token.quoted (nameQuote d) s).identifier? d = some (.ofList s) := by
  cases d <;> rfl

/-- A quoted string is read back. -/
lemma first?_quoteString (apart : rest.head? ≠ some '\'') :
    first? Token.string? d (d.quoteString s ++ rest) = some (s, rest) := by
  have read := next?_closed (scan_quoteString d s) apart
  rw [List.reverse_reverse] at read
  simp [first?, read, Token.string?, Quote.isString]

example : first? Token.string? .mysql "'a\\\\''b', 1".toList = some ("a\\'b", ", 1".toList) := by
  decide +kernel

/-- A quoted name comes first where another character than its delimiter follows. -/
lemma next?_quoteName (apart : rest.head? ≠ some d.nameQuote) :
    next? d .neutral (d.quoteName s ++ rest) = some ([.quoted (nameQuote d) s.toList], rest) := by
  rw [← closing_nameQuote] at apart
  have read := next?_closed (scan_quoteName d s) apart
  rwa [List.reverse_reverse] at read

/-- A quoted name is read back. -/
lemma first?_quoteName (apart : rest.head? ≠ some d.nameQuote) :
    first? Token.identifier? d (d.quoteName s ++ rest) = some (s, rest) := by
  simp [first?, next?_quoteName apart, identifier?_nameQuote]

/-- A dot is a token by itself. -/
lemma next?_dot : next? d .neutral ('.' :: rest) = some ([dot], rest) := by
  cases d <;> rfl

/-- Quoted names with a dot between are the parts of a name. -/
lemma path?_quoteNames (n : String) (ns : List String) :
    (lex d (d.quoteName n ++ ns.flatMap fun m => '.' :: d.quoteName m)).bind (path? d) =
      some (n :: ns) := by
  induction ns generalizing n with
  | nil =>
    have apart : ([] : List Char).head? ≠ some d.nameQuote := by simp
    rw [List.flatMap_nil, lex_of_next? (next?_quoteName apart)]
    simp [path?, identifier?_nameQuote]
  | cons m ns ih =>
    obtain ⟨toks, read, parts⟩ := Option.bind_eq_some_iff.1 (ih m)
    rw [List.flatMap_cons, List.cons_append, lex_of_next? (next?_quoteName ?_),
      lex_of_next? next?_dot, read]
    · simp [path?, identifier?_nameQuote, parts]
    · cases d <;> simp [Dialect.nameQuote]

example : (lex .sqlite "\"a\".\"b\"\"c\"".toList).bind (path? .sqlite) = some ["a", "b\"c"] := by
  decide +kernel

end Quoted

end QueryRecipe.Lexer
