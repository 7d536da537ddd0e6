import QueryRecipe.Dialect.Quoting
import QueryRecipe.Proofs.Lexer

/-!
# Quoted names and strings are read back

A name or string that a dialect quotes is read as one token whose content is the text that was quoted,
whatever characters are in it (`scan_quoteName`, `scan_quoteString`). It is complete once another
character than its delimiter follows.
-/

namespace QueryRecipe.Lexer

open Text

/-- The delimiter that a dialect writes names with. -/
def nameQuote : Dialect → Quote
  | .postgres | .sqlite => .double
  | .mysql => .back

/-- The text of a replacement is that of its first character and of the others. -/
lemma replaceChar_cons (c : Char) (new : List Char) (a : Char) (s : List Char) :
    replaceChar c new (a :: s) = (if a = c then new else [a]) ++ replaceChar c new s := rfl

/-- Parts of a text are replaced one by one. -/
lemma replaceChar_append (c : Char) (new s r : List Char) :
    replaceChar c new (s ++ r) = replaceChar c new s ++ replaceChar c new r :=
  List.flatMap_append

section Run
variable {d : Dialect} {q : Quote}

/-- A doubled delimiter stands for itself. -/
lemma scan_doubled (doubles : q.doubles = true) (rev : List Char) :
    scan d (.run q rev) [q.closing, q.closing] = ([], .run q (q.closing :: rev)) := by
  simp [scan, step, doubles, emit]

/-- A character that is neither the delimiter nor an escape stands for itself. -/
lemma scan_self {c : Char} (ne : c ≠ q.closing) (plain : ¬ (c = '\\' ∧ escapes d q = true))
    (rev : List Char) : scan d (.run q rev) [c] = ([], .run q (c :: rev)) := by
  simp [scan, step, ne, plain, emit]

/-- A run with doubled delimiters is read back where there are no escapes. -/
lemma scan_replaceChar (doubles : q.doubles = true) (plain : escapes d q = false)
    (s rev : List Char) :
    scan d (.run q rev) (replaceChar q.closing [q.closing, q.closing] s) =
      ([], .run q (s.reverse ++ rev)) := by
  induction s generalizing rev with
  | nil => rfl
  | cons c s ih =>
    rw [replaceChar_cons, scan_append]
    by_cases e : c = q.closing
    · rw [if_pos e, scan_doubled doubles, ih, e]
      simp
    · rw [if_neg e, scan_self e (by simp [plain]), ih]
      simp

/-- A MySQL string with doubled delimiters and backslashes is read back. -/
lemma scan_replaceChar_escaped (s rev : List Char) :
    scan .mysql (.run .single rev)
        (replaceChar '\'' ['\'', '\''] (replaceChar '\\' ['\\', '\\'] s)) =
      ([], .run .single (s.reverse ++ rev)) := by
  induction s generalizing rev with
  | nil => rfl
  | cons c s ih =>
    rw [replaceChar_cons, replaceChar_append, scan_append]
    by_cases back : c = '\\'
    · subst back
      have kept : replaceChar '\'' ['\'', '\''] ['\\', '\\'] = ['\\', '\\'] := rfl
      have escaped : scan .mysql (.run .single rev) ['\\', '\\'] =
        ([], .run .single ('\\' :: rev)) := rfl
      rw [if_pos rfl, kept, escaped, ih]
      simp
    · by_cases e : c = '\''
      · subst e
        have doubled : replaceChar '\'' ['\'', '\''] ['\''] = ['\'', '\''] := rfl
        have once : scan .mysql (.run .single rev) ['\'', '\''] =
          ([], .run .single ('\'' :: rev)) := scan_doubled (q := .single) rfl rev
        rw [if_neg back, doubled, once, ih]
        simp
      · have alone : replaceChar '\'' ['\'', '\''] [c] = [c] := by simp [replaceChar, e]
        rw [if_neg back, alone, scan_self e (by simp [back]), ih]
        simp

/-- A delimited text is read as one token if its inside is read back. -/
lemma scan_delimited {inside s : List Char} (opens : quote? d q.opening = some q)
    (doubles : q.doubles = true) (read : scan d (.run q []) inside = ([], .run q (s.reverse ++ []))) :
    scan d .neutral (q.opening :: inside ++ [q.closing]) = ([], .closed q s.reverse) := by
  have opened : step d .neutral q.opening = ([], .run q []) := by simp [step, start, opens]
  rw [List.cons_append, scan, opened, scan_append, read]
  simp [scan, step, doubles, emit]

end Run

/-- A quoted name is read as one token with the name in it. -/
lemma scan_quoteName (d : Dialect) (s : String) :
    scan d .neutral (d.quoteName s) = ([], .closed (nameQuote d) s.toList.reverse) := by
  cases d with
  | postgres | sqlite =>
    exact scan_delimited (q := .double) rfl rfl (scan_replaceChar (q := .double) rfl rfl s.toList [])
  | mysql =>
    exact scan_delimited (q := .back) rfl rfl (scan_replaceChar (q := .back) rfl rfl s.toList [])

/-- A quoted string is read as one token with the string in it. -/
lemma scan_quoteString (d : Dialect) (s : String) :
    scan d .neutral (d.quoteString s) = ([], .closed .single s.toList.reverse) := by
  cases d with
  | postgres | sqlite =>
    exact scan_delimited (q := .single) rfl rfl (scan_replaceChar (q := .single) rfl rfl s.toList [])
  | mysql => exact scan_delimited (q := .single) rfl rfl (scan_replaceChar_escaped s.toList [])

end QueryRecipe.Lexer
