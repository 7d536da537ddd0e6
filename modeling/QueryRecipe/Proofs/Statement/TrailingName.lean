import QueryRecipe.Proofs.Lexer.Quoting
import QueryRecipe.Proofs.Sql.Phrase
import QueryRecipe.Proofs.Text.Blank
import QueryRecipe.Statement
import QueryRecipe.Statement.TrailingName

/-!
# The name at the end of an item is read back

A quoted name at the end of a text is the name that is read off the text, whatever stands before it, as
long as that does not end with the delimiter (`TrailingName.ofText_quoteName`). So the name of an item
with a label is the label (`SelectItem.ofText_label`), and that of a column without one the last part of
the column's name (`TrailingName.ofText_dotted`, `TrailingName.ofText_own`).
-/

namespace QueryRecipe

open Text

namespace TrailingName

/-- Doubled delimiters are read backwards as single ones, up to the one that opens the name. -/
lemma quotedBackward?_replaceChar {q : Char} {s inside before : List Char}
    (apart : before.head? ≠ some q) :
    quotedBackward? q inside ((replaceChar q [q, q] s).reverse ++ q :: before) =
      some (s ++ inside) := by
  induction s using List.reverseRecOn generalizing inside with
  | nil =>
    cases before with
    | nil => simp [replaceChar, quotedBackward?]
    | cons c before =>
      have ne : c ≠ q := by simpa using apart
      simp [replaceChar, quotedBackward?, ne]
  | append_singleton s c ih =>
    rw [Lexer.replaceChar_append, List.reverse_append, List.append_assoc, List.append_assoc]
    by_cases e : c = q
    · subst e
      have doubled : (replaceChar c [c, c] [c]).reverse = [c, c] := by simp [replaceChar]
      rw [doubled]
      simp [quotedBackward?, ih]
    · have alone : (replaceChar q [q, q] [c]).reverse = [c] := by simp [replaceChar, e]
      -- the opening delimiter is still to come, so this is not the last character
      obtain ⟨a, r, more⟩ : ∃ a r, (replaceChar q [q, q] s).reverse ++ q :: before = a :: r :=
        List.exists_cons_of_ne_nil (by simp)
      have later := @ih (c :: inside)
      rw [more] at later
      rw [alone, more]
      simp [quotedBackward?, e, later]

/-- A text is read back from between its quotes if none stands right before them. -/
lemma quoted?_delimited {q : Char} {before s : List Char} (apart : before.getLast? ≠ some q) :
    quoted? q (before ++ Dialect.delimited q s) = some s := by
  have back : (before ++ Dialect.delimited q s).reverse =
      q :: ((replaceChar q [q, q] s).reverse ++ q :: before.reverse) := by
    simp [Dialect.delimited]
  have behind : before.reverse.head? ≠ some q := by rwa [List.head?_reverse]
  rw [quoted?, back]
  simp [quotedBackward?_replaceChar behind]

/-- To trim a text that ends with a delimited one takes blanks from its start only. -/
lemma trimBoth_delimited {q : Char} {before s : List Char} (ink : isBlank q = false) :
    trimBoth (before ++ Dialect.delimited q s) = trimStart before ++ Dialect.delimited q s := by
  have start : trimStart (before ++ Dialect.delimited q s) =
      trimStart before ++ Dialect.delimited q s := by
    induction before with
    | nil => simp [trimStart, Dialect.delimited, ink]
    | cons c before ih =>
      cases e : isBlank c with
      | true => simpa [trimStart, e] using ih
      | false => simp [trimStart, e]
  rw [trimBoth, start, trimEnd]
  simp [Dialect.delimited, ink]

/-- The quoted name at the end of a text is the name that is read off it. -/
lemma ofText_quoteName {d : Dialect} {before : List Char} {name : String}
    (apart : before.getLast? ≠ some d.nameQuote) : ofText (before ++ d.quoteName name) = name := by
  have ink : isBlank d.nameQuote = false := by cases d <;> decide
  have apart' : (trimStart before).getLast? ≠ some d.nameQuote := by
    intro last
    obtain ⟨r, e⟩ := List.dropWhile_suffix (l := before) isBlank
    refine apart ?_
    rw [← e, List.getLast?_append, show (before.dropWhile isBlank).getLast? = _ from last]
    rfl
  rw [ofText, Dialect.quoteName, trimBoth_delimited ink]
  cases d with
  | postgres | sqlite =>
    have read : quoted? '"' (trimStart before ++ Dialect.delimited '"' name.toList) =
        some name.toList := quoted?_delimited apart'
    simp [Dialect.nameQuote, read]
  | mysql =>
    have other : quoted? '"' (trimStart before ++ Dialect.delimited '`' name.toList) = none := by
      simp [quoted?, Dialect.delimited]
    have read : quoted? '`' (trimStart before ++ Dialect.delimited '`' name.toList) =
        some name.toList := quoted?_delimited apart'
    simp [Dialect.nameQuote, other, read]

example : ofText "x + 1 AS `a AS b`".toList = "a AS b" := by decide +kernel

end TrailingName

/-- The name that is read off an item with a label is the label. -/
lemma SelectItem.ofText_label {i : SelectItem} {d : Dialect} {label : String}
    (labelled : i.label = some label) : TrailingName.ofText ((i.sql d).spelling d) = label := by
  have spelled : (i.sql d).spelling d =
      ((i.value.sql d).spelling d ++ " AS ".toList) ++ d.quoteName label := by
    simp [SelectItem.sql, labelled, Sql.spelling, Piece.spelling]
  rw [spelled]
  refine TrailingName.ofText_quoteName ?_
  have blank : " AS ".toList.getLast? = some ' ' := by decide
  rw [List.getLast?_append, blank]
  cases d <;> simp [Dialect.nameQuote]

/-- The last part of a name with dots. -/
def Sql.lastPart (column : String) : String :=
  (split '.' column).getLast?.getD column

section Parts
variable {d : Dialect}

/-- The last part of a name without dots is the name. -/
lemma Sql.lastPart_of_plain {column : String} (plain : isDotted column = false) :
    lastPart column = column := by
  have alone : '.' ∉ column.toList := by simpa [isDotted] using plain
  simp [lastPart, split, splitAtChar_of_not_mem alone]

/-- A dotted name ends with its last part, alone or behind a dot. -/
lemma Sql.spelling_parts (n : String) (ns : List String) : ∃ before,
    (separated "." ((n :: ns).map fun part => [.name part])).spelling d =
      before ++ d.quoteName ((n :: ns).getLast (List.cons_ne_nil n ns)) ∧
        before.getLast? ≠ some d.nameQuote := by
  induction ns generalizing n with
  | nil => exact ⟨[], by simp [spelling, Piece.spelling], by simp⟩
  | cons m ns ih =>
    obtain ⟨before, rest, apart⟩ := ih m
    refine ⟨d.quoteName n ++ '.' :: before, ?_, ?_⟩
    · have behind (q : Sql) : spelling d ([Piece.name n] ++ Piece.fixed "." :: q) =
          d.quoteName n ++ '.' :: q.spelling d := by
        simp [spelling, Piece.spelling]
      rw [List.map_cons] at rest
      rw [List.map_cons, List.map_cons, separated_cons_cons, behind, rest, List.getLast_cons_cons]
      simp
    · cases before with
      | nil => cases d <;> simp [Dialect.nameQuote]
      | cons a before =>
        rw [List.getLast?_append]
        simpa using apart

/-- The name that is read off a dotted name is its last part. -/
lemma TrailingName.ofText_dotted {column : String} :
    ofText ((Sql.dotted column).spelling d) = Sql.lastPart column := by
  cases parts : split '.' column with
  | nil => simp [split, splitAtChar_ne_nil] at parts
  | cons n ns =>
    obtain ⟨before, written, apart⟩ := Sql.spelling_parts (d := d) n ns
    rw [Sql.dotted, parts, written, ofText_quoteName apart, Sql.lastPart, parts,
      List.getLast?_eq_getLast_of_ne_nil (List.cons_ne_nil n ns)]
    rfl

/-- The name that is read off a column of the source table is the column. -/
lemma TrailingName.ofText_own {column : String} (plain : Sql.isDotted column = false) :
    ofText ((Sql.qualified column).spelling d) = column := by
  have written : (Sql.qualified column).spelling d = "t.".toList ++ d.quoteName column := by
    simp [Sql.qualified, plain, Sql.spelling, Piece.spelling]
  rw [written]
  refine ofText_quoteName ?_
  cases d <;> decide

end Parts

end QueryRecipe
