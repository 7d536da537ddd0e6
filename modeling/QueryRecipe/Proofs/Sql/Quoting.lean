import QueryRecipe.Proofs.Lexer.Next
import QueryRecipe.Proofs.Sql.Phrase
import QueryRecipe.Proofs.Text.Search

/-!
# Quoting can be undone

What a dialect quotes is delimited by itself: whatever stands behind it, its own delimiter apart, a string
or a name is read back whole and what stands behind it is left untouched. A name that may be dotted is
read back part by part, so two names with the same text are equal (`quoted_read_back`).
-/

namespace QueryRecipe

open Lexer

variable {d : Dialect}

/-- The parts of a name are read back from its text. -/
lemma Sql.path?_dotted (name : String) :
    (lex d ((dotted name).spelling d)).bind (path? d) = some (Text.split '.' name) := by
  obtain ⟨n, ns, parts, text⟩ := spelling_dotted (d := d) name
  rw [text, parts]
  exact path?_quoteNames n ns

/-- Names with the same text have the same parts. -/
lemma Sql.spelling_dotted_injective : Function.Injective fun name => (dotted name).spelling d := by
  intro name name' same
  have parts : some (Text.split '.' name) = some (Text.split '.' name') := by
    rw [← path?_dotted (d := d), ← path?_dotted (d := d)]
    exact congrArg (fun s => (lex d s).bind (path? d)) same
  exact Text.split_injective '.' (Option.some.inj parts)

/-- A quoted string is read back as one string, and a quoted name as one name, whatever follows that does
not begin with the delimiter, and nothing of what follows is read. A name that may be dotted is read back
as its parts between the dots, so no two names are written alike. -/
theorem quoted_read_back (d : Dialect) :
    (∀ (s : String) (rest : List Char), rest.head? ≠ some '\'' →
      first? Token.string? d (d.quoteString s ++ rest) = some (s, rest)) ∧
    (∀ (s : String) (rest : List Char), rest.head? ≠ some d.nameQuote →
      first? Token.identifier? d (d.quoteName s ++ rest) = some (s, rest)) ∧
    (∀ name : String, (lex d ((Sql.dotted name).spelling d)).bind (path? d) =
      some ((name.toList.splitOn '.').map .ofList)) ∧
    Function.Injective fun name => (Sql.dotted name).spelling d := by
  refine ⟨fun s rest apart => first?_quoteString apart, fun s rest apart => first?_quoteName apart,
    fun name => ?_, Sql.spelling_dotted_injective⟩
  rw [Sql.path?_dotted, Text.split_eq_splitOn]

/-- A backslash and a quote at the end of a MySQL string do not take in the string behind it, nor does a
backtick in a name take in the name behind it. -/
theorem quoted_read_back_mysql :
    (", '--'".toList.head? ≠ some '\'' ∧
      first? Token.string? .mysql (Dialect.quoteString .mysql "a\\'" ++ ", '--'".toList) =
        some ("a\\'", ", '--'".toList)) ∧
    (".`b`".toList.head? ≠ some (Dialect.nameQuote .mysql) ∧
      first? Token.identifier? .mysql (Dialect.quoteName .mysql "a`\\" ++ ".`b`".toList) =
        some ("a`\\", ".`b`".toList)) := by
  obtain ⟨strings, names, -, -⟩ := quoted_read_back .mysql
  have comma : ", '--'".toList.head? ≠ some '\'' := by decide
  have point : ".`b`".toList.head? ≠ some (Dialect.nameQuote .mysql) := by decide
  exact ⟨⟨comma, strings _ _ comma⟩, ⟨point, names _ _ point⟩⟩

end QueryRecipe
