import QueryRecipe.Dialect
import QueryRecipe.Text.Search

/-!
# Quoting

How a dialect writes names and strings so that they are read back as one token. The delimiter is
written twice inside; in MySQL a backslash inside a string is written twice as well.
-/

namespace QueryRecipe.Dialect

/-- The delimiter of quoted names. -/
def nameQuote : Dialect → Char
  | .postgres | .sqlite => '"'
  | .mysql => '`'

/-- A text between delimiters, which are written twice inside. -/
def delimited (q : Char) (s : List Char) : List Char :=
  q :: Text.replaceChar q [q, q] s ++ [q]

/-- A quoted name. -/
def quoteName (d : Dialect) (s : String) : List Char :=
  delimited d.nameQuote s.toList

/-- The inside of a string before its delimiters are doubled. -/
def escapeBackslashes : Dialect → List Char → List Char
  | .postgres, s | .sqlite, s => s
  | .mysql, s => Text.replaceChar '\\' ['\\', '\\'] s

/-- A quoted string. -/
def quoteString (d : Dialect) (s : String) : List Char :=
  delimited '\'' (d.escapeBackslashes s.toList)

/-- The spelling of a truth value. -/
def truth : Dialect → Bool → String
  | .postgres, true => "TRUE"
  | .postgres, false => "FALSE"
  | .mysql, true | .sqlite, true => "1"
  | .mysql, false | .sqlite, false => "0"

end QueryRecipe.Dialect
