import QueryRecipe.Dialect.Quoting
import QueryRecipe.Literal

/-!
# Phrases of SQL

A phrase is a list of pieces, and its text in a dialect is the pieces' spellings one after the other.
Names and strings stay apart from the fixed words until the text is written, so only a dialect's
quoting decides how a caller's text enters a statement. The one piece that is written as it stands is
an expression, which has been screened before.
-/

namespace QueryRecipe

/-- A piece of a phrase. -/
inductive Piece where
  /-- Words and punctuation of the language. -/
  | fixed (s : String)
  /-- A quoted name. -/
  | name (s : String)
  /-- A quoted string. -/
  | string (s : String)
  | truth (b : Bool)
  /-- The digits of a number. -/
  | number (s : String)
  /-- The name of a function. -/
  | function (s : String)
  /-- A screened expression. -/
  | expression (s : String)
  deriving DecidableEq, Repr

/-- How a piece is spelled. -/
def Piece.spelling (d : Dialect) : Piece → List Char
  | .fixed s | .number s | .function s | .expression s => s.toList
  | .name s => d.quoteName s
  | .string s => d.quoteString s
  | .truth b => (d.truth b).toList

/-- A phrase. -/
abbrev Sql := List Piece

namespace Sql

/-- The characters of a phrase. -/
def spelling (d : Dialect) (q : Sql) : List Char :=
  q.flatMap (Piece.spelling d)

/-- The text of a phrase. -/
def text (d : Dialect) (q : Sql) : String :=
  .ofList (q.spelling d)

/-- Phrases with a fixed separator between. -/
def separated (sep : String) (qs : List Sql) : Sql :=
  [.fixed sep].intercalate qs

/-- Phrases with commas between. -/
def commas (qs : List Sql) : Sql :=
  separated ", " qs

/-- A name that may be dotted, quoted part by part. -/
def dotted (column : String) : Sql :=
  separated "." ((Text.split '.' column).map fun part => [.name part])

/-- Whether a name has parts. -/
def isDotted (column : String) : Bool :=
  column.toList.contains '.'

/-- A column of the source table; a dotted name says itself which table it belongs to. -/
def qualified (column : String) : Sql :=
  if isDotted column then dotted column else [.fixed "t.", .name column]

/-- A table with its schema, or alone when the schema is blank. -/
def table (schema table : String) : Sql :=
  if Text.trim schema = "" then [.name table] else [.name schema, .fixed ".", .name table]

mutual

/-- A literal. A number that is not finite is written as the absent value. -/
def literal : Literal → Sql
  | .null => [.fixed "NULL"]
  | .bool b => [.truth b]
  | .int n => [.number (Text.integerText n.toInt)]
  | .double x => if x.isFinite then [.number (Literal.numberText x)] else [.fixed "NULL"]
  | .string s => [.string s]
  | .list items => .fixed "(" :: literals items ++ [.fixed ")"]

/-- Literals with commas between. -/
def literals : List Literal → Sql
  | [] => []
  | [v] => literal v
  | v :: rest => literal v ++ .fixed ", " :: literals rest

end

/-- Phrases in a row are spelled one after the other. -/
theorem spelling_append (d : Dialect) (p q : Sql) :
    (p ++ q).spelling d = p.spelling d ++ q.spelling d := by
  simp [spelling]

end Sql

end QueryRecipe
