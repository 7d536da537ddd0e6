/-!
# Rejected words and expressions

Why a word or an expression that would reach a statement unquoted was turned down, and the text that
says so.
-/

namespace QueryRecipe

/-- The kinds of words that are checked against a list. -/
inductive WordKind where
  | comparison
  | direction
  | join
  | connective
  | aggregate
  deriving DecidableEq, Repr

namespace WordKind

/-- What a message calls the kind. -/
def title : WordKind → String
  | .comparison => "operator"
  | .direction => "sort direction"
  | .join => "join type"
  | .connective => "logic connector"
  | .aggregate => "aggregate function"

/-- The words of the kind. -/
def expected : WordKind → List String
  | .comparison => ["eq", "ne", "gt", "gte", "lt", "lte", "in", "not_in", "like", "not_like",
      "is_null", "is_not_null"]
  | .direction => ["ASC", "DESC"]
  | .join => ["INNER", "LEFT", "RIGHT", "FULL", "CROSS"]
  | .connective => ["AND", "OR"]
  | .aggregate => ["SUM", "AVG", "MIN", "MAX", "COUNT", "COUNT DISTINCT", "<function name>"]

end WordKind

/-- What is wrong with an expression. -/
inductive Flaw where
  | empty
  /-- It holds a comment mark or the end of a statement. -/
  | marker (m : String)
  | backslash
  /-- It holds a dollar sign outside quotes. -/
  | dollar
  /-- A quote is still open at its end. -/
  | unbalanced (quote : Char)
  | subquery
  | keyword (word : String)
  deriving DecidableEq, Repr

/-- The text of a flaw. -/
def Flaw.message : Flaw → String
  | .empty => "expression is empty"
  | .marker m => s!"'{m}' is not allowed"
  | .backslash => "backslashes are not allowed"
  | .dollar => "'$' is not allowed"
  | .unbalanced quote => s!"unbalanced {quote} quote"
  | .subquery => "subqueries are not allowed"
  | .keyword word => s!"forbidden keyword '{word}'"

/-- A rejected word or expression. -/
inductive Rejection where
  | word (kind : WordKind) (value : String)
  | expression (text : String) (flaw : Flaw)
  deriving DecidableEq, Repr

/-- The words of a kind, one after the other. -/
def WordKind.choices (kind : WordKind) : String :=
  String.intercalate ", " kind.expected

/-- The text of a rejection on its own. -/
def Rejection.message : Rejection → String
  | .word kind value =>
    s!"Invalid {kind.title}: '{value}'. Expected one of: {kind.choices}"
  | .expression text flaw => s!"Invalid expression '{text}': {flaw.message}"

/-- The text of a rejection after the step it belongs to has been named. -/
def Rejection.clause : Rejection → String
  | .word kind value =>
    s!"invalid {kind.title} '{value}'. Expected one of: {kind.choices}"
  | .expression text flaw => s!"invalid expression '{text}': {flaw.message}"

end QueryRecipe
