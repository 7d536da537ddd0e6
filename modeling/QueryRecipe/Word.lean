import QueryRecipe.Screening

/-!
# Words of a recipe

Comparisons, directions, kinds of joins, connectives and aggregate functions: how a recipe spells them,
without regard to letter case and surrounding blanks, and how a statement does.
-/

namespace QueryRecipe

/-- A word that is left out counts like a blank one. -/
def givenWord? (s : Option String) : Option String :=
  s.bind Text.nonblank?

/-- The comparison of a filter condition. -/
inductive Comparison where
  | eq
  | ne
  | gt
  | gte
  | lt
  | lte
  | isIn
  | notIn
  | like
  | notLike
  | isNull
  | isNotNull
  deriving DecidableEq, Repr

namespace Comparison

/-- The name of the comparison in a recipe. -/
def token : Comparison → String
  | .eq => "eq"
  | .ne => "ne"
  | .gt => "gt"
  | .gte => "gte"
  | .lt => "lt"
  | .lte => "lte"
  | .isIn => "in"
  | .notIn => "not_in"
  | .like => "like"
  | .notLike => "not_like"
  | .isNull => "is_null"
  | .isNotNull => "is_not_null"

/-- The symbol or keyword of the comparison in a statement. -/
def symbol : Comparison → String
  | .eq => "="
  | .ne => "!="
  | .gt => ">"
  | .gte => ">="
  | .lt => "<"
  | .lte => "<="
  | .isIn => "IN"
  | .notIn => "NOT IN"
  | .like => "LIKE"
  | .notLike => "NOT LIKE"
  | .isNull => "IS NULL"
  | .isNotNull => "IS NOT NULL"

/-- Whether something stands on the right of the comparison. -/
def needsOperand : Comparison → Bool
  | .isNull | .isNotNull => false
  | _ => true

/-- The comparison with this name or symbol, in lower case and with underscores for blanks. -/
def named? : String → Option Comparison
  | "eq" | "=" | "==" => some .eq
  | "ne" | "neq" | "!=" | "<>" => some .ne
  | "gt" | ">" => some .gt
  | "gte" | ">=" => some .gte
  | "lt" | "<" => some .lt
  | "lte" | "<=" => some .lte
  | "in" => some .isIn
  | "not_in" => some .notIn
  | "like" => some .like
  | "not_like" => some .notLike
  | "is_null" => some .isNull
  | "is_not_null" => some .isNotNull
  | _ => none

/-- The comparison that a recipe spells `s`. A rejected word is reported as it was written. -/
def ofText (s : String) : Except Rejection Comparison :=
  match named? (Text.replace ' ' '_' (Text.lower (Text.trim s))) with
  | some c => .ok c
  | none => .error (.word .comparison s)

end Comparison

/-- The direction of a sort key. -/
inductive Direction where
  | ascending
  | descending
  deriving DecidableEq, Repr

namespace Direction

/-- The keyword of the direction. -/
def keyword : Direction → String
  | .ascending => "ASC"
  | .descending => "DESC"

/-- The direction that a recipe spells `s`; ascending when it says nothing. -/
def ofText (s : Option String) : Except Rejection Direction :=
  match givenWord? s with
  | none => .ok .ascending
  | some w =>
    match Text.upper w with
    | "ASC" => .ok .ascending
    | "DESC" => .ok .descending
    | _ => .error (.word .direction w)

end Direction

/-- The kind of a join. -/
inductive JoinKind where
  | inner
  | left
  | right
  | full
  | cross
  deriving DecidableEq, Repr

namespace JoinKind

/-- The keywords of the join. -/
def keyword : JoinKind → String
  | .inner => "INNER JOIN"
  | .left => "LEFT JOIN"
  | .right => "RIGHT JOIN"
  | .full => "FULL JOIN"
  | .cross => "CROSS JOIN"

/-- The kind of join that a recipe spells `s`; a left join when it says nothing. -/
def ofText (s : Option String) : Except Rejection JoinKind :=
  match givenWord? s with
  | none => .ok .left
  | some w =>
    match Text.upper w with
    | "INNER" => .ok .inner
    | "LEFT" => .ok .left
    | "RIGHT" => .ok .right
    | "FULL" => .ok .full
    | "CROSS" => .ok .cross
    | _ => .error (.word .join w)

end JoinKind

/-- What joins the conditions of one filter. -/
inductive Connective where
  | and
  | or
  deriving DecidableEq, Repr

namespace Connective

/-- The keyword of the connective. -/
def keyword : Connective → String
  | .and => "AND"
  | .or => "OR"

/-- The connective that a recipe spells `s`; a conjunction when it says nothing. -/
def ofText (s : Option String) : Except Rejection Connective :=
  match givenWord? s with
  | none => .ok .and
  | some w =>
    match Text.upper w with
    | "AND" => .ok .and
    | "OR" => .ok .or
    | _ => .error (.word .connective w)

end Connective

/-- An aggregate function. -/
inductive Aggregate where
  | count
  | countDistinct
  | sum
  | avg
  | min
  | max
  /-- Any other function, by its name in capitals. -/
  | other (name : String)
  deriving DecidableEq, Repr

namespace Aggregate

/-- The name of the function. -/
def title : Aggregate → String
  | .count => "COUNT"
  | .countDistinct => "COUNT DISTINCT"
  | .sum => "SUM"
  | .avg => "AVG"
  | .min => "MIN"
  | .max => "MAX"
  | .other name => name

/-- The function with this name, in lower case and with underscores for blanks, among those that every
dialect has. -/
def named? : String → Option Aggregate
  | "sum" => some .sum
  | "avg" | "mean" => some .avg
  | "min" => some .min
  | "max" => some .max
  | "count" => some .count
  | "count_distinct" | "countdistinct" => some .countDistinct
  | _ => none

/-- Whether `c` may start a plain identifier. -/
def isNameStart (c : Char) : Bool :=
  c.isAlpha || c = '_'

/-- Whether the text is a plain identifier: basic letters, digits and underscores, no digit first. -/
def isPlainName : List Char → Bool
  | [] => false
  | c :: r => isNameStart c && r.all fun d => isNameStart d || d.isDigit

/-- The function that a recipe spells `s`. Any plain identifier without a forbidden keyword names a
function. -/
def ofText (s : Option String) : Except Rejection Aggregate :=
  let w := (givenWord? s).getD ""
  match named? (Text.replace ' ' '_' (Text.lower w)) with
  | some f => .ok f
  | none =>
    let capitals := Text.upper w
    if isPlainName w.toList && (Keyword.find? Keyword.forbidden none capitals.toList).isNone then
      .ok (.other capitals)
    else
      .error (.word .aggregate w)

/-- The name of the result when a recipe gives none: the function in lower case, and the column unless
all rows are meant. -/
def defaultLabel (f : Aggregate) (column : String) : String :=
  let name := Text.replace ' ' '_' (Text.lower f.title)
  if column = "*" then name else name ++ "_" ++ Text.replace '.' '_' column

end Aggregate

/-- The side of a text from which blanks are removed. -/
inductive TrimSide where
  | both
  | leading
  | trailing
  deriving DecidableEq, Repr, Inhabited

namespace TrimSide

/-- The name of the side in a recipe. -/
def name : TrimSide → String
  | .both => "both"
  | .leading => "leading"
  | .trailing => "trailing"

/-- The side with exactly this name. -/
def named? : String → Option TrimSide
  | "both" => some .both
  | "leading" | "left" => some .leading
  | "trailing" | "right" => some .trailing
  | _ => none

/-- The function that removes the blanks. -/
def function : TrimSide → String
  | .both => "TRIM"
  | .leading => "LTRIM"
  | .trailing => "RTRIM"

end TrimSide

/-- The letter case that a text is brought into. -/
inductive LetterCase where
  | upper
  | lower
  | title
  deriving DecidableEq, Repr

namespace LetterCase

/-- The name of the letter case in a recipe. -/
def name : LetterCase → String
  | .upper => "upper"
  | .lower => "lower"
  | .title => "title"

/-- The letter case with exactly this name. -/
def named? : String → Option LetterCase
  | "upper" | "uppercase" => some .upper
  | "lower" | "lowercase" => some .lower
  | "title" | "titlecase" | "proper" => some .title
  | _ => none

end LetterCase

end QueryRecipe
