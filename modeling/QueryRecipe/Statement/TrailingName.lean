import QueryRecipe.Text.Blank
import QueryRecipe.Text.Search

/-!
# The name at the end of an item

The name of an item of a select list, read off its text: the quoted name at its end, or else what
follows the last ` AS ` or the last dot. Items are put in order by these names.
-/

namespace QueryRecipe.TrailingName

/-- The inside of the quoted name whose closing delimiter has been taken off the reversed text; a
doubled delimiter inside stands for one. -/
def quotedBackward? (q : Char) (inside : List Char) : List Char → Option (List Char)
  | [] => none
  | [c] => if c = q then some inside else none
  | c :: d :: r =>
    if c = q then
      if d = q then quotedBackward? q (q :: inside) r else some inside
    else
      quotedBackward? q (c :: inside) (d :: r)

/-- The inside of the quoted name that ends the text. -/
def quoted? (q : Char) (s : List Char) : Option (List Char) :=
  match s.reverse with
  | [] => none
  | c :: r => if c = q then quotedBackward? q [] r else none

/-- What stands after the last ` AS `, or else after the last dot. -/
def unquoted (s : List Char) : List Char :=
  match Text.afterLast? " AS ".toList s with
  | some tail => Text.trimBoth tail
  | none => Text.trimBoth ((Text.afterLast? ['.'] s).getD s)

/-- The name at the end of the text of an item. -/
def ofText (s : List Char) : String :=
  let s := Text.trimBoth s
  let name := quoted? '"' s <|> quoted? '`' s
  .ofList (name.getD (unquoted s))

end QueryRecipe.TrailingName
