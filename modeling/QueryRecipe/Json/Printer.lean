import QueryRecipe.Json.Basic
import QueryRecipe.Binary64.Layout

/-!
# Writing JSON texts

The compact text of a document, and the text with one member or item a line, indented by two blanks.
-/

namespace QueryRecipe.Json

/-- Numbers are written positionally from `1e-5` up to `1e15`, whole ones with `.0`; the others carry
an exponent with its sign. -/
def doubleLayout : Layout :=
  { tie := .toEven, positional := some (-5, 15), wholeFraction := true }

/-- A hexadecimal digit in lower case. -/
def hexDigit (n : Nat) : Char :=
  if n < 10 then .ofNat ('0'.toNat + n) else .ofNat ('a'.toNat + n - 10)

/-- A character inside quotes: the quote, the backslash and the control characters are escaped. -/
def escapeChar (c : Char) : List Char :=
  match c with
  | '"' => ['\\', '"']
  | '\\' => ['\\', '\\']
  | '\x08' => ['\\', 'b']
  | '\x0c' => ['\\', 'f']
  | '\n' => ['\\', 'n']
  | '\r' => ['\\', 'r']
  | '\t' => ['\\', 't']
  | _ =>
    if c.toNat < 0x20 then
      ['\\', 'u', '0', '0', hexDigit (c.toNat / 16), hexDigit (c.toNat % 16)]
    else
      [c]

/-- A text in quotes. -/
def quoted (s : String) : List Char :=
  '"' :: s.toList.flatMap escapeChar ++ ['"']

/-- A number of the format binary64; one that is not finite has no spelling and becomes `null`. -/
def doubleText (x : Binary64) : List Char :=
  if x.isFinite then (doubleLayout.text x).toList else "null".toList

mutual

/-- The compact text of a value. -/
def compact : Json → List Char
  | .null => "null".toList
  | .bool b => (if b then "true" else "false").toList
  | .int n => Text.integerChars n
  | .double x => doubleText x
  | .string s => quoted s
  | .list items => '[' :: compactItems items ++ [']']
  | .object members => '\x7b' :: compactMembers members ++ ['\x7d']

/-- The texts of the items with commas between. -/
def compactItems : List Json → List Char
  | [] => []
  | [v] => compact v
  | v :: rest => compact v ++ ',' :: compactItems rest

/-- The texts of the members with commas between. -/
def compactMembers : List (String × Json) → List Char
  | [] => []
  | [(name, v)] => quoted name ++ ':' :: compact v
  | (name, v) :: rest => quoted name ++ ':' :: compact v ++ ',' :: compactMembers rest

end

/-- The compact text of a document. -/
def text (v : Json) : String :=
  .ofList v.compact

/-- A line break and the blanks of the given depth. -/
def newLine (depth : Nat) : List Char :=
  '\n' :: List.replicate (2 * depth) ' '

mutual

/-- The text of a value whose lines are indented below `depth`. -/
def indented (depth : Nat) : Json → List Char
  | .list [] => ['[', ']']
  | .object [] => ['\x7b', '\x7d']
  | .list items => '[' :: indentedItems (depth + 1) items ++ newLine depth ++ [']']
  | .object members => '\x7b' :: indentedMembers (depth + 1) members ++ newLine depth ++ ['\x7d']
  | v => compact v

/-- The items, each on a line of its own. -/
def indentedItems (depth : Nat) : List Json → List Char
  | [] => []
  | [v] => newLine depth ++ indented depth v
  | v :: rest => newLine depth ++ indented depth v ++ ',' :: indentedItems depth rest

/-- The members, each on a line of its own. -/
def indentedMembers (depth : Nat) : List (String × Json) → List Char
  | [] => []
  | [(name, v)] => newLine depth ++ quoted name ++ [':', ' '] ++ indented depth v
  | (name, v) :: rest =>
    newLine depth ++ quoted name ++ [':', ' '] ++ indented depth v ++ ',' ::
      indentedMembers depth rest

end

/-- The text of a document over several lines. -/
def pretty (v : Json) : String :=
  .ofList (v.indented 0)

end QueryRecipe.Json
