import QueryRecipe.Binary64.Layout
import QueryRecipe.Json.Record
import QueryRecipe.Text.Blank
import QueryRecipe.Text.Search

/-!
# Literals

The constants that a recipe carries: operands of filters, replacement and fill values. A literal is
written as the JSON value it stands for; there is no literal for an object.
-/

namespace QueryRecipe

/-- A constant of a recipe. -/
inductive Literal where
  | null
  | bool (b : Bool)
  | int (n : Int64)
  | double (x : Binary64)
  | string (s : String)
  | list (items : List Literal)
  deriving Inhabited, Repr

namespace Literal

mutual

/-- Decides whether two literals are equal. -/
def decEq : (a b : Literal) → Decidable (a = b)
  | .null, .null => .isTrue rfl
  | .bool a, .bool b => if h : a = b then .isTrue (h ▸ rfl) else .isFalse (by simp [h])
  | .int a, .int b => if h : a = b then .isTrue (h ▸ rfl) else .isFalse (by simp [h])
  | .double a, .double b => if h : a = b then .isTrue (h ▸ rfl) else .isFalse (by simp [h])
  | .string a, .string b => if h : a = b then .isTrue (h ▸ rfl) else .isFalse (by simp [h])
  | .list a, .list b =>
    match decEqList a b with
    | .isTrue h => .isTrue (h ▸ rfl)
    | .isFalse h => .isFalse (by simp [h])
  | .null, .bool _ | .null, .int _ | .null, .double _ | .null, .string _ | .null, .list _
  | .bool _, .null | .bool _, .int _ | .bool _, .double _ | .bool _, .string _ | .bool _, .list _
  | .int _, .null | .int _, .bool _ | .int _, .double _ | .int _, .string _ | .int _, .list _
  | .double _, .null | .double _, .bool _ | .double _, .int _ | .double _, .string _
  | .double _, .list _
  | .string _, .null | .string _, .bool _ | .string _, .int _ | .string _, .double _
  | .string _, .list _
  | .list _, .null | .list _, .bool _ | .list _, .int _ | .list _, .double _ | .list _, .string _ =>
    .isFalse nofun

/-- Decides whether two lists of literals are equal. -/
def decEqList : (a b : List Literal) → Decidable (a = b)
  | [], [] => .isTrue rfl
  | [], _ :: _ => .isFalse nofun
  | _ :: _, [] => .isFalse nofun
  | a :: as, b :: bs =>
    match decEq a b, decEqList as bs with
    | .isTrue h, .isTrue hs => .isTrue (h ▸ hs ▸ rfl)
    | .isFalse h, _ => .isFalse fun e => h (List.cons.inj e).1
    | _, .isFalse hs => .isFalse fun e => hs (List.cons.inj e).2

end

instance : DecidableEq Literal := decEq

/-- Whether the literal is the absent value. -/
def isNull : Literal → Bool
  | .null => true
  | _ => false

/-- Numbers are written without exponents, whole ones without a point; of two shortest decimals the
greater is taken. -/
def numberLayout : Layout :=
  { tie := .upward, positional := none, wholeFraction := false }

/-- The text of a number, also of one that is not finite. -/
def numberText (x : Binary64) : String :=
  if x.isFinite then numberLayout.text x
  else if x.isNaN then "NaN"
  else if x.isNegative then "-inf"
  else "inf"

mutual

/-- The text of a literal: a string stands for itself, the items of a list stand in brackets. -/
def text : Literal → String
  | .null => "null"
  | .bool b => if b then "true" else "false"
  | .int n => Text.integerText n.toInt
  | .double x => numberText x
  | .string s => s
  | .list items => "[" ++ textList items ++ "]"

/-- The texts of the items with a comma and a blank between. -/
def textList : List Literal → String
  | [] => ""
  | [v] => text v
  | v :: rest => text v ++ ", " ++ textList rest

end

/-- The members that a literal stands for in a membership test: the items of a list, the trimmed parts
between the commas of a string that has any, nothing for the absent value, and else the literal
itself. -/
def members : Literal → List Literal
  | .list items => items
  | .null => []
  | .string s =>
    if s.toList.contains ',' then
      (Text.split ',' s).map fun part => .string (Text.trim part)
    else
      [.string s]
  | v => [v]

/-- The literal for an integer of a document; beyond 64 signed bits it is a number of the format
binary64. -/
def ofInt (n : Int) : Literal :=
  if Int64.minValue.toInt ≤ n ∧ n ≤ Int64.maxValue.toInt then .int (.ofInt n) else .double (.ofInt n)

mutual

/-- The literal written as a JSON value. -/
def ofJson : Json → Json.Read Literal
  | .null => .ok .null
  | .bool b => .ok (.bool b)
  | .int n => .ok (ofInt n)
  | .double x => .ok (.double x)
  | .string s => .ok (.string s)
  | .list items => .list <$> ofJsonList items
  | .object _ => .error .shape

/-- The literals written as the items of a list. -/
def ofJsonList : List Json → Json.Read (List Literal)
  | [] => .ok []
  | j :: rest => do return (← ofJson j) :: (← ofJsonList rest)

end

mutual

/-- The JSON value that a literal is written as. -/
def toJson : Literal → Json
  | .null => .null
  | .bool b => .bool b
  | .int n => .int n.toInt
  | .double x => .double x
  | .string s => .string s
  | .list items => .list (toJsonList items)

/-- The JSON values that literals are written as. -/
def toJsonList : List Literal → List Json
  | [] => []
  | v :: rest => toJson v :: toJsonList rest

end

end Literal

end QueryRecipe
