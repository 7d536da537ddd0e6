import QueryRecipe.Json.Basic

/-!
# Records in JSON

A record is written as an object with its fields as members, or as a list with its fields in their
order. A field may be left out (in a list: from some point on) and then takes its default. A member
that is no field is passed over; a field given twice, under whichever of its names, and a list that is
too long have the wrong shape.
-/

namespace QueryRecipe.Json

/-- The outcome of reading a part of a document. -/
abbrev Read (α : Type) := Except Fault α

/-- The fields of a record as they were given. -/
inductive Record where
  | members (ms : List (String × Json))
  | positions (vs : List Json)

/-- The record written as `j`, with at most `arity` fields when it is a list. -/
def record (arity : Nat) (j : Json) : Read Record :=
  match j with
  | .object ms => .ok (.members ms)
  | .list vs => if vs.length ≤ arity then .ok (.positions vs) else .error .shape
  | _ => .error .shape

namespace Record

/-- The value given for the field that has this position and one of these names. -/
def given? (r : Record) (position : Nat) (names : List String) : Read (Option Json) :=
  match r with
  | .positions vs => .ok vs[position]?
  | .members ms =>
    match ms.filter fun m => names.contains m.1 with
    | [] => .ok none
    | [m] => .ok (some m.2)
    | _ => .error .shape

/-- The field read by `read`, or its default when it was left out. -/
def field {α : Type} (r : Record) (position : Nat) (names : List String) (read : Json → Read α)
    (default : α) : Read α := do
  match ← r.given? position names with
  | none => .ok default
  | some j => read j

end Record

/-- A string. -/
def asString : Json → Read String
  | .string s => .ok s
  | _ => .error .shape

/-- A truth value. -/
def asBool : Json → Read Bool
  | .bool b => .ok b
  | _ => .error .shape

/-- A natural number of 64 bits. -/
def asUInt64 : Json → Read UInt64
  | .int n => if 0 ≤ n ∧ n.toNat < UInt64.size then .ok (.ofNat n.toNat) else .error .shape
  | _ => .error .shape

/-- A value that may be `null`. -/
def asOptional {α : Type} (read : Json → Read α) : Json → Read (Option α)
  | .null => .ok none
  | j => some <$> read j

/-- A list of values of one kind. -/
def asList {α : Type} (read : Json → Read α) : Json → Read (List α)
  | .list items => items.mapM read
  | _ => .error .shape

/-- One of the alternatives that `named?` knows by name: the name as a string, or as the only member of
an object whose value `isEmpty` accepts. -/
def asChoice {α : Type} (named? : String → Option α) (isEmpty : Json → Bool) (j : Json) : Read α :=
  let choose (s : String) : Read α := match named? s with
    | some a => .ok a
    | none => .error .shape
  match j with
  | .string s => choose s
  | .object [(s, v)] => if isEmpty v then choose s else .error .shape
  | _ => .error .shape

/-- Whether the value is `null`. -/
def isNull : Json → Bool
  | .null => true
  | _ => false

/-- Whether the value is `null` or an object without members. -/
def isNothing : Json → Bool
  | .null | .object [] => true
  | _ => false

end QueryRecipe.Json
