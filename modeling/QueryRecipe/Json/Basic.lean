import QueryRecipe.Binary64

/-!
# JSON documents

A document as it was written: an object keeps its members in their order and with their repetitions,
and a number is an integer of 64 bits or else a number of the format binary64.
-/

namespace QueryRecipe

/-- A JSON value. -/
inductive Json where
  | null
  | bool (b : Bool)
  | int (n : Int)
  | double (x : Binary64)
  | string (s : String)
  | list (items : List Json)
  | object (members : List (String × Json))
  deriving Inhabited, Repr

namespace Json

/-- Why a text gave no value of the kind asked for. -/
inductive Fault where
  /-- The text is no JSON document. -/
  | malformed
  /-- The text ends inside a value. -/
  | truncated
  /-- The document has another shape than the one asked for. -/
  | shape
  deriving DecidableEq, Repr

end Json

end QueryRecipe
