import QueryRecipe.Recipe

/-!
# Stored recipe documents

A stored document is first read as JSON on its own and kept as a value: the members of an object stand in
the order of their names, and a name that is repeated stands for its last value. An object that names no
schema then gets the default one.
-/

namespace QueryRecipe

namespace Json

mutual

/-- The value as it is kept: an object has its members in the order of their names, and of members that
share a name only the last one, throughout. -/
def kept : Json → Json
  | .list items => .list (keptItems items)
  | .object members => .object (NameMap.ofList (keptMembers members)).entries
  | v => v

/-- The items as they are kept. -/
def keptItems : List Json → List Json
  | [] => []
  | v :: rest => kept v :: keptItems rest

/-- The members with their values as they are kept. -/
def keptMembers : List (String × Json) → List (String × Json)
  | [] => []
  | (name, v) :: rest => (name, kept v) :: keptMembers rest

end

/-- The kept value with one more member, if it is an object without a member of that name. -/
def withDefault (j : Json) (name : String) (value : Json) : Json :=
  match j with
  | .object members =>
    if members.any (·.1 == name) then .object members
    else .object (NameMap.insertEntry name value members)
  | j => j

end Json

namespace Recipe

/-- The JSON value of a stored document. -/
def documentOf (text : String) : Json.Read Json :=
  Json.kept <$> Json.read text

/-- The recipe of a stored document, with this schema unless the document names one. -/
def ofDocument (defaultSchema : String) (j : Json) : Json.Read Recipe :=
  ofJson (j.withDefault "source_schema" (.string defaultSchema))

end Recipe

end QueryRecipe
