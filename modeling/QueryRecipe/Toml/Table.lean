/-!
# TOML tables

The values of a TOML document and the rules by which its lines fill the tables: no key is set twice, a
table has one header, and a dotted key reaches only into tables that dotted keys or longer headers have
made.
-/

namespace QueryRecipe

/-- A TOML value. Numbers with a fraction, dates and times are checked but not kept. -/
inductive Toml where
  | string (s : String)
  | integer (n : Int)
  | boolean (b : Bool)
  | real
  | moment
  | list (items : List Toml)
  /-- A table in braces; `dotted` when it was made by a dotted key inside another one. -/
  | braces (dotted : Bool) (entries : List (String × Toml))
  deriving Inhabited

namespace Toml

/-- How a table came about. -/
inductive Origin where
  | header
  /-- By the header of a table inside it. -/
  | passed
  | dottedKey
  deriving DecidableEq

/-- What stands under a key of the document. -/
inductive Node where
  | value (v : Toml)
  | table (origin : Origin) (entries : List (String × Node))
  /-- A list of tables, each with a header of its own; the latest comes first. -/
  | tables (latest : List (String × Node)) (earlier : List (List (String × Node)))
  deriving Inhabited

/-- The entries of a table. -/
abbrev Entries := List (String × Node)

/-- The entries with `node` under `key`, in the place of what stood there. -/
def put {α : Type} (key : String) (node : α) (entries : List (String × α)) : List (String × α) :=
  if (entries.lookup key).isSome then
    entries.map fun e => if e.1 == key then (key, node) else e
  else
    entries ++ [(key, node)]

/-- Applies `f` to the entries of the table at the end of a path, making the tables on the way that are
missing. A dotted key may not pass through a table that has a header. -/
def descend (dotted : Bool) (f : Origin → Entries → Option Entries) (origin : Origin) :
    List String → Entries → Option Entries
  | [], entries => f origin entries
  | key :: path, entries => do
    let made := if dotted then .dottedKey else .passed
    let node ← match entries.lookup key with
      | none => .table made <$> descend dotted f made path []
      | some (.value _) => none
      | some (.tables latest earlier) =>
        (Node.tables · earlier) <$> descend dotted f .header path latest
      | some (.table inner nested) =>
        if dotted && inner == .header then none
        else .table inner <$> descend dotted f inner path nested
    return put key node entries

/-- The entries with a value under a new key. -/
def define (key : String) (v : Toml) (entries : Entries) : Option Entries :=
  if (entries.lookup key).isSome then none else some (put key (.value v) entries)

/-- Sets a value under a key, which may be dotted, of a table. -/
def assign (path : List String) (key : String) (v : Toml) (entries : Entries) : Option Entries :=
  if path.isEmpty then
    define key v entries
  else
    descend true (fun o inner => if o == .dottedKey then define key v inner else none) .header path
      entries

/-- Opens the table of a header. It must be new or made by the header of a table inside it. -/
def openTable (key : String) (entries : Entries) : Option Entries :=
  match entries.lookup key with
  | none => some (put key (.table .header []) entries)
  | some (.table .passed nested) => some (put key (.table .header nested) entries)
  | some _ => none

/-- Opens one more table of a list of tables. -/
def openNext (key : String) (entries : Entries) : Option Entries :=
  match entries.lookup key with
  | none => some (put key (.tables [] []) entries)
  | some (.tables latest earlier) => some (put key (.tables [] (latest :: earlier)) entries)
  | some _ => none

/-- Applies `f` to the entries of the table that the latest header has opened. -/
def atHeader (f : Entries → Option Entries) : List String → Entries → Option Entries
  | [], entries => f entries
  | path, entries => descend false (fun _ inner => f inner) .header path entries

/-- Sets a value under a key, which may be dotted, of a table in braces. -/
def assignInBraces (key : String) (v : Toml) :
    List String → List (String × Toml) → Option (List (String × Toml))
  | [], entries => if (entries.lookup key).isSome then none else some (put key v entries)
  | step :: path, entries => do
    let nested ← match entries.lookup step with
      | none => some []
      | some (.braces true nested) => some nested
      | some _ => none
    return put step (.braces true (← assignInBraces key v path nested)) entries

end Toml

end QueryRecipe
