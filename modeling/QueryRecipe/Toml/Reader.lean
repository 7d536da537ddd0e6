import QueryRecipe.Toml.Scalar
import QueryRecipe.Toml.Table

/-!
# Reading TOML documents

A document is a sequence of lines: blank lines and comments, headers of tables, and settings of keys.
Values in brackets and braces nest fewer than eighty deep, and a dotted key has fewer than eighty parts.
-/

namespace QueryRecipe.Toml

/-- How deep values may nest, and how many parts a key may have. -/
def depthLimit : Nat := 80

/-- The blanks inside a line. -/
def gap : Scan Unit :=
  discard (takeWhile isGap)

/-- A comment up to the end of its line. -/
def comment : Scan Unit := do
  exactly "#"
  discard (takeWhile isPrintable)

/-- Whether nothing is left. -/
def atEnd : Scan Unit
  | [] => some ((), [])
  | _ => none

/-- The rest of a line after something has been said on it. -/
def lineEnd : Scan Unit := do
  gap
  discard (optionally comment)
  lineBreak <|> atEnd

/-- Blanks, comments and line ends inside brackets, at most `n` of them. -/
def gaps : Nat → Scan Unit
  | 0 => pure ()
  | n + 1 => do
    gap
    match ← optionally (do discard (optionally comment); lineBreak) with
    | some _ => gaps n
    | none => pure ()

/-- The further parts of a key, at most `n` of them. -/
def keyParts : Nat → Scan (List String)
  | 0 => pure []
  | n + 1 => do
    match ← optionally (do exactly "."; gap; let part ← keyPart; gap; return part) with
    | some part => return part :: (← keyParts n)
    | none => return []

/-- A key: its parts but the last, and the last. -/
def dottedKey : Scan (List String × String) := do
  gap
  let first ← keyPart
  gap
  let parts := first :: (← keyParts depthLimit)
  if depthLimit ≤ parts.length then failure
  else return (parts.dropLast, parts.getLast?.getD first)

mutual

/-- A value with at most `n` characters, inside `depth` brackets and braces. -/
def value (n depth : Nat) : Scan Toml :=
  match n with
  | 0 => failure
  | n + 1 => fun s =>
    match s with
    | '"' :: _ | '\'' :: _ => (Toml.string <$> stringValue).run s
    | '[' :: s =>
      if depth + 1 < depthLimit then (do gaps n; Toml.list <$> items n (depth + 1)).run s else none
    | '\x7b' :: s =>
      if depth + 1 < depthLimit then
        (do
          gap
          (do exactly "\x7d"; return Toml.braces false []) <|>
            (Toml.braces false <$> settings n (depth + 1) [])).run s
      else
        none
    | 't' :: _ => (do exactly "true"; return Toml.boolean true).run s
    | 'f' :: _ => (do exactly "false"; return Toml.boolean false).run s
    | _ =>
      ((do momentValue; return Toml.moment) <|> (do realValue; return Toml.real) <|>
        (Toml.integer <$> integerValue)).run s

/-- What follows the opening bracket of a list, or a comma in it. -/
def items (n depth : Nat) : Scan (List Toml) :=
  match n with
  | 0 => failure
  | n + 1 =>
    (do exactly "]"; return []) <|>
    (do
      let v ← value n depth
      gaps n
      let rest ← (do exactly ","; gaps n; items n depth) <|> (do exactly "]"; return [])
      return v :: rest)

/-- What follows the opening brace of a table, or a comma in it, the entries so far given. -/
def settings (n depth : Nat) (entries : List (String × Toml)) : Scan (List (String × Toml)) :=
  match n with
  | 0 => failure
  | n + 1 => do
    let (path, key) ← dottedKey
    exactly "="
    gap
    let v ← value n depth
    gap
    let entries ← assignInBraces key v path entries
    (do exactly ","; gap; settings n depth entries) <|> (do exactly "\x7d"; return entries)

end

/-- A document being read: its tables, and the path of the table that settings go to. -/
structure Document where
  entries : Entries := []
  current : List String := []

/-- A line that opens a table. -/
def headerLine (doc : Document) : Scan Document := do
  let opened (path : List String) (key : String) (add : String → Entries → Option Entries) :
      Scan Document := do
    let entries ← descend false (fun _ inner => add key inner) .header path doc.entries
    return ⟨entries, path ++ [key]⟩
  (do
    exactly "[["
    let (path, key) ← dottedKey
    exactly "]]"
    lineEnd
    opened path key openNext) <|>
  (do
    exactly "["
    let (path, key) ← dottedKey
    exactly "]"
    lineEnd
    opened path key openTable)

/-- A line that sets a key, with at most `n` characters. -/
def settingLine (n : Nat) (doc : Document) : Scan Document := do
  let (path, key) ← dottedKey
  exactly "="
  gap
  let v ← value n 0
  lineEnd
  let entries ← atHeader (assign path key v) doc.current doc.entries
  return { doc with entries }

/-- The lines of a document, at most `n` of them. -/
def lines (length : Nat) : Nat → Document → Scan Document
  | 0, doc => do atEnd; return doc
  | n + 1, doc => do
    gap
    (do atEnd; return doc) <|> (do
      let doc ←
        (do discard (optionally comment); lineBreak <|> atEnd; return doc) <|>
        headerLine doc <|> settingLine length doc
      lines length n doc)

/-- The tables of a document. -/
def read (text : String) : Option Entries := do
  let s := match text.toList with
    | '\uFEFF' :: s => s
    | s => s
  let (doc, _) ← (lines (2 * s.length + 2) (s.length + 1) {}).run s
  return doc.entries

end QueryRecipe.Toml
