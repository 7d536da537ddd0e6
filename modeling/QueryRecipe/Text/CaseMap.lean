import QueryRecipe.Text.Cased
import QueryRecipe.Text.CaseMap.Table

/-!
# Upper and lower case

The full case mappings: a character may map to several characters (`ß` to `SS`), and a capital sigma
becomes a final sigma at the end of a word and a plain one elsewhere. The characters are those of
Unicode 17.0.
-/

namespace QueryRecipe.Text

/-- Where `n` moves by `run`, if it lies on it. -/
def CaseRun.moved? (run : CaseRun) (n : Nat) : Option Nat :=
  if run.first ≤ n ∧ n ≤ run.last ∧ (n - run.first) % run.stride = 0 then
    some (n + run.shift).toNat
  else
    none

/-- The mapping of `c` by a table of runs and one of expansions; a character in neither stays. -/
def mapCase (runs : List CaseRun) (expansions : List (Nat × List Nat)) (c : Char) : List Char :=
  match runs.findSome? (·.moved? c.toNat) with
  | some n => [Char.ofNat n]
  | none =>
    match expansions.lookup c.toNat with
    | some ns => ns.map Char.ofNat
    | none => [c]

/-- The upper case of one character; the basic letters are answered without the table. -/
def upperChar (c : Char) : List Char :=
  if c.toNat < 0x80 then [c.toUpper] else mapCase upperRuns upperExpansions c

/-- The lower case of one character outside any context. -/
def lowerChar (c : Char) : List Char :=
  if c.toNat < 0x80 then [c.toLower] else mapCase lowerRuns lowerExpansions c

/-- Whether the first character that is not case-ignorable is cased. -/
def meetsCased (s : List Char) : Bool :=
  match s.dropWhile isCaseIgnorable with
  | [] => false
  | c :: _ => isCased c

/-- The upper case of a text. -/
def upperChars (s : List Char) : List Char :=
  s.flatMap upperChar

/-- The lower case of a text, `before` being what stands before it, nearest character first. -/
def lowerAfter (before : List Char) : List Char → List Char
  | [] => []
  | c :: r =>
    let here :=
      if c = 'Σ' then
        if meetsCased before && !meetsCased r then ['ς'] else ['σ']
      else
        lowerChar c
    here ++ lowerAfter (c :: before) r

/-- The upper case of a string. -/
def upper (s : String) : String :=
  .ofList (upperChars s.toList)

/-- The lower case of a string. -/
def lower (s : String) : String :=
  .ofList (lowerAfter [] s.toList)

end QueryRecipe.Text
