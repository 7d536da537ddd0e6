import QueryRecipe.Rejection
import QueryRecipe.Text.Blank
import QueryRecipe.Text.CaseMap
import QueryRecipe.Text.Search
import QueryRecipe.Text.Word

/-!
# Screening of expressions

An expression that a recipe writes in SQL itself reaches the statement as it stands. It is screened
first: no comment marks, semicolons or backslashes, every quote closed, no dollar sign outside quotes,
and none of the forbidden keywords in its upper case. What is accepted is the trimmed text.
-/

namespace QueryRecipe

/-- Where a forbidden keyword counts. -/
inductive KeywordPlace where
  | anywhere
  /-- Only with an opening parenthesis after it, perhaps after blanks. -/
  | beforeParenthesis
  /-- Only where no word character stands before it. -/
  | atWordStart
  deriving DecidableEq, Repr

/-- A keyword that no expression may hold, in upper case. -/
structure Keyword where
  word : String
  place : KeywordPlace := .anywhere

namespace Keyword

/-- The keywords that read or change data. -/
def dml : List Keyword :=
  ["SELECT", "INSERT", "UPDATE", "DELETE"].map (⟨·, .anywhere⟩)

/-- The forbidden keywords; where two begin at one place the earlier one is reported. -/
def forbidden : List Keyword :=
  dml ++ ["DROP", "CREATE", "ALTER", "TRUNCATE", "UNION", "INTERSECT", "EXCEPT", "EXEC", "GRANT",
    "REVOKE", "INFORMATION_SCHEMA", "WAITFOR", "DELAY", "SHUTDOWN", "PG_", "MYSQL."].map
      (⟨·, .anywhere⟩) ++
    [⟨"SLEEP", .beforeParenthesis⟩, ⟨"BENCHMARK", .beforeParenthesis⟩, ⟨"XP_", .atWordStart⟩,
      ⟨"SP_", .atWordStart⟩]

/-- Whether the keyword counts at the start of `s`, after the character `before`. -/
def startsAt (before : Option Char) (s : List Char) (k : Keyword) : Bool :=
  let w := k.word.toList
  w.isPrefixOf s &&
    match k.place with
    | .anywhere => true
    | .beforeParenthesis => (Text.trimStart (s.drop w.length)).head? = some '('
    | .atWordStart => !before.any Text.isWord

/-- The first of the keywords that counts somewhere in the text. -/
def find? (ks : List Keyword) (before : Option Char) (s : List Char) : Option Keyword :=
  match ks.find? (startsAt before s), s with
  | some k, _ => some k
  | none, [] => none
  | none, c :: r => find? ks (some c) r

end Keyword

namespace Screening

/-- The marks that open or close a comment or end a statement. -/
def markers : List String :=
  ["--", "/*", "*/", ";"]

/-- Whether `c` opens a quoted run. -/
def isQuote (c : Char) : Bool :=
  c = '\'' || c = '"' || c = '`'

/-- What is wrong with the quotes of a text that starts inside the run of `opened`, or outside any run.
Inside a run its delimiter is escaped by being doubled. -/
def quoteFlaw? : Option Char → List Char → Option Flaw
  | none, [] => none
  | some q, [] => some (.unbalanced q)
  | none, c :: r =>
    if isQuote c then quoteFlaw? (some c) r
    else if c = '$' then some .dollar
    else quoteFlaw? none r
  | some q, [c] => if c = q then none else some (.unbalanced q)
  | some q, c :: d :: r =>
    if c = q then
      if d = q then quoteFlaw? (some q) r else quoteFlaw? none (d :: r)
    else
      quoteFlaw? (some q) (d :: r)

/-- What is wrong with a trimmed expression. -/
def flaw? (s : List Char) : Option Flaw :=
  let capitals := Text.upperChars s
  if s = [] then
    some .empty
  else if let some m := markers.find? fun m => Text.occursIn m.toList s then
    some (.marker m)
  else if s.contains '\\' then
    some .backslash
  else if let some f := quoteFlaw? none s then
    some f
  else if s.contains '(' && (Keyword.find? Keyword.dml none capitals).isSome then
    some .subquery
  else
    (Keyword.find? Keyword.forbidden none capitals).map fun k => .keyword k.word

end Screening

/-- The trimmed expression if nothing is wrong with it. A blank one is reported as it was written. -/
def screen (s : String) : Except Rejection String :=
  let t := Text.trim s
  match Screening.flaw? t.toList with
  | none => .ok t
  | some .empty => .error (.expression s .empty)
  | some f => .error (.expression t f)

/-- An expression without flaws is accepted, trimmed. -/
theorem screen_eq_ok_iff {s t : String} :
    screen s = .ok t ↔ t = Text.trim s ∧ Screening.flaw? t.toList = none := by
  simp only [screen]
  constructor
  · intro h
    split at h
    next e =>
      cases h
      exact ⟨rfl, e⟩
    next => cases h
    next => cases h
  · rintro ⟨rfl, e⟩
    rw [e]

end QueryRecipe
