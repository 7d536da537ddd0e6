import QueryRecipe.Proofs.Statement.Nesting

/-!
# The window on the rows

How the clauses that cut the rows of a statement are read, by the grammar of each dialect. PostgreSQL has a
clause for the limit and one for the offset, and each may be missing. MySQL has one clause with the limit,
before which the offset may stand. SQLite has a clause for the limit, which is negative if all rows are to
be shown, and behind it one for the offset may stand.

The clauses that are written for a window are read in each dialect, and they select the rows that the
window asks for (`Page.window_rows`).
-/

namespace QueryRecipe

open Lexer

/-- The rows that a page holds: those behind the offset, and no more of them than the limit. -/
def Page.rows {α : Type} (p : Page) (rows : List α) : List α :=
  let rest := rows.drop (p.offset.getD 0).toNat
  p.limit.elim rest fun n => rest.take n.toNat

/-- What clauses say about rows: how many are passed over, and how many are shown at most. -/
structure Window where
  passed : Nat
  most : Option Nat
  deriving DecidableEq, Repr

/-- The rows in a window. -/
def Window.rows {α : Type} (w : Window) (rows : List α) : List α :=
  let rest := rows.drop w.passed
  w.most.elim rest rest.take

namespace Lexer

/-- The natural number that a token stands for. -/
def Token.natural? : Token → Option Nat
  | .number s => if s.all Char.isDigit then some (Nat.ofDigitChars 10 s 0) else none
  | _ => none

/-- A natural number, and what stands behind it. -/
def natural? : List Token → Option (Nat × List Token)
  | [] => none
  | t :: rest => t.natural?.map (·, rest)

/-- A part that is missing unless its first token is there, and what stands behind it. -/
def part? {α : Type} (first : Token) (inside : List Token → Option (α × List Token)) :
    List Token → Option (Option α × List Token)
  | [] => some (none, [])
  | t :: rest =>
    if t = first then (inside rest).map fun r => (some r.1, r.2) else some (none, t :: rest)

/-- A number of rows to be shown: a negative one stands for all. -/
def count? (toks : List Token) : Option (Option Nat × List Token) := do
  let (negated, rest) ← part? (.symbol '-') natural? toks
  match negated with
  | some 0 => return (some 0, rest)
  | some _ => return (none, rest)
  | none =>
    let (n, rest) ← natural? rest
    return (some n, rest)

/-- The clauses of PostgreSQL: `LIMIT n` and `OFFSET m`, or one of them, or none. -/
def postgresClauses? (toks : List Token) : Option (Window × List Token) := do
  let (limit, rest) ← part? wordLimit natural? toks
  let (offset, rest) ← part? wordOffset natural? rest
  return (⟨offset.getD 0, limit⟩, rest)

/-- The clause of MySQL: `LIMIT n` or `LIMIT m, n`, or none. -/
def mysqlClauses? (toks : List Token) : Option (Window × List Token) := do
  let inside (toks : List Token) := do
    let (first, rest) ← natural? toks
    let (second, rest) ← part? (.symbol ',') natural? rest
    return (second.elim (Window.mk 0 (some first)) fun n => ⟨first, some n⟩, rest)
  let (window, rest) ← part? wordLimit inside toks
  return (window.getD ⟨0, none⟩, rest)

/-- The clauses of SQLite: `LIMIT n` or `LIMIT n OFFSET m`, or none. -/
def sqliteClauses? (toks : List Token) : Option (Window × List Token) := do
  let inside (toks : List Token) := do
    let (count, rest) ← count? toks
    let (offset, rest) ← part? wordOffset natural? rest
    return (Window.mk (offset.getD 0) count, rest)
  let (window, rest) ← part? wordLimit inside toks
  return (window.getD ⟨0, none⟩, rest)

/-- The window that clauses ask for in a dialect, if nothing stands behind them. -/
def window? (d : Dialect) (toks : List Token) : Option Window := do
  let (window, rest) ← match d with
    | .postgres => postgresClauses? toks
    | .mysql => mysqlClauses? toks
    | .sqlite => sqliteClauses? toks
  if rest = [] then some window else none

section Parts
variable {α : Type} {first t : Token} {inside : List Token → Option (α × List Token)}
  {rest : List Token} {n : ℕ}

/-- The digits of a number stand for it. -/
@[simp]
lemma natural?_digitsOf : natural? (.number (Text.digitsOf n) :: rest) = some (n, rest) := by
  have digits : (Text.digitsOf n).all Char.isDigit = true :=
    List.all_eq_true.2 fun _ => Text.isDigit_digitsOf
  rw [natural?, Token.natural?, if_pos digits, Text.digitsOf, Nat.ofDigitChars_ten_toDigits]
  rfl

/-- No tokens have no part. -/
@[simp]
lemma part?_nil : part? first inside [] = some (none, []) := rfl

/-- A part is there if its first token is, and then its inside is read. -/
@[simp]
lemma part?_first : part? first inside (first :: rest) =
    (inside rest).map fun r => (some r.1, r.2) :=
  if_pos rfl

/-- A part is missing if another token is first, and nothing is read. -/
lemma part?_other (ne : t ≠ first) : part? first inside (t :: rest) = some (none, t :: rest) :=
  if_neg ne

end Parts

end Lexer

section Tokens
variable {d : Dialect}

/-- A separating comma is read as a comma. -/
lemma Piece.tokens_comma : (fixed ", ").tokens d = [.symbol ','] := by
  cases d <;> decide +kernel

/-- The limit that stands for all rows is read as a sign and a number. -/
lemma Piece.tokens_minusOne : (number "-1").tokens d = [.symbol '-', .number (Text.digitsOf 1)] := by
  cases d <;> decide +kernel

/-- A natural number is read as its digits. -/
lemma Piece.tokens_naturalText {n : ℕ} :
    (number (Text.naturalText n)).tokens d = [.number (Text.digitsOf n)] := by
  rw [tokens, spelling, Text.naturalText, String.toList_ofList,
    lex_numeral (isNumeral_digitsOf n), Option.getD_some]

end Tokens

namespace Page

section Read
variable {d : Dialect} {p : Page}

/-- The limit that is written for all rows is the greatest there is. -/
lemma mostRows_eq : mostRows = Text.naturalText (UInt64.size - 1) := by
  decide +kernel

/-- To pass over no rows is to have no offset. -/
lemma skip?_getD : p.skip?.getD 0 = p.offset.getD 0 := by
  rw [skip?]
  cases p.offset with
  | none => rfl
  | some m =>
    by_cases zero : m = 0
    · subst zero
      rfl
    · have pos : 0 < m := UInt64.pos_iff_ne_zero.2 zero
      rw [Option.filter_some, if_pos (decide_eq_true pos)]

/-- The clauses of PostgreSQL are those for the limit and for the offset that are there. -/
lemma postgresClauses?_tokens : postgresClauses? ((p.sql .postgres).tokens .postgres) =
    some (⟨(p.skip?.getD 0).toNat, p.limit.map UInt64.toNat⟩, []) := by
  have apart : wordOffset ≠ wordLimit := by decide
  cases limit : p.limit <;> cases skip : p.skip? <;>
    simp [Page.sql, limit, skip, postgresClauses?, part?_other apart, Sql.tokens_cons, Sql.tokens_nil,
      Piece.tokens_limit, Piece.tokens_offset, Piece.tokens_naturalText]

/-- The clause of MySQL shows as many rows as there can be if it needs a limit and there is none. -/
lemma mysqlClauses?_tokens : mysqlClauses? ((p.sql .mysql).tokens .mysql) =
    some (⟨(p.skip?.getD 0).toNat, if p.limit = none ∧ p.skip? ≠ none then some (UInt64.size - 1) else
      p.limit.map UInt64.toNat⟩, []) := by
  cases limit : p.limit <;> cases skip : p.skip? <;>
    simp [Page.sql, limit, skip, mysqlClauses?, mostRows_eq, Sql.tokens_cons, Sql.tokens_nil,
      Piece.tokens_limit, Piece.tokens_comma, Piece.tokens_naturalText]

/-- The clauses of SQLite show all rows if they need a limit and there is none. -/
lemma sqliteClauses?_tokens : sqliteClauses? ((p.sql .sqlite).tokens .sqlite) =
    some (⟨(p.skip?.getD 0).toNat, p.limit.map UInt64.toNat⟩, []) := by
  have unsigned {n : ℕ} : Token.number (Text.digitsOf n) ≠ .symbol '-' := nofun
  cases limit : p.limit <;> cases skip : p.skip? <;>
    simp [Page.sql, limit, skip, sqliteClauses?, count?, part?_other unsigned, Sql.tokens_cons,
      Sql.tokens_nil, Piece.tokens_limit, Piece.tokens_offset, Piece.tokens_minusOne,
      Piece.tokens_naturalText]

/-- The clauses of a window pass over the rows before its offset and show as many as its limit says;
without a limit they show all, or as many as there can be. -/
lemma window?_tokens : ∃ most, window? d ((p.sql d).tokens d) =
    some ⟨(p.offset.getD 0).toNat, most⟩ ∧
      (most = p.limit.map UInt64.toNat ∨ p.limit = none ∧ most = some (UInt64.size - 1)) := by
  rw [← skip?_getD]
  cases d with
  | postgres =>
    refine ⟨p.limit.map UInt64.toNat, ?_, .inl rfl⟩
    simp [window?, postgresClauses?_tokens]
  | mysql =>
    refine ⟨if p.limit = none ∧ p.skip? ≠ none then some (UInt64.size - 1) else
      p.limit.map UInt64.toNat, by simp [window?, mysqlClauses?_tokens], ?_⟩
    split
    next none => exact .inr ⟨none.1, rfl⟩
    next => exact .inl rfl
  | sqlite =>
    refine ⟨p.limit.map UInt64.toNat, ?_, .inl rfl⟩
    simp [window?, sqliteClauses?_tokens]

example : (lex .mysql " LIMIT 5, 10".toList).bind (window? .mysql) = some ⟨5, some 10⟩ := by
  decide +kernel

example : (lex .sqlite " LIMIT -1 OFFSET 5".toList).bind (window? .sqlite) = some ⟨5, none⟩ := by
  decide +kernel

/-- Nothing is written for a window exactly if it holds all rows. -/
lemma text_eq_empty_iff : (p.sql d).text d = "" ↔ p.isAll = true := by
  constructor
  · intro none
    by_contra cut
    obtain ⟨r, e | e⟩ := Statement.begins_page (d := d) (Bool.not_eq_true _ ▸ cut)
    all_goals simp [e, Sql.text, Sql.spelling, Piece.spelling] at none
  · intro all
    rw [Statement.page_of_isAll all]
    rfl

end Read

/-- The clauses that are written for a window are read in every dialect, and from any result that can be
they select the rows behind the offset, and no more of them than the limit; there are none exactly if the
window holds all rows. -/
theorem window_rows (d : Dialect) (p : Page) :
    (∃ toks w, lex d ((p.sql d).text d).toList = some toks ∧ window? d toks = some w ∧
      ∀ {α : Type} (rows : List α), rows.length < UInt64.size → w.rows rows = p.rows rows) ∧
      ((p.sql d).text d = "" ↔ p.isAll = true) := by
  have fits : Sql.Fits ⟨fun _ => True, fun _ => True, fun _ => True⟩ (p.sql d) := .page
  obtain ⟨most, read, shown⟩ := window?_tokens (d := d) (p := p)
  refine ⟨⟨_, _, fits.lex_text, read, fun rows few => ?_⟩, text_eq_empty_iff⟩
  rw [Window.rows, Page.rows]
  rcases shown with rfl | ⟨none, rfl⟩
  · cases p.limit <;> rfl
  · have short : (rows.drop (p.offset.getD 0).toNat).length ≤ UInt64.size - 1 := by
      rw [List.length_drop]
      omega
    rw [none, Option.elim_some, Option.elim_none, List.take_of_length_le short]

/-- MySQL counts up to the greatest number in place of having no limit. -/
theorem window_rows_unlimited :
    let p : Page := ⟨none, some 2⟩
    [1, 2, 3, 4].length < UInt64.size ∧ p.rows [1, 2, 3, 4] = [3, 4] ∧ (p.sql .mysql).text .mysql ≠ "" ∧
      ∃ toks w, lex .mysql ((p.sql .mysql).text .mysql).toList = some toks ∧
        window? .mysql toks = some w ∧ w.rows [1, 2, 3, 4] = [3, 4] := by
  intro p
  obtain ⟨⟨toks, w, read, asked, same⟩, empty⟩ := window_rows .mysql p
  have few : [1, 2, 3, 4].length < UInt64.size := by decide
  have cut : ¬ p.isAll = true := by decide
  exact ⟨few, by decide, mt empty.1 cut, toks, w, read, asked, same _ few⟩

end Page

end QueryRecipe
