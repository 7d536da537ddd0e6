import Mathlib.Data.List.Basic
import Mathlib.Data.List.Induction
import Mathlib.Tactic.Common
import QueryRecipe.Dialect

/-!
# Reading a statement

How the three dialects read the text of a statement: a scanner over characters with a mode for what is
being read, and the tokens that it gives off. It knows nothing of how statements are written, so what a
written text comes to can be stated against it.

A string or quoted name may be delimited by `'` and `"` everywhere, by a backtick except in PostgreSQL,
where that is an ordinary sign, and by brackets in SQLite. PostgreSQL has dollar-quoted strings and nests
its comments, MySQL has comments from `#` to the end of the line, and a backslash escapes in its strings
only. Main statements: scanning goes through a text in parts (`scan_append`), and a text that ends at
rest is read by itself, whatever follows that does not extend its last token (`lex_append`).
-/

namespace QueryRecipe.Lexer

/-- The delimiters of strings and quoted names. -/
inductive Quote where
  | single
  | double
  | back
  | bracket
  deriving DecidableEq, Repr

namespace Quote

/-- The delimiter at the start. -/
def opening : Quote → Char
  | .single => '\''
  | .double => '"'
  | .back => '`'
  | .bracket => '['

/-- The delimiter at the end. -/
def closing : Quote → Char
  | .bracket => ']'
  | q => q.opening

/-- Whether the closing delimiter, written twice inside, stands for itself. -/
def doubles : Quote → Bool
  | .bracket => false
  | _ => true

end Quote

/-- The quoted run that a character opens. -/
def quote? (d : Dialect) (c : Char) : Option Quote :=
  if c = '\'' then some .single
  else if c = '"' then some .double
  else if c = '`' ∧ d ≠ .postgres then some .back
  else if c = '[' ∧ d = .sqlite then some .bracket
  else none

/-- Whether a backslash escapes inside a run. -/
def escapes (d : Dialect) (q : Quote) : Bool :=
  d = .mysql && (q = .single || q = .double)

/-- What a character stands for after a backslash. -/
def unescaped : Char → List Char
  | '0' => ['\x00']
  | 'b' => ['\x08']
  | 'n' => ['\n']
  | 'r' => ['\r']
  | 't' => ['\t']
  | 'Z' => ['\x1a']
  | '%' => ['\\', '%']
  | '_' => ['\\', '_']
  | c => [c]

/-- Whether a character starts a word: a keyword or a name without quotes. -/
def isWordStart (c : Char) : Bool :=
  c.isAlpha || c = '_' || 0x80 ≤ c.toNat

/-- Whether a character continues a word. -/
def isWordChar (c : Char) : Bool :=
  isWordStart c || c.isDigit || c = '$'

/-- Whether a character may stand in the tag of a dollar-quoted string after the characters of `rev`. -/
def isTagChar (rev : List Char) (c : Char) : Bool :=
  isWordStart c || (c.isDigit && rev != [])

/-- What stands between the dollar signs, with them. -/
def delimiter (tag : List Char) : List Char :=
  '$' :: tag ++ ['$']

/-- A token of a statement. -/
inductive Token where
  | word (s : List Char)
  | number (s : List Char)
  | symbol (c : Char)
  /-- A string or quoted name with its content. -/
  | quoted (q : Quote) (s : List Char)
  /-- A dollar-quoted string with its content. -/
  | dollar (s : List Char)
  | comment
  deriving DecidableEq, Repr

/-- What is being read. Characters read so far are kept in reverse. -/
inductive Mode where
  | neutral
  | word (rev : List Char)
  | number (rev : List Char)
  /-- After a `-` that may begin a comment. -/
  | dash
  /-- After a `/` that may begin a comment. -/
  | slash
  /-- After a `$` that may begin a dollar-quoted string. -/
  | tag (rev : List Char)
  /-- After a closing delimiter that may be the first of two. -/
  | closed (q : Quote) (rev : List Char)
  | run (q : Quote) (rev : List Char)
  /-- After a backslash in a run. -/
  | escape (q : Quote) (rev : List Char)
  | dollar (tag rev : List Char)
  /-- In a comment that ends with the line. -/
  | line
  /-- In a comment of this depth, after a character. -/
  | block (depth : Nat) (last : Char)
  deriving DecidableEq, Repr

/-- Whether the mode is inside a run or a comment. -/
def Mode.isOpen : Mode → Bool
  | .run .. | .escape .. | .dollar .. | .line | .block .. => true
  | _ => false

/-- The tokens that a mode outside runs and comments comes to when something else follows. -/
def Mode.flush : Mode → List Token
  | .word rev => [.word rev.reverse]
  | .number rev => [.number rev.reverse]
  | .dash => [.symbol '-']
  | .slash => [.symbol '/']
  | .tag [] => [.symbol '$']
  | .tag rev => [.symbol '$', .word rev.reverse]
  | .closed q rev => [.quoted q rev.reverse]
  | _ => []

/-- Tokens given off before what a step gives. -/
def emit (ts : List Token) (s : List Token × Mode) : List Token × Mode :=
  (ts ++ s.1, s.2)

/-- The step on a character with nothing begun. -/
def start (d : Dialect) (c : Char) : List Token × Mode :=
  match quote? d c with
  | some q => ([], .run q [])
  | none =>
    if c = '-' then ([], .dash)
    else if c = '/' then ([], .slash)
    else if c = '#' ∧ d = .mysql then ([], .line)
    else if c = '$' ∧ d = .postgres then ([], .tag [])
    else if c.isWhitespace then ([], .neutral)
    else if c.isDigit then ([], .number [c])
    else if isWordStart c then ([], .word [c])
    else ([.symbol c], .neutral)

/-- The step on a character inside a comment of some depth. -/
def blockStep (d : Dialect) (depth : Nat) (last c : Char) : List Token × Mode :=
  if last = '*' ∧ c = '/' then
    if depth ≤ 1 then ([.comment], .neutral) else ([], .block (depth - 1) ' ')
  else if last = '/' ∧ c = '*' ∧ d = .postgres then
    ([], .block (depth + 1) ' ')
  else
    ([], .block depth c)

/-- The step on a character: the tokens that it completes and the mode after it. -/
def step (d : Dialect) (m : Mode) (c : Char) : List Token × Mode :=
  match m with
  | .neutral => start d c
  | .word rev => if isWordChar c then ([], .word (c :: rev)) else emit m.flush (start d c)
  | .number rev =>
    if c.isDigit ∨ c = '.' then ([], .number (c :: rev)) else emit m.flush (start d c)
  | .dash => if c = '-' then ([], .line) else emit m.flush (start d c)
  | .slash => if c = '*' then ([], .block 1 ' ') else emit m.flush (start d c)
  | .tag rev =>
    if isTagChar rev c then ([], .tag (c :: rev))
    else if c = '$' then ([], .dollar rev.reverse [])
    else emit m.flush (start d c)
  | .closed q rev => if c = q.closing then ([], .run q (c :: rev)) else emit m.flush (start d c)
  | .run q rev =>
    if c = q.closing then
      if q.doubles then ([], .closed q rev) else ([.quoted q rev.reverse], .neutral)
    else if c = '\\' ∧ escapes d q then ([], .escape q rev)
    else ([], .run q (c :: rev))
  | .escape q rev => ([], .run q ((unescaped c).reverse ++ rev))
  | .dollar tag rev =>
    let rev := c :: rev
    if (delimiter tag).reverse.isPrefixOf rev then
      ([.dollar (rev.drop (delimiter tag).length).reverse], .neutral)
    else
      ([], .dollar tag rev)
  | .line => if c = '\n' then ([.comment], .neutral) else ([], .line)
  | .block depth last => blockStep d depth last c

/-- The tokens that a text completes, and the mode after it. -/
def scan (d : Dialect) (m : Mode) : List Char → List Token × Mode
  | [] => ([], m)
  | c :: r =>
    let now := step d m c
    emit now.1 (scan d now.2 r)

/-- The tokens of a text, unless a run or comment is open at its end. -/
def lex (d : Dialect) (s : List Char) : Option (List Token) :=
  let end? := scan d .neutral s
  if end?.2.isOpen then none else some (end?.1 ++ end?.2.flush)

/-- The codes of the capitals. -/
lemma isUpper_iff {c : Char} : c.isUpper = true ↔ 65 ≤ c.toNat ∧ c.toNat ≤ 90 :=
  decide_eq_true_iff

/-- The codes of the small letters. -/
lemma isLower_iff {c : Char} : c.isLower = true ↔ 97 ≤ c.toNat ∧ c.toNat ≤ 122 := by
  show (decide (97 ≤ c.toNat) && decide (c.toNat ≤ 122)) = true ↔ _
  simp

/-- The codes of the digits. -/
lemma isDigit_iff {c : Char} : c.isDigit = true ↔ 48 ≤ c.toNat ∧ c.toNat ≤ 57 := by
  show (decide (48 ≤ c.toNat) && decide (c.toNat ≤ 57)) = true ↔ _
  simp

/-- A basic letter is a capital or a small one. -/
lemma isAlpha_iff {c : Char} : c.isAlpha = true ↔ c.isUpper = true ∨ c.isLower = true :=
  Bool.or_eq_true_iff

/-- A digit starts no word. -/
lemma isWordStart_digit {c} (h : c.isDigit = true) : isWordStart c = false := by
  rw [isDigit_iff] at h
  cases e : isWordStart c
  · rfl
  · simp only [isWordStart, Bool.or_eq_true, decide_eq_true_eq, isAlpha_iff, isUpper_iff,
      isLower_iff] at e
    rcases e with (letter | rfl) | high
    · omega
    · exact absurd h.2 (by decide)
    · omega

/-- A character that starts a word is none of the signs with a meaning of their own. -/
lemma isWordStart_plain {c} (h : isWordStart c = true) :
    c ∉ ['\'', '"', '`', '[', '-', '/', '#', '$', '.'] ∧ c.isWhitespace = false ∧
      c.isDigit = false := by
  refine ⟨fun mem => ?_, ?_, ?_⟩
  · have none : (['\'', '"', '`', '[', '-', '/', '#', '$', '.'].all (!isWordStart ·)) = true := by
      decide
    have not := List.all_eq_true.1 none c mem
    simp [h] at not
  · by_contra blank
    simp only [Char.isWhitespace, Bool.not_eq_false, Bool.or_eq_true, decide_eq_true_eq] at blank
    rcases blank with ((rfl | rfl) | rfl) | rfl <;> exact absurd h (by decide)
  · cases e : c.isDigit
    · rfl
    · simp [isWordStart_digit e] at h

/-- A word is begun by the characters that start one. -/
lemma start_word {d c} (h : isWordStart c = true) : start d c = ([], .word [c]) := by
  obtain ⟨ne, blank, digit⟩ := isWordStart_plain h
  simp only [List.mem_cons, List.not_mem_nil, or_false, not_or] at ne
  obtain ⟨single, double, back, bracket, dash, slash, hash, dollar, -⟩ := ne
  simp [start, quote?, *]

/-- A number is begun by a digit. -/
lemma start_digit {d c} (h : c.isDigit = true) : start d c = ([], .number [c]) := by
  have plain : (['\'', '"', '`', '[', '-', '/', '#', '$'].all (!Char.isDigit ·)) = true := by decide
  have ne : c ∉ ['\'', '"', '`', '[', '-', '/', '#', '$'] := by
    intro mem
    have not := List.all_eq_true.1 plain c mem
    simp [h] at not
  have blank : c.isWhitespace = false := by
    by_contra blank
    simp only [Char.isWhitespace, Bool.not_eq_false, Bool.or_eq_true, decide_eq_true_eq] at blank
    rcases blank with ((rfl | rfl) | rfl) | rfl <;> exact absurd h (by decide)
  simp only [List.mem_cons, List.not_mem_nil, or_false, not_or] at ne
  obtain ⟨single, double, back, bracket, dash, slash, hash, dollar⟩ := ne
  simp [start, quote?, *]

/-- To give off no tokens changes nothing. -/
@[simp] lemma emit_nil (s : List Token × Mode) : emit [] s = s := rfl

/-- Tokens are given off one list after the other. -/
lemma emit_emit (ts us : List Token) (s : List Token × Mode) :
    emit ts (emit us s) = emit (ts ++ us) s := by
  simp [emit]

/-- Nothing is read of the empty text. -/
@[simp] lemma scan_nil (d : Dialect) (m : Mode) : scan d m [] = ([], m) := rfl

/-- A text is scanned part by part. -/
lemma scan_append (d : Dialect) (m : Mode) (s r : List Char) :
    scan d m (s ++ r) = emit (scan d m s).1 (scan d (scan d m s).2 r) := by
  induction s generalizing m with
  | nil => rfl
  | cons c s ih =>
    rw [List.cons_append, scan, scan, ih, emit_emit]
    rfl

/-- Characters that continue what is being read are collected to their end. -/
lemma scan_collect {d : Dialect} {m : List Char → Mode} {s : List Char}
    (keeps : ∀ c ∈ s, ∀ rev, step d (m rev) c = ([], m (c :: rev))) (rev : List Char) :
    scan d (m rev) s = ([], m (s.reverse ++ rev)) := by
  induction s generalizing rev with
  | nil => rfl
  | cons c s ih =>
    obtain ⟨now, later⟩ := List.forall_mem_cons.1 keeps
    rw [scan, now, ih later]
    simp

/-- A character that does not extend what is being read: it is completed, and the character is read as
with nothing begun. -/
def Settles (d : Dialect) (m : Mode) (c : Char) : Prop :=
  step d m c = emit m.flush (start d c)

/-- Nothing is begun at rest. -/
lemma Settles.neutral {d c} : Settles d .neutral c := rfl

/-- A closed run is completed by any character but its delimiter. -/
lemma Settles.closed {d c} {q : Quote} {rev} (ne : c ≠ q.closing) : Settles d (.closed q rev) c := by
  simp [Settles, step, ne]

/-- A word is completed by what cannot continue it. -/
lemma Settles.word {d c rev} (h : isWordChar c = false) : Settles d (.word rev) c := by
  simp [Settles, step, h]

/-- A number is completed by what is neither a digit nor a point. -/
lemma Settles.number {d c rev} (h : c.isDigit = false) (ne : c ≠ '.') :
    Settles d (.number rev) c := by
  simp [Settles, step, h, ne]

/-- The signs that complete whatever is being read outside runs and comments. -/
def separators : List Char :=
  [' ', '(', ')', ',']

/-- A separator belongs to no word, number or mark of more than one character. -/
lemma separator_plain {c} (h : c ∈ separators) : isWordStart c = false ∧ c.isDigit = false ∧
    c ∉ ['.', '$', '-', '*', '\'', '"', '`', ']'] := by
  simp only [separators, List.mem_cons, List.not_mem_nil, or_false] at h
  rcases h with rfl | rfl | rfl | rfl <;> decide

/-- A separator extends nothing. -/
lemma Settles.separator {d m c} (rest : m.isOpen = false) (sep : c ∈ separators) :
    Settles d m c := by
  obtain ⟨word, digit, ne⟩ := separator_plain sep
  simp only [List.mem_cons, List.not_mem_nil, or_false, not_or] at ne
  obtain ⟨dot, dollar, dash, star, single, double, back, bracket⟩ := ne
  cases m with
  | neutral => exact .neutral
  | word => exact .word (by simp [isWordChar, word, digit, dollar])
  | number => exact .number digit dot
  | dash => simp [Settles, step, dash]
  | slash => simp [Settles, step, star]
  | tag rev => simp [Settles, step, isTagChar, word, digit, dollar]
  | closed q rev => cases q <;> exact .closed ‹_›
  | run | escape | dollar | line | block => simp [Mode.isOpen] at rest

/-- What follows a settled mode is scanned by itself. -/
lemma scan_settled {d m c} (r : List Char) (h : Settles d m c) :
    scan d m (c :: r) = emit m.flush (scan d .neutral (c :: r)) := by
  rw [scan, h, scan, emit_emit]
  rfl

/-- Nothing is open at the end of a text that is read. -/
lemma rest_of_lex {d s toks} (read : lex d s = some toks) :
    (scan d .neutral s).2.isOpen = false := by
  cases e : (scan d .neutral s).2.isOpen <;> simp [lex, e] at read ⊢

/-- A text whose end is settled by what follows is read by itself. -/
lemma lex_append {d s r toks} (read : lex d s = some toks)
    (h : ∀ c ∈ r.head?, Settles d (scan d .neutral s).2 c) :
    lex d (s ++ r) = (lex d r).map (toks ++ ·) := by
  have rest : (scan d .neutral s).2.isOpen = false := rest_of_lex read
  have eq : (scan d .neutral s).1 ++ (scan d .neutral s).2.flush = toks := by
    simpa [lex, rest] using read
  cases r with
  | nil =>
    rw [List.append_nil, read]
    simp [lex, Mode.isOpen, Mode.flush]
  | cons c r =>
    have later : scan d .neutral (s ++ c :: r) = emit toks (scan d .neutral (c :: r)) := by
      rw [scan_append, scan_settled r (h c rfl), emit_emit, eq]
    rw [lex, later, lex]
    cases e : (scan d .neutral (c :: r)).2.isOpen <;> simp [emit, e]

/-- A text is read as a whole exactly if nothing is open at its end. -/
lemma lex_eq_some {d s} (rest : (scan d .neutral s).2.isOpen = false) :
    lex d s = some ((scan d .neutral s).1 ++ (scan d .neutral s).2.flush) := by
  simp [lex, rest]

end QueryRecipe.Lexer
