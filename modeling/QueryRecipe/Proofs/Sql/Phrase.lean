import Mathlib.Data.List.Chain
import QueryRecipe.Proofs.Lexer.Numeral
import QueryRecipe.Proofs.Lexer.Quoting
import QueryRecipe.Sql

/-!
# Phrases are read piece by piece

What a dialect reads when it reads the text of a phrase. A vocabulary says which names, strings and
functions may stand in the phrase; its other words come from a fixed list of templates. A phrase fits
the vocabulary if its pieces do and if no piece runs on into the next (`Sql.Fits`). Such a phrase is read
to its end with nothing left open, and each token belongs to the vocabulary, the keywords, the signs or
the numerals (`Sql.Fits.reads`).
-/

namespace QueryRecipe

open Lexer

/-- Which names, strings and functions may stand in a phrase. -/
structure Vocabulary where
  name : String → Prop
  string : String → Prop
  function : String → Prop

/-- The templates that run on from nothing before them and have nothing begun at their end. -/
@[simp]
def separating : List String :=
  [", ", "(", ")", ") ", " ", " (", ", 1)), LOWER(SUBSTRING(", ", 2)))",
    ", 1, 1)) || LOWER(SUBSTR(", ", 2))", " OR ", " AND ", " = ", " THEN ", " ELSE ", " AS ", " ON ",
    " LIMIT ", " OFFSET ", " FROM ", " WHERE ", " GROUP BY ", " ORDER BY ", " UNION ALL ", " UNION "]

/-- The other templates that have nothing begun at their end. -/
@[simp]
def opening : List String :=
  [".", "t.", "INITCAP(", "CONCAT(UPPER(LEFT(", "UPPER(SUBSTR(", "REPLACE(", "COALESCE(", "UPPER(",
    "LOWER(", "CASE WHEN ", "COUNT(DISTINCT ", "SELECT ", "SELECT DISTINCT ", "SELECT DISTINCT ON (",
    "SELECT * FROM ("]

/-- The other templates that run on from nothing before them. -/
@[simp]
def closing : List String :=
  [" IS NULL", " END", " AS t", ") AS t0"]

/-- The templates that stand between others. -/
@[simp]
def standing : List String :=
  ["t.*", "*", "NULL", "1 = 0", "1 = 1", "TRIM", "LTRIM", "RTRIM", "=", "!=", ">", ">=", "<", "<=",
    "IN", "NOT IN", "LIKE", "NOT LIKE", "IS NULL", "IS NOT NULL", "ASC", "DESC", "INNER JOIN",
    "LEFT JOIN", "RIGHT JOIN", "FULL JOIN", "CROSS JOIN"]

/-- The fixed words and signs of phrases without screened expressions. -/
@[simp]
def templates : List String :=
  separating ++ opening ++ closing ++ standing

/-- The keywords, function names and aliases of the templates, and the truth values. -/
def keywords : List String :=
  ["t", "t0", "NULL", "TRUE", "FALSE", "INITCAP", "CONCAT", "UPPER", "LOWER", "LEFT", "SUBSTRING",
    "SUBSTR", "REPLACE", "COALESCE", "TRIM", "LTRIM", "RTRIM", "CASE", "WHEN", "THEN", "ELSE", "END",
    "COUNT", "DISTINCT", "AS", "AND", "OR", "NOT", "IN", "LIKE", "IS", "ASC", "DESC", "INNER",
    "RIGHT", "FULL", "CROSS", "JOIN", "ON", "LIMIT", "OFFSET", "SELECT", "FROM", "WHERE", "GROUP",
    "BY", "ORDER", "UNION", "ALL"]

/-- The signs of the templates, and the minus sign of numbers. -/
def signs : List Char :=
  ['(', ')', ',', '.', '*', '=', '!', '<', '>', '|', '-']

/-- Whether a text is a function name in capitals: letters, digits and underscores, no digit first. -/
def IsFunctionName (s : List Char) : Prop :=
  ∃ c r, s = c :: r ∧ (c.isUpper = true ∨ c = '_') ∧
    ∀ a ∈ r, a.isUpper = true ∨ a.isDigit = true ∨ a = '_'

/-- Whether a token is a keyword, a sign, a numeral or one of a vocabulary. -/
def Lexer.Token.Within (V : Vocabulary) (d : Dialect) : Token → Prop
  | .word s => String.ofList s ∈ keywords ∨ (V.function (.ofList s) ∧ IsFunctionName s)
  | .number s => IsNumeral s
  | .symbol c => c ∈ signs
  | .quoted q s => (q = nameQuote d ∧ V.name (.ofList s)) ∨ (q = .single ∧ V.string (.ofList s))
  | .dollar _ | .comment => False

/-- Whether a text is read to its end with tokens of a vocabulary only. -/
def Reads (V : Vocabulary) (d : Dialect) (s : List Char) : Prop :=
  ∃ toks, lex d s = some toks ∧ ∀ t ∈ toks, t.Within V d

namespace Piece

/-- Whether a piece belongs to a vocabulary. No screened expression does. -/
def Within (V : Vocabulary) : Piece → Prop
  | .fixed s => s ∈ templates
  | .name s => V.name s
  | .string s => V.string s
  | .truth _ => True
  | .number s => IsNumber s.toList
  | .function s => V.function s ∧ IsFunctionName s.toList
  | .expression _ => False

/-- A template belongs to every vocabulary. -/
@[simp]
lemma within_fixed {V s} : (fixed s).Within V ↔ s ∈ templates := Iff.rfl

/-- A name belongs to a vocabulary that has it. -/
@[simp]
lemma within_name {V s} : (name s).Within V ↔ V.name s := Iff.rfl

/-- A string belongs to a vocabulary that has it. -/
@[simp]
lemma within_string {V s} : (string s).Within V ↔ V.string s := Iff.rfl

/-- A truth value belongs to every vocabulary. -/
@[simp]
lemma within_truth {V b} : (truth b).Within V := trivial

/-- A number belongs to every vocabulary if it is one. -/
@[simp]
lemma within_number {V s} : (number s).Within V ↔ IsNumber s.toList := Iff.rfl

/-- A function belongs to a vocabulary that has its name. -/
@[simp]
lemma within_function {V s} : (function s).Within V ↔ V.function s ∧ IsFunctionName s.toList :=
  Iff.rfl

/-- A screened expression belongs to no vocabulary. -/
@[simp]
lemma within_expression {V s} : ¬ (expression s).Within V := id

/-- Whether nothing after a piece can run on from it. -/
def EndsApart : Piece → Prop
  | .fixed s => s ∈ separating ++ opening
  | _ => False

/-- Whether a piece runs on from nothing before it. -/
def StartsApart : Piece → Prop
  | .fixed s => s ∈ separating ++ closing
  | _ => False

/-- Which templates end apart. -/
@[simp]
lemma endsApart_fixed {s} : (fixed s).EndsApart ↔ s ∈ separating ++ opening := Iff.rfl

/-- Which templates start apart. -/
@[simp]
lemma startsApart_fixed {s} : (fixed s).StartsApart ↔ s ∈ separating ++ closing := Iff.rfl

/-- Whether a piece does not run on into the next. -/
def Joins (p r : Piece) : Prop :=
  p.EndsApart ∨ r.StartsApart ∨ ((∃ s, p = .name s) ∧ r = .fixed ".")

end Piece

/-- A phrase of a vocabulary whose pieces do not run on into each other. -/
structure Sql.Fits (V : Vocabulary) (q : Sql) : Prop where
  within : ∀ p ∈ q, p.Within V
  joins : q.IsChain Piece.Joins

/-- Whether a phrase runs on from nothing before it. -/
def Sql.Leads (q : Sql) : Prop :=
  ∀ p ∈ q.head?, p.StartsApart

section Reading
variable {V : Vocabulary} {d : Dialect}

/-- Whether a token of the templates is a keyword, a sign or a numeral. -/
def isTemplateToken : Token → Bool
  | .word s => keywords.any fun k => k.toList = s
  | .number s => s.all Char.isDigit && s != []
  | .symbol c => c ∈ signs
  | _ => false

/-- The templates are read in every dialect. -/
lemma templates_read : ∀ s ∈ templates, ∀ d ∈ [Dialect.postgres, .mysql, .sqlite], s.toList ≠ [] ∧
    ((lex d s.toList).any fun toks => toks.all isTemplateToken) = true := by
  decide +kernel

/-- Nothing is begun at the end of a template that ends apart. -/
lemma scan_endsApart : ∀ s ∈ separating ++ opening, ∀ d ∈ [Dialect.postgres, .mysql, .sqlite],
    (scan d .neutral s.toList).2 = .neutral := by
  decide +kernel

/-- A template that starts apart starts with a separator. -/
lemma head?_startsApart : ∀ s ∈ separating ++ closing,
    (s.toList.head?.any (· ∈ separators)) = true := by
  decide +kernel

/-- A token of the templates belongs to every vocabulary. -/
lemma Token.within_template {t : Token} (h : isTemplateToken t = true) : t.Within V d := by
  cases t with
  | word s =>
    obtain ⟨k, known, same⟩ := List.any_eq_true.1 h
    have eq : String.ofList s = k := by
      rw [← of_decide_eq_true same, String.ofList_toList]
    exact .inl (eq ▸ known)
  | number s =>
    simp only [isTemplateToken, Bool.and_eq_true, List.all_eq_true, bne_iff_ne] at h
    exact .of_digits h.2 h.1
  | symbol c =>
    have sign : c ∈ signs := by simpa [isTemplateToken] using h
    exact sign
  | _ => simp [isTemplateToken] at h

/-- A text of template tokens is read. -/
lemma reads_template {s : List Char}
    (h : ((lex d s).any fun toks => toks.all isTemplateToken) = true) : Reads V d s := by
  obtain ⟨toks, read, all⟩ := Option.any_eq_true _ _ |>.1 h
  exact ⟨toks, read, fun t mem => Token.within_template (List.all_eq_true.1 all t mem)⟩

/-- A text that is read as one token of the vocabulary. -/
lemma reads_single {s : List Char} {m : Mode} {t : Token} (read : scan d .neutral s = ([], m))
    (rest : m.isOpen = false) (flush : m.flush = [t]) (h : t.Within V d) : Reads V d s := by
  refine ⟨[t], ?_, by simpa using h⟩
  rw [lex, read]
  simp [rest, flush]

/-- A numeral is read as one token. -/
lemma lex_numeral {s} (h : IsNumeral s) : lex d s = some [.number s] := by
  rw [lex, scan_numeral h]
  simp [Mode.isOpen, Mode.flush]

/-- A number is read as one token, its minus sign by itself. -/
lemma lex_number {s} (h : IsNumber s) : ∃ r, IsNumeral r ∧
    (lex d s = some [.number r] ∨ lex d s = some [.symbol '-', .number r]) := by
  cases h with
  | plain h => exact ⟨s, h, .inl (lex_numeral h)⟩
  | @negative s h =>
    -- a second minus sign would begin a comment
    have settles : ∀ c ∈ s.head?, Settles d .dash c := by
      cases h with
      | @intro c r first rest =>
        rintro _ ⟨⟩
        have ne : c ≠ '-' := by
          rintro rfl
          exact absurd first (by decide)
        simp [Settles, step, ne]
    have sign : lex d ['-'] = some [.symbol '-'] := by cases d <;> rfl
    have dash : (scan d .neutral ['-']).2 = .dash := by cases d <;> rfl
    have whole := lex_append sign (r := s) (dash ▸ settles)
    rw [lex_numeral h] at whole
    exact ⟨s, h, .inr whole⟩

/-- A number is read. -/
lemma reads_number {s} (h : IsNumber s) : Reads V d s := by
  obtain ⟨r, numeral, read | read⟩ := lex_number (d := d) h
  · exact ⟨_, read, by simpa [Token.Within] using numeral⟩
  · exact ⟨_, read, by simpa [Token.Within, signs] using numeral⟩

/-- A function name is read as one word. -/
lemma scan_functionName {s} (h : IsFunctionName s) :
    scan d .neutral s = ([], .word s.reverse) := by
  obtain ⟨c, r, rfl, first, rest⟩ := h
  have start : isWordStart c = true := by
    rcases first with upper | rfl
    · simp [isWordStart, isAlpha_iff.2 (.inl upper)]
    · rfl
  have chars : ∀ a ∈ r, isWordChar a = true := by
    intro a mem
    rcases rest a mem with upper | digit | rfl
    · simp [isWordChar, isWordStart, isAlpha_iff.2 (.inl upper)]
    · simp [isWordChar, digit]
    · rfl
  rw [scan, step, start_word start, scan_word _ chars]
  simp

/-- A dialect is one of the three. -/
lemma Dialect.mem_all (d : Dialect) : d ∈ [Dialect.postgres, .mysql, .sqlite] := by
  cases d <;> decide

/-- The truth values are read in every dialect. -/
lemma truth_read : ∀ d ∈ [Dialect.postgres, .mysql, .sqlite], ∀ b ∈ [true, false],
    (d.truth b).toList ≠ [] ∧
      ((lex d (d.truth b).toList).any fun toks => toks.all isTemplateToken) = true := by
  decide +kernel

/-- A piece of a vocabulary is read by itself. -/
lemma Piece.Within.reads {p : Piece} (h : p.Within V) : Reads V d (p.spelling d) := by
  cases p with
  | fixed s =>
    obtain ⟨-, read⟩ := templates_read s h d d.mem_all
    exact reads_template read
  | name s =>
    refine reads_single (scan_quoteName d s) rfl rfl (.inl ⟨rfl, ?_⟩)
    rw [List.reverse_reverse, String.ofList_toList]
    exact h
  | string s =>
    refine reads_single (scan_quoteString d s) rfl rfl (.inr ⟨rfl, ?_⟩)
    rw [List.reverse_reverse, String.ofList_toList]
    exact h
  | truth b => exact reads_template (truth_read d d.mem_all b (by cases b <;> decide)).2
  | number s => exact reads_number h
  | function s =>
    obtain ⟨known, name⟩ := h
    refine reads_single (scan_functionName name) rfl rfl (.inr ?_)
    rw [List.reverse_reverse, spelling, String.ofList_toList]
    exact ⟨known, name⟩
  | expression s => exact h.elim

/-- A piece of a vocabulary is not empty. -/
lemma Piece.Within.spelling_ne_nil {p : Piece} (h : p.Within V) : p.spelling d ≠ [] := by
  cases p with
  | fixed s => exact (templates_read s h d d.mem_all).1
  | name s => exact List.cons_ne_nil _ _
  | string s => exact List.cons_ne_nil _ _
  | truth b => exact (truth_read d d.mem_all b (by cases b <;> decide)).1
  | number s =>
    intro none
    rw [spelling] at none
    rw [Within, none] at h
    nomatch h
  | function s =>
    obtain ⟨-, c, r, name, -⟩ := h
    rw [spelling, name]
    exact List.cons_ne_nil c r
  | expression s => exact h.elim

/-- What follows a piece that does not run on completes it. -/
lemma Piece.Joins.settles {p r : Piece} (hp : p.Within V) (h : p.Joins r) :
    ∀ c ∈ (r.spelling d).head?, Settles d (scan d .neutral (p.spelling d)).2 c := by
  intro c mem
  rcases h with ends | starts | ⟨⟨s, rfl⟩, rfl⟩
  · cases p with
    | fixed s =>
      rw [spelling, scan_endsApart s ends d d.mem_all]
      exact .neutral
    | _ => exact ends.elim
  · cases r with
    | fixed s =>
      obtain ⟨toks, read, -⟩ := hp.reads (d := d)
      obtain ⟨c', first, sep⟩ := Option.any_eq_true _ _ |>.1 (head?_startsApart s starts)
      rw [spelling, first] at mem
      cases mem
      exact .separator (rest_of_lex read) (by simpa using sep)
    | _ => exact starts.elim
  · cases mem
    rw [spelling, scan_quoteName]
    exact .closed (by cases d <;> decide)

/-- The tokens of a piece. -/
def Piece.tokens (d : Dialect) (p : Piece) : List Token :=
  (lex d (p.spelling d)).getD []

/-- The tokens of the pieces of a phrase. -/
def Sql.tokens (d : Dialect) (q : Sql) : List Token :=
  q.flatMap (Piece.tokens d)

/-- A piece of a vocabulary is read to its end. -/
lemma Piece.Within.lex {p : Piece} (h : p.Within V) : lex d (p.spelling d) = some (p.tokens d) := by
  obtain ⟨toks, read, -⟩ := h.reads (d := d)
  rw [tokens, read, Option.getD_some]

/-- A phrase that fits a vocabulary is read piece by piece. -/
lemma Sql.Fits.lex {q : Sql} (h : q.Fits V) : lex d (q.spelling d) = some (q.tokens d) := by
  obtain ⟨within, joins⟩ := h
  induction q with
  | nil => rfl
  | cons p rest ih =>
    obtain ⟨now, later⟩ := List.forall_mem_cons.1 within
    -- the first character after `p` is that of the next piece, which is not empty
    have settles : ∀ c ∈ (Sql.spelling d rest).head?,
        Settles d (scan d .neutral (p.spelling d)).2 c := by
      cases rest with
      | nil => simp [Sql.spelling]
      | cons r rest =>
        obtain ⟨next, -⟩ := List.forall_mem_cons.1 later
        obtain ⟨join, -⟩ := List.isChain_cons_cons.1 joins
        rw [Sql.spelling, List.flatMap_cons, List.head?_append_of_ne_nil _ next.spelling_ne_nil]
        exact join.settles now
    have whole := lex_append now.lex settles
    rwa [ih later joins.tail] at whole

/-- The text of a phrase that fits a vocabulary is read as its tokens. -/
lemma Sql.Fits.lex_text {q : Sql} (h : q.Fits V) :
    Lexer.lex d (q.text d).toList = some (q.tokens d) := by
  rw [text, String.toList_ofList, h.lex]

/-- A phrase that fits a vocabulary is read to its end, with tokens of the vocabulary only. -/
lemma Sql.Fits.reads {q : Sql} (h : q.Fits V) : Reads V d (q.spelling d) := by
  refine ⟨q.tokens d, h.lex, fun t mem => ?_⟩
  obtain ⟨p, listed, mem⟩ := List.mem_flatMap.1 mem
  obtain ⟨toks, read, fine⟩ := (h.within p listed).reads (d := d)
  rw [Piece.tokens, read] at mem
  exact fine t mem

end Reading

namespace Sql

/-- A single phrase has no separator. -/
@[simp]
lemma separated_one {sep : String} {q : Sql} : separated sep [q] = q := by
  simp [separated]

/-- A separator stands between a phrase and the next. -/
@[simp]
lemma separated_cons_cons {sep : String} {q r : Sql} {qs : List Sql} :
    separated sep (q :: r :: qs) = q ++ .fixed sep :: separated sep (r :: qs) := by
  simp [separated]

/-- What goes from two phrases to both with a separator between goes from any number of phrases. -/
lemma separated_of {P : Sql → Prop} {sep : String} {qs : List Sql} (nil : P [])
    (join : ∀ {q r}, P q → P r → P (q ++ .fixed sep :: r)) (h : ∀ q ∈ qs, P q) :
    P (separated sep qs) := by
  induction qs with
  | nil => exact nil
  | cons q qs ih =>
    obtain ⟨now, later⟩ := List.forall_mem_cons.1 h
    cases qs with
    | nil => rwa [separated_one]
    | cons r qs =>
      rw [separated_cons_cons]
      exact join now (ih later)

/-- A piece between separators comes from one of the phrases. -/
lemma mem_separated {p : Piece} {sep : String} {qs : List Sql} (h : p ∈ separated sep qs) :
    p = .fixed sep ∨ ∃ q ∈ qs, p ∈ q := by
  induction qs with
  | nil => cases h
  | cons q qs ih =>
    cases qs with
    | nil =>
      rw [separated_one] at h
      exact .inr ⟨q, List.mem_cons_self, h⟩
    | cons r qs =>
      rw [separated_cons_cons, List.mem_append, List.mem_cons] at h
      rcases h with now | same | later
      · exact .inr ⟨q, List.mem_cons_self, now⟩
      · exact .inl same
      · exact (ih later).imp_right fun ⟨q', mem, inside⟩ => ⟨q', List.mem_cons_of_mem q mem, inside⟩

/-- The first of some phrases with separators between comes first. -/
lemma prefix_separated {sep : String} {q : Sql} {qs : List Sql} :
    q <+: separated sep (q :: qs) := by
  cases qs with
  | nil => exact separated_one ▸ List.prefix_rfl
  | cons r qs => exact separated_cons_cons ▸ List.prefix_append _ _

/-- The text of a name: its parts with dots between. -/
lemma spelling_dotted {d : Dialect} (column : String) : ∃ n ns, Text.split '.' column = n :: ns ∧
    (dotted column).spelling d =
      d.quoteName n ++ ns.flatMap fun m => '.' :: d.quoteName m := by
  have parts (n : String) (ns : List String) :
      (separated "." ((n :: ns).map fun part => [.name part])).spelling d =
        d.quoteName n ++ ns.flatMap fun m => '.' :: d.quoteName m := by
    induction ns generalizing n with
    | nil => simp [spelling, Piece.spelling]
    | cons m ns ih =>
      have later := ih m
      rw [List.map_cons] at later
      rw [List.map_cons, List.map_cons, separated_cons_cons, spelling_append]
      show d.quoteName n ++ [] ++ '.' :: spelling d _ = _
      rw [later, List.append_nil]
      rfl
  cases e : Text.split '.' column with
  | nil => simp [Text.split, Text.splitAtChar_ne_nil] at e
  | cons n ns => exact ⟨n, ns, rfl, by rw [dotted, e, parts]⟩

section Fits
variable {V : Vocabulary}

/-- The empty phrase fits every vocabulary. -/
@[simp]
lemma Fits.nil : Fits V [] := ⟨by simp, .nil⟩

/-- A part of a phrase that fits does so too. -/
lemma Fits.of_part {q r : Sql} (h : Fits V r) (part : q <:+: r) : Fits V q :=
  ⟨fun p mem => h.within p (part.subset mem), h.joins.infix part⟩

/-- A piece of the vocabulary is a phrase by itself. -/
@[simp]
lemma fits_one {p : Piece} : Fits V [p] ↔ p.Within V := by
  constructor
  · intro h
    exact h.within p (List.mem_singleton_self p)
  · intro h
    exact ⟨by simpa using h, .singleton p⟩

/-- A piece may be put before one that it does not run on into. -/
lemma fits_cons_cons {p r : Piece} {q : Sql} :
    Fits V (p :: r :: q) ↔ p.Within V ∧ p.Joins r ∧ Fits V (r :: q) := by
  constructor
  · rintro ⟨within, joins⟩
    obtain ⟨now, later⟩ := List.forall_mem_cons.1 within
    obtain ⟨join, rest⟩ := List.isChain_cons_cons.1 joins
    exact ⟨now, join, later, rest⟩
  · rintro ⟨now, join, later, rest⟩
    exact ⟨List.forall_mem_cons.2 ⟨now, later⟩, List.isChain_cons_cons.2 ⟨join, rest⟩⟩

/-- A piece that ends apart may be put before any phrase. -/
@[simp]
lemma fits_cons_apart {p : Piece} {q : Sql} (ends : p.EndsApart) :
    Fits V (p :: q) ↔ p.Within V ∧ Fits V q := by
  cases q with
  | nil => simp
  | cons r q => simp [fits_cons_cons, Piece.Joins, ends]

/-- A piece may be put before one that starts apart. -/
@[simp]
lemma fits_cons_starts {p r : Piece} {q : Sql} (starts : r.StartsApart) :
    Fits V (p :: r :: q) ↔ p.Within V ∧ Fits V (r :: q) := by
  simp [fits_cons_cons, Piece.Joins, starts]

/-- A name may be put before a dot. -/
@[simp]
lemma fits_name_dot {s : String} {q : Sql} :
    Fits V (.name s :: .fixed "." :: q) ↔ V.name s ∧ Fits V q := by
  have join : (Piece.name s).Joins (.fixed ".") := .inr (.inr ⟨⟨s, rfl⟩, rfl⟩)
  rw [fits_cons_cons, fits_cons_apart (by simp)]
  simp [join]

/-- Phrases may be put together if the second one runs on from nothing. -/
lemma Fits.append {q r : Sql} (hq : Fits V q) (hr : Fits V r) (leads : r.Leads) :
    Fits V (q ++ r) := by
  refine ⟨List.forall_mem_append.2 ⟨hq.within, hr.within⟩, ?_⟩
  exact List.isChain_append.2 ⟨hq.joins, hr.joins, fun p _ r mem => .inr (.inl (leads r mem))⟩

/-- Phrases in a row run on from nothing before them if each does not. -/
lemma Leads.append {q r : Sql} (hq : q.Leads) (hr : r.Leads) : Leads (q ++ r) := by
  cases q with
  | nil => exact hr
  | cons p q => exact hq

/-- Phrases in a row run on from nothing if each of them does. -/
lemma Leads.flatMap {α : Type} {l : List α} {f : α → Sql} (leads : ∀ a, (f a).Leads) :
    Leads (l.flatMap f) := by
  induction l with
  | nil => simp [Leads]
  | cons a l ih => exact (leads a).append ih

/-- Phrases in a row fit if each of them does and runs on from nothing. -/
lemma Fits.flatMap {α : Type} {l : List α} {f : α → Sql} (h : ∀ a ∈ l, Fits V (f a))
    (leads : ∀ a, (f a).Leads) : Fits V (l.flatMap f) := by
  induction l with
  | nil => exact .nil
  | cons a l ih =>
    obtain ⟨now, later⟩ := List.forall_mem_cons.1 h
    exact now.append (ih later) (.flatMap leads)

/-- A piece that starts apart may stand between phrases. -/
@[simp]
lemma fits_append_apart {p : Piece} {q r : Sql} (starts : p.StartsApart) :
    Fits V (q ++ p :: r) ↔ Fits V q ∧ Fits V (p :: r) := by
  constructor
  · rintro ⟨within, joins⟩
    obtain ⟨first, second⟩ := List.forall_mem_append.1 within
    obtain ⟨joins, joins', -⟩ := List.isChain_append.1 joins
    exact ⟨⟨first, joins⟩, second, joins'⟩
  · rintro ⟨first, second⟩
    refine first.append second ?_
    rintro _ ⟨⟩
    exact starts

/-- Phrases with a separator between fit if each of them does. -/
lemma Fits.separated {sep : String} {qs : List Sql} (known : sep ∈ separating)
    (h : ∀ q ∈ qs, Fits V q) : Fits V (Sql.separated sep qs) := by
  have starts : (Piece.fixed sep).StartsApart := List.mem_append_left _ known
  have ends : (Piece.fixed sep).EndsApart := List.mem_append_left _ known
  have within : (Piece.fixed sep).Within V :=
    List.mem_append_left _ (List.mem_append_left _ (List.mem_append_left _ known))
  refine separated_of .nil (fun hq hr => ?_) h
  rw [fits_append_apart starts, fits_cons_apart ends]
  exact ⟨hq, within, hr⟩

/-- Phrases with commas between fit if each of them does. -/
lemma Fits.commas {qs : List Sql} (h : ∀ q ∈ qs, Fits V q) : Fits V (Sql.commas qs) :=
  .separated (by simp) h

/-- A dotted name fits if its parts do. -/
lemma Fits.dotted {column : String} (h : ∀ part ∈ Text.split '.' column, V.name part) :
    Fits V (Sql.dotted column) := by
  have parts {ns : List String} (h : ∀ n ∈ ns, V.name n) :
      Fits V (Sql.separated "." (ns.map fun n => [.name n])) := by
    induction ns with
    | nil => exact .nil
    | cons n ns ih =>
      obtain ⟨now, later⟩ := List.forall_mem_cons.1 h
      cases ns with
      | nil => simpa using now
      | cons n' ns =>
        rw [List.map_cons, List.map_cons, separated_cons_cons, List.singleton_append, fits_name_dot]
        exact ⟨now, ih later⟩
  exact parts h

end Fits

end Sql

end QueryRecipe
