import QueryRecipe.Proofs.Lexer.Scope
import QueryRecipe.Proofs.Sql.Phrase

/-!
# Qualifiers and aliases of phrases

Which tables a phrase refers to and which it brings in, told from its pieces. Dots stand only in the
templates of qualified columns and between the parts of a dotted name, and the word `AS` only before an
alias; so what a dialect reads in the text of a phrase that fits a vocabulary follows from its pieces
(`Sql.Scoped.tokens`, `Sql.Binds.aliases`).
-/

namespace QueryRecipe

open Lexer

/-- Whether a dot stands in the spelling of a piece, outside quotes and numbers. -/
@[simp]
def Piece.HasDot (p : Piece) : Prop :=
  p ∈ [fixed ".", fixed "t.", fixed "t.*"]

/-- Whether a piece may bring in an alias. A function may have any word as its name. -/
@[simp]
def Piece.MayBind : Piece → Prop
  | .fixed s => s ∈ [" AS ", " AS t", ") AS t0"]
  | .function _ => True
  | _ => False

/-- Phrases that refer to tables by names with a property only. -/
inductive Sql.Scoped (P : String → Prop) : Sql → Prop where
  | nil :
    Scoped P []
  | cons {p q} :
    ¬ p.HasDot →
    Scoped P q →
    Scoped P (p :: q)
  | star {q} :
    P "t" →
    Scoped P q →
    Scoped P (.fixed "t.*" :: q)
  | own {x q} :
    P "t" →
    Scoped P q →
    Scoped P (.fixed "t." :: .name x :: q)
  | dotted {n ns q} :
    (ns ≠ [] → P n) →
    Scoped P q →
    Scoped P (separated "." ((n :: ns).map fun n => [.name n]) ++ q)

/-- Phrases that bring in these aliases. -/
inductive Sql.Binds : Sql → List String → Prop where
  | nil :
    Binds [] []
  | cons {p q names} :
    ¬ p.MayBind →
    Binds q names →
    Binds (p :: q) names
  | source {q names} :
    Binds q names →
    Binds (.fixed " AS t" :: q) ("t" :: names)
  | label {x q names} :
    Binds q names →
    Binds (.fixed " AS " :: .name x :: q) (x :: names)

section Tokens
variable {V : Vocabulary} {P : String → Prop} {d : Dialect}

/-- A name is read as a quoted name. -/
@[simp]
lemma Piece.tokens_name {s} : (name s).tokens d = [.quoted (nameQuote d) s.toList] := by
  rw [tokens, lex, spelling, scan_quoteName]
  simp [Mode.isOpen, Mode.flush]

/-- The templates without a dot are read without one, and those without an alias without the word. -/
lemma templates_plain : ∀ s ∈ templates, ∀ d ∈ [Dialect.postgres, .mysql, .sqlite],
    (s ∉ [".", "t.", "t.*"] → dot ∉ (Piece.fixed s).tokens d) ∧
      (s ∉ [" AS ", " AS t", ") AS t0"] → wordAs ∉ (Piece.fixed s).tokens d) := by
  decide +kernel

/-- The truth values are words other than `AS`. -/
lemma truth_plain : ∀ d ∈ [Dialect.postgres, .mysql, .sqlite], ∀ b ∈ [true, false],
    dot ∉ (Piece.truth b).tokens d ∧ wordAs ∉ (Piece.truth b).tokens d := by
  decide +kernel

/-- A number is read as its digits, behind the minus sign if it has one. -/
lemma tokens_number {s} (h : IsNumber s.toList) : ∃ r, (Piece.number s).tokens d = [.number r] ∨
    (Piece.number s).tokens d = [.symbol '-', .number r] := by
  obtain ⟨r, -, read | read⟩ := lex_number (d := d) h
  all_goals exact ⟨r, by simp [Piece.tokens, Piece.spelling, read]⟩

/-- A string is read as a quoted string. -/
lemma tokens_string {s} : (Piece.string s).tokens d = [.quoted .single s.toList] := by
  rw [Piece.tokens, lex, Piece.spelling, scan_quoteString]
  simp [Mode.isOpen, Mode.flush]

/-- A function is read as a word. -/
lemma tokens_function {s} (h : IsFunctionName s.toList) :
    (Piece.function s).tokens d = [.word s.toList] := by
  rw [Piece.tokens, lex, Piece.spelling, scan_functionName h]
  simp [Mode.isOpen, Mode.flush]

/-- No dot is read in a piece without one. -/
lemma Piece.Within.dot_not_mem {p : Piece} (h : p.Within V) (plain : ¬ p.HasDot) :
    dot ∉ p.tokens d := by
  cases p with
  | fixed s => exact (templates_plain s h d d.mem_all).1 (by simpa [HasDot] using plain)
  | name s => simp
  | string s => simp [tokens_string]
  | truth b => exact (truth_plain d d.mem_all b (by cases b <;> decide)).1
  | number s =>
    obtain ⟨r, read | read⟩ := tokens_number (d := d) h
    all_goals simp [read]
  | function s => simp [tokens_function h.2]
  | expression s => exact h.elim

/-- No alias is read in a piece without one. -/
lemma Piece.Within.wordAs_not_mem {p : Piece} (h : p.Within V) (plain : ¬ p.MayBind) :
    wordAs ∉ p.tokens d := by
  cases p with
  | fixed s => exact (templates_plain s h d d.mem_all).2 plain
  | name s => simp
  | string s => simp [tokens_string]
  | truth b => exact (truth_plain d d.mem_all b (by cases b <;> decide)).2
  | number s =>
    obtain ⟨r, read | read⟩ := tokens_number (d := d) h
    all_goals simp [read]
  | function s => exact absurd trivial plain
  | expression s => exact h.elim

/-- The parts of a dotted name after the first are a path. -/
lemma path_tokens {ns : List String} :
    Path (ns.flatMap fun n => dot :: (Piece.name n).tokens d) := by
  induction ns with
  | nil => exact .nil
  | cons n ns ih =>
    rw [List.flatMap_cons, Piece.tokens_name]
    exact .cons (by simp) ih

namespace Sql

/-- The empty phrase has no tokens. -/
lemma tokens_nil : Sql.tokens d [] = [] := rfl

/-- The tokens of a piece come before those of what follows it. -/
lemma tokens_cons {p : Piece} {q : Sql} : Sql.tokens d (p :: q) = p.tokens d ++ Sql.tokens d q :=
  List.flatMap_cons

/-- Phrases in a row are read one after the other. -/
lemma tokens_append {p q : Sql} :
    Sql.tokens d (p ++ q) = Sql.tokens d p ++ Sql.tokens d q :=
  List.flatMap_append

/-- The tokens of a dotted name: its first part and then each other part behind a dot. -/
lemma tokens_parts {n : String} {ns : List String} :
    Sql.tokens d (separated "." ((n :: ns).map fun n => [.name n])) =
      .quoted (nameQuote d) n.toList :: ns.flatMap fun n => dot :: (Piece.name n).tokens d := by
  have point : (Piece.fixed ".").tokens d = [dot] := by cases d <;> decide +kernel
  induction ns generalizing n with
  | nil => simp [Sql.tokens]
  | cons m ns ih =>
    have later := ih (n := m)
    rw [List.map_cons] at later
    rw [List.map_cons, List.map_cons, separated_cons_cons, List.singleton_append, tokens_cons,
      tokens_cons, later, point]
    simp

/-- The qualifiers that a dialect reads in a phrase are those of its pieces. -/
lemma Scoped.tokens {q : Sql} (h : q.Scoped P) (within : ∀ p ∈ q, p.Within V) :
    Lexer.Scoped P (q.tokens d) := by
  have star : (Piece.fixed "t.*").tokens d = [.word ['t'], dot, .symbol '*'] := by
    cases d <;> decide +kernel
  have own : (Piece.fixed "t.").tokens d = [.word ['t'], dot] := by cases d <;> decide +kernel
  induction h with
  | nil => exact .nil
  | cons plain _ ih =>
    obtain ⟨now, later⟩ := List.forall_mem_cons.1 within
    exact (Lexer.Scoped.of_plain (now.dot_not_mem plain)).append (ih later)
  | star table _ ih =>
    rw [tokens_cons, star]
    show Lexer.Scoped P (.word ['t'] :: [dot, .symbol '*'] ++ _)
    refine .path ?_ (by simp) (.cons (by simp) .nil) (ih (List.forall_mem_cons.1 within).2)
    simpa [Token.name?] using table
  | @own x q table _ ih =>
    obtain ⟨-, later⟩ := List.forall_mem_cons.1 within
    rw [tokens_cons, tokens_cons, own, Piece.tokens_name]
    show Lexer.Scoped P (.word ['t'] :: [dot, .quoted _ x.toList] ++ _)
    refine .path ?_ (by simp) (.cons (by simp) .nil) (ih (List.forall_mem_cons.1 later).2)
    simpa [Token.name?] using table
  | @dotted n ns q known _ ih =>
    rw [tokens_append, tokens_parts]
    have rest := ih (List.forall_mem_append.1 within).2
    cases ns with
    | nil => exact .cons (by simp) rest
    | cons m ns =>
      refine .path ?_ (by simp) path_tokens rest
      simpa [Token.name?] using known (List.cons_ne_nil m ns)

/-- The aliases that a dialect reads in a phrase are those that its pieces bring in. -/
lemma Binds.aliases {q : Sql} {names} (h : q.Binds names) (within : ∀ p ∈ q, p.Within V) :
    Lexer.aliases (q.tokens d) = names := by
  have source : (Piece.fixed " AS t").tokens d = [wordAs, .word ['t']] := by
    cases d <;> decide +kernel
  have label : (Piece.fixed " AS ").tokens d = [wordAs] := by cases d <;> decide +kernel
  induction h with
  | nil => rfl
  | cons plain _ ih =>
    obtain ⟨now, later⟩ := List.forall_mem_cons.1 within
    have none := now.wordAs_not_mem (d := d) plain
    rw [tokens_cons, aliases_append fun last => none (List.mem_of_getLast? last),
      aliases_plain none, ih later, List.nil_append]
  | source _ ih =>
    rw [tokens_cons, source]
    simp [Lexer.aliases, Token.name?, ih (List.forall_mem_cons.1 within).2]
  | label _ ih =>
    obtain ⟨-, later⟩ := List.forall_mem_cons.1 within
    rw [tokens_cons, tokens_cons, label]
    simp [Lexer.aliases, Token.name?, ih (List.forall_mem_cons.1 later).2]

end Sql

end Tokens

namespace Sql

section Scoped
variable {P : String → Prop}

/-- Scoped phrases in a row are scoped. -/
lemma Scoped.append {p q : Sql} (hp : Scoped P p) (hq : Scoped P q) : Scoped P (p ++ q) := by
  induction hp with
  | nil => exact hq
  | cons plain _ ih => exact .cons plain ih
  | star table _ ih => exact .star table ih
  | own table _ ih => exact .own table ih
  | dotted known _ ih =>
    rw [List.append_assoc]
    exact .dotted known ih

/-- A piece without a dot refers to nothing. -/
lemma Scoped.one {p : Piece} (plain : ¬ p.HasDot) : Scoped P [p] :=
  .cons plain .nil

end Scoped

section Binds

/-- Phrases in a row bring in the aliases of one after the other. -/
lemma Binds.append {p q : Sql} {ns ms} (hp : p.Binds ns) (hq : q.Binds ms) :
    (p ++ q).Binds (ns ++ ms) := by
  induction hp with
  | nil => exact hq
  | cons plain _ ih => exact .cons plain ih
  | source _ ih => exact .source ih
  | label _ ih => exact .label ih

/-- Pieces that bring in nothing. -/
lemma Binds.of_plain {q : Sql} (h : ∀ p ∈ q, ¬ p.MayBind) : q.Binds [] := by
  induction q with
  | nil => exact .nil
  | cons p q ih =>
    obtain ⟨now, later⟩ := List.forall_mem_cons.1 h
    exact .cons now (ih later)

/-- Phrases that bring in nothing, with a separator between. -/
lemma Binds.separated {sep : String} {qs : List Sql} (plain : ¬ (Piece.fixed sep).MayBind)
    (h : ∀ q ∈ qs, q.Binds []) : (Sql.separated sep qs).Binds [] :=
  separated_of .nil (fun hq hr => hq.append (.cons plain hr)) h

end Binds

end Sql

end QueryRecipe
