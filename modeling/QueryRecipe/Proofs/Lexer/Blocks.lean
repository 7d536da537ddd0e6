import QueryRecipe.Proofs.Lexer.Nesting

/-!
# Connectives outside blocks

Parentheses and case distinctions enclose blocks of tokens. Tokens are parted at the separators that
stand in no block (`part`): they are read from left to right with the ends of the blocks that are open,
the innermost first. In tokens whose blocks match no separator stands outside them if they are `Blocked`;
such tokens belong to one part with what follows them (`part_append`), so a list of parts is found again
from the separators between (`part_flatMap`).
-/

namespace QueryRecipe.Lexer

/-- The word that begins a case distinction. -/
def wordCase : Token :=
  .word "CASE".toList

/-- The word that ends a case distinction. -/
def wordEnd : Token :=
  .word "END".toList

/-- The word between conditions that have to hold together. -/
def wordAnd : Token :=
  .word "AND".toList

/-- The word between conditions of which one has to hold. -/
def wordOr : Token :=
  .word "OR".toList

/-- The word before the conditions on the rows. -/
def wordWhere : Token :=
  .word "WHERE".toList

/-- The words between conditions. -/
def connectives : List Token :=
  [wordAnd, wordOr]

/-- The end of the block that a token begins. -/
def Token.blockEnd? (t : Token) : Option Token :=
  if t = .symbol '(' then some (.symbol ')') else if t = wordCase then some wordEnd else none

/-- The ends of blocks. -/
def blockEnds : List Token :=
  [.symbol ')', wordEnd]

/-- Whether a token neither begins a block nor ends one. -/
def Token.IsPlain (t : Token) : Prop :=
  t.blockEnd? = none ∧ t ∉ blockEnds

instance (t : Token) : Decidable t.IsPlain :=
  inferInstanceAs (Decidable (_ ∧ _))

/-- The ends of the blocks that are open after a token, the innermost first. -/
def Token.track (ends : List Token) (t : Token) : List Token :=
  match t.blockEnd? with
  | some e => e :: ends
  | none => if ends.head? = some t then ends.tail else ends

/-- Tokens that are parted: those before the first separator, and each separator with those behind it. -/
structure Parted where
  first : List Token
  others : List (Token × List Token)
  deriving DecidableEq, Repr

namespace Parted

/-- The parts. -/
def parts (p : Parted) : List (List Token) :=
  p.first :: p.others.map (·.2)

/-- The separators between the parts. -/
def separators (p : Parted) : List Token :=
  p.others.map (·.1)

/-- With tokens before the first part. -/
def after (toks : List Token) (p : Parted) : Parted :=
  ⟨toks ++ p.first, p.others⟩

end Parted

/-- The parts between the separators outside blocks, when blocks with these ends are open at the
start. -/
def part (seps : List Token) : List Token → List Token → Parted
  | _, [] => ⟨[], []⟩
  | ends, t :: rest =>
    if ends = [] ∧ t ∈ seps then
      let p := part seps [] rest
      ⟨[], (t, p.first) :: p.others⟩
    else
      (part seps (t.track ends) rest).after [t]

/-- Tokens with matching blocks and without any of the separators outside them. -/
inductive Blocked : List Token → List Token → Prop where
  | nil {seps} :
    Blocked seps []
  | cons {seps t rest} :
    t.IsPlain →
    t ∉ seps →
    Blocked seps rest →
    Blocked seps (t :: rest)
  | block {seps t e inside rest} :
    t.blockEnd? = some e →
    t ∉ seps →
    Blocked [] inside →
    Blocked seps rest →
    Blocked seps (t :: inside ++ e :: rest)

/-- The end of a block is one of the two. -/
lemma mem_blockEnds {t e : Token} (h : t.blockEnd? = some e) : e ∈ blockEnds := by
  rw [Token.blockEnd?] at h
  split at h
  · cases h
    decide
  · split at h
    · cases h
      decide
    · cases h

/-- The end of a block begins none. -/
lemma blockEnd?_end {e : Token} (h : e ∈ blockEnds) : e.blockEnd? = none := by
  simp only [blockEnds, List.mem_cons, List.not_mem_nil, or_false] at h
  rcases h with rfl | rfl <;> decide

section Parted
variable {p : Parted} {xs ys : List Token}

/-- Tokens are put before the first part one list after the other. -/
lemma after_after : (p.after ys).after xs = p.after (xs ++ ys) := by
  simp [Parted.after]

end Parted

section Blocked
variable {seps seps' xs ys ends : List Token} {t e : Token}

/-- Blocked tokens in a row are blocked. -/
lemma Blocked.append (hx : Blocked seps xs) (hy : Blocked seps ys) : Blocked seps (xs ++ ys) := by
  induction hx with
  | nil => exact hy
  | cons plain none _ ih => exact .cons plain none (ih hy)
  | block begins none inside _ _ ih =>
    rw [List.append_assoc]
    exact .block begins none inside (ih hy)

/-- Within a block there may be any separators. -/
lemma Blocked.weaken (h : Blocked seps xs) (fewer : seps' ⊆ seps) : Blocked seps' xs := by
  induction h with
  | nil => exact .nil
  | cons plain none _ ih => exact .cons plain (fun mem => none (fewer mem)) (ih fewer)
  | block begins none inside _ _ ih =>
    exact .block begins (fun mem => none (fewer mem)) inside (ih fewer)

/-- Tokens without blocks are blocked if no separator is among them. -/
lemma Blocked.of_plain (h : ∀ t ∈ xs, t.IsPlain ∧ t ∉ seps) : Blocked seps xs := by
  induction xs with
  | nil => exact .nil
  | cons t xs ih =>
    obtain ⟨now, later⟩ := List.forall_mem_cons.1 h
    exact .cons now.1 now.2 (ih later)

/-- A block by itself is blocked. -/
lemma Blocked.enclosed (begins : t.blockEnd? = some e) (none : t ∉ seps) (h : Blocked [] xs) :
    Blocked seps (t :: xs ++ [e]) :=
  .block begins none h .nil

/-- A word with arguments behind it, and what follows them. -/
lemma Blocked.call (plain : t.IsPlain ∧ t ∉ connectives) (hx : Blocked connectives xs)
    (hy : Blocked connectives ys) :
    Blocked connectives (t :: .symbol '(' :: xs ++ .symbol ')' :: ys) :=
  .cons plain.1 plain.2 (.block rfl (by decide) (hx.weaken (List.nil_subset _)) hy)

/-- A plain token is no parenthesis. -/
lemma shift_plain (h : t.IsPlain) : t.shift = 1 := by
  obtain ⟨begins, ends⟩ := h
  have opens : t ≠ .symbol '(' := by
    rintro rfl
    exact absurd begins (by decide)
  have closes : t ≠ .symbol ')' := by
    rintro rfl
    exact absurd ends (by decide)
  rw [Token.shift, if_neg opens, if_neg closes]

/-- The two ends of a block match. -/
lemma shift_block (h : t.blockEnd? = some e) : t.shift * e.shift = 1 := by
  rw [Token.blockEnd?] at h
  split at h
  next opens =>
    cases h
    rw [opens]
    decide
  next =>
    split at h
    next begins =>
      cases h
      rw [begins]
      decide
    next => cases h

/-- The parentheses of such tokens match. -/
lemma Blocked.shift (h : Blocked seps xs) : Lexer.shift xs = 1 := by
  induction h with
  | nil => rfl
  | cons plain _ _ ih => rw [shift_cons, shift_plain plain, ih, one_mul]
  | block begins _ _ _ inside ih =>
    rw [shift_append, shift_cons, shift_cons, inside, ih, mul_one, mul_one, shift_block begins]

/-- A plain token leaves the open blocks open. -/
lemma track_plain (plain : t.IsPlain) (open' : ∀ e ∈ ends, e ∈ blockEnds) : t.track ends = ends := by
  rw [Token.track, plain.1]
  refine if_neg fun same => plain.2 ?_
  exact open' t (List.mem_of_head? same)

/-- A token that begins a block leaves its end open. -/
lemma track_begin (begins : t.blockEnd? = some e) : t.track ends = e :: ends := by
  rw [Token.track, begins]

/-- The end of the innermost block closes it. -/
lemma track_end (mem : e ∈ blockEnds) : e.track (e :: ends) = ends := by
  rw [Token.track, blockEnd?_end mem]
  exact if_pos rfl

/-- Within a block every token belongs to the part. -/
lemma part_nested (ne : ends ≠ []) : part seps ends (t :: xs) =
    (part seps (t.track ends) xs).after [t] := by
  rw [part, if_neg fun h => ne h.1]

/-- A token that is no separator belongs to the part. -/
lemma part_other (none : t ∉ seps) : part seps ends (t :: xs) =
    (part seps (t.track ends) xs).after [t] := by
  rw [part, if_neg fun h => none h.2]

/-- What stands in a block belongs to one part with what follows it. -/
lemma part_inside (h : Blocked seps' xs) (ne : ends ≠ []) (open' : ∀ e ∈ ends, e ∈ blockEnds) :
    part seps ends (xs ++ ys) = (part seps ends ys).after xs := by
  induction h generalizing ends ys with
  | nil => rfl
  | cons plain _ _ ih =>
    rw [List.cons_append, part_nested ne, track_plain plain open', ih ne open', after_after]
    rfl
  | @block _ t e inside rest begins _ _ _ ihi ihr =>
    have mem := mem_blockEnds begins
    -- the block is read with its own end before the others, and left with them
    have deeper : ∀ e' ∈ e :: ends, e' ∈ blockEnds := List.forall_mem_cons.2 ⟨mem, open'⟩
    rw [List.cons_append, List.cons_append, part_nested ne, track_begin begins, List.append_assoc,
      ihi (List.cons_ne_nil e ends) deeper, List.cons_append, part_nested (List.cons_ne_nil e ends),
      track_end mem, ihr ne open', after_after, after_after, after_after]
    simp

/-- Blocked tokens belong to one part with what follows them. -/
lemma part_append (h : Blocked seps xs) : part seps [] (xs ++ ys) = (part seps [] ys).after xs := by
  induction h generalizing ys with
  | nil => rfl
  | cons plain none _ ih =>
    rw [List.cons_append, part_other none, track_plain plain (by simp), ih, after_after]
    rfl
  | @block _ t e inside rest begins none h _ _ ih =>
    have mem := mem_blockEnds begins
    rw [List.cons_append, List.cons_append, part_other none, track_begin begins, List.append_assoc,
      part_inside h (List.cons_ne_nil e []) (by simpa using mem), List.cons_append,
      part_nested (List.cons_ne_nil e []), track_end mem, ih, after_after, after_after, after_after]
    simp

/-- Blocked parts are found again when each but the first has a separator before it. -/
lemma part_flatMap {l : List (Token × List Token)} (first : Blocked seps xs)
    (others : ∀ a ∈ l, a.1 ∈ seps ∧ Blocked seps a.2) :
    part seps [] (xs ++ l.flatMap fun a => a.1 :: a.2) = ⟨xs, l⟩ := by
  induction l generalizing xs with
  | nil =>
    rw [part_append first]
    simp [part, Parted.after]
  | cons a l ih =>
    obtain ⟨now, later⟩ := List.forall_mem_cons.1 others
    rw [part_append first, List.flatMap_cons, List.cons_append, part, if_pos ⟨rfl, now.1⟩,
      ih now.2 later]
    simp [Parted.after]

example : (lex .mysql "a = 1 OR (b AND c) OR CASE WHEN d OR e THEN 1 END = 2".toList).map
    (fun toks => ((part connectives [] toks).parts.length, (part connectives [] toks).separators)) =
      some (3, [wordOr, wordOr]) := by
  decide +kernel

end Blocked

end QueryRecipe.Lexer
