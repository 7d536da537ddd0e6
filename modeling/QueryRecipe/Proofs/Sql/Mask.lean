import QueryRecipe.Proofs.Sql.Nesting

/-!
# Strings emptied

Phrases and tokens are compared up to the contents of their strings by emptying all of these. What a
dialect reads in a phrase with its strings emptied is what it reads in the phrase, with the string
tokens emptied (`Sql.tokens_mask`); so two phrases that are the same up to their strings are read with
tokens that are.
-/

namespace QueryRecipe

open Lexer

/-- A token, emptied if it is a string. -/
def Lexer.Token.mask : Token → Token
  | .quoted .single _ => .quoted .single []
  | t => t

/-- A piece, emptied if it is a string. -/
def Piece.mask : Piece → Piece
  | .string _ => .string ""
  | p => p

/-- A phrase with its strings emptied. -/
def Sql.mask (q : Sql) : Sql :=
  q.map Piece.mask

section Mask
variable {V : Vocabulary} {d : Dialect}

/-- Templates stay. -/
@[simp]
lemma Piece.mask_fixed {s} : (fixed s).mask = fixed s := rfl

/-- Names stay. -/
@[simp]
lemma Piece.mask_name {s} : (name s).mask = name s := rfl

/-- Strings are emptied. -/
@[simp]
lemma Piece.mask_string {s} : (string s).mask = string "" := rfl

/-- Screened expressions stay. -/
@[simp]
lemma Piece.mask_expression {s} : (expression s).mask = expression s := rfl

/-- The empty phrase stays. -/
@[simp]
lemma Sql.mask_nil : mask [] = [] := rfl

/-- Pieces are emptied one by one. -/
@[simp]
lemma Sql.mask_cons {p : Piece} {q : Sql} : mask (p :: q) = p.mask :: mask q := rfl

/-- Phrases in a row are emptied one after the other. -/
@[simp]
lemma Sql.mask_append {p q : Sql} : mask (p ++ q) = mask p ++ mask q :=
  List.map_append

/-- Separated phrases are emptied one by one. -/
lemma Sql.mask_separated {sep : String} {qs : List Sql} :
    (separated sep qs).mask = separated sep (qs.map mask) := by
  induction qs with
  | nil => rfl
  | cons q qs ih =>
    cases qs with
    | nil => simp
    | cons r qs =>
      rw [separated_cons_cons, mask_append, mask_cons, ih]
      simp

/-- Separated phrases are the same but for their strings if each of them is. -/
lemma Sql.mask_separated_eq (sep : String) {qs qs' : List Sql} (h : qs.map mask = qs'.map mask) :
    (separated sep qs).mask = (separated sep qs').mask := by
  rw [mask_separated, mask_separated, h]

/-- The parts of a list are written in the same way, up to strings, if each part is. -/
lemma Sql.map_mask_eq {α : Type} {f : α → α} {g : α → Sql} (h : ∀ a, (g (f a)).mask = (g a).mask)
    (l : List α) : ((l.map f).map g).map mask = (l.map g).map mask := by
  rw [List.map_map, List.map_map, List.map_map]
  exact List.map_congr_left fun a _ => h a

/-- No template is read as a string, and no truth value. -/
lemma templates_mask : ∀ d ∈ [Dialect.postgres, .mysql, .sqlite],
    (∀ s ∈ templates, ((Piece.fixed s).tokens d).map Token.mask = (Piece.fixed s).tokens d) ∧
      ∀ b ∈ [true, false], ((Piece.truth b).tokens d).map Token.mask = (Piece.truth b).tokens d := by
  decide +kernel

/-- An emptied piece is read as the piece with its strings emptied. -/
lemma Piece.Within.tokens_mask {p : Piece} (h : p.Within V) :
    p.mask.tokens d = (p.tokens d).map Token.mask := by
  cases p with
  | fixed s => exact ((templates_mask d d.mem_all).1 s h).symm
  | name s => cases d <;> simp [Token.mask, nameQuote]
  | string s => simp [Piece.mask, tokens_string, Token.mask]
  | truth b => exact ((templates_mask d d.mem_all).2 b (by cases b <;> decide)).symm
  | number s =>
    obtain ⟨r, read | read⟩ := tokens_number (d := d) h
    all_goals simp [Piece.mask, read, Token.mask]
  | function s => simp [Piece.mask, tokens_function h.2, Token.mask]
  | expression s => exact h.elim

/-- An emptied phrase is read as the tokens of the phrase, emptied. -/
lemma Sql.tokens_mask {q : Sql} (within : ∀ p ∈ q, p.Within V) :
    q.mask.tokens d = (q.tokens d).map Token.mask := by
  induction q with
  | nil => rfl
  | cons p q ih =>
    obtain ⟨now, later⟩ := List.forall_mem_cons.1 within
    rw [mask_cons, tokens_cons, tokens_cons, List.map_append, now.tokens_mask, ih later]

end Mask

end QueryRecipe
