import Mathlib.Data.List.Chain
import QueryRecipe.Proofs.Sql.Phrase

/-!
# Lists in a phrase

Where a phrase has a list, told from its pieces: some pieces begin a list or go on with it, and others
can only stand after an item. A phrase has an empty list if one of the first is directly followed by one
of the second or by nothing (`Sql.NoEmptyList`). Phrases are put together from parts that begin and end
with items, so whether they are free of empty lists is decided part by part (`full_append`).
-/

namespace QueryRecipe

namespace Piece

/-- Whether an item of a list has to follow a piece. -/
@[simp]
def Opens (p : Piece) : Prop :=
  p ∈ [fixed "SELECT ", fixed "SELECT DISTINCT ", fixed "SELECT DISTINCT ON (", fixed ") ",
    fixed " GROUP BY ", fixed " ORDER BY ", fixed " (", fixed "(", fixed ", "]

/-- Whether a piece can stand after an item only. -/
@[simp]
def Closes (p : Piece) : Prop :=
  p ∈ [fixed ")", fixed ") ", fixed ", ", fixed ") AS t0", fixed " FROM ", fixed " WHERE ",
    fixed " GROUP BY ", fixed " ORDER BY ", fixed " LIMIT ", fixed " OFFSET ", fixed " UNION ALL ",
    fixed " UNION "]

instance : DecidablePred Opens := fun p => inferInstanceAs (Decidable (p ∈ [_, _, _, _, _, _, _, _, _]))

instance : DecidablePred Closes := fun p =>
  inferInstanceAs (Decidable (p ∈ [_, _, _, _, _, _, _, _, _, _, _, _]))

end Piece

namespace Sql

/-- Whether no list is empty between the pieces of a phrase. -/
def Full (q : Sql) : Prop :=
  q.IsChain fun p r => p.Opens → ¬ r.Closes

/-- Whether a phrase is not empty and begins with an item. -/
def Starts (q : Sql) : Prop :=
  ∃ p ∈ q.head?, ¬ p.Closes

/-- Whether no list is left without an item at the end of a phrase. -/
def Ends (q : Sql) : Prop :=
  ∀ p ∈ q.getLast?, ¬ p.Opens

/-- Whether no list in a phrase is empty. -/
def NoEmptyList (q : Sql) : Prop :=
  q.Full ∧ q.Ends

instance : DecidablePred NoEmptyList := fun q =>
  inferInstanceAs (Decidable (q.IsChain (fun p r => p.Opens → ¬ r.Closes) ∧
    ∀ p ∈ q.getLast?, ¬ p.Opens))

section Parts
variable {p s : Piece} {q r : Sql}

/-- No list is empty in the empty phrase. -/
@[simp]
lemma full_nil : Full [] := .nil

/-- No list is empty in a single piece. -/
@[simp]
lemma full_one : Full [p] := .singleton p

/-- The empty phrase leaves no list without an item. -/
@[simp]
lemma ends_nil : Ends [] := by simp [Ends]

/-- A phrase begins with an item if its first piece does not close a list. -/
@[simp]
lemma starts_cons : Starts (p :: q) ↔ ¬ p.Closes := by
  simp only [Starts, List.head?_cons, Option.mem_some_iff, exists_eq_left']

/-- A phrase leaves no list without an item if its last piece does not open one. -/
@[simp]
lemma ends_concat : Ends (q ++ [p]) ↔ ¬ p.Opens := by
  simp only [Ends, List.getLast?_concat, Option.mem_some_iff, forall_eq']

/-- A piece leaves no list without an item if it does not open one. -/
@[simp]
lemma ends_one : Ends [p] ↔ ¬ p.Opens :=
  ends_concat (q := [])

/-- A phrase that begins with an item does so whatever follows. -/
@[simp]
lemma Starts.append (h : Starts q) : Starts (q ++ r) := by
  obtain ⟨p, first, item⟩ := h
  exact ⟨p, List.mem_head?_append_of_mem_head? first, item⟩

/-- Phrases in a row leave no list without an item if neither does. -/
lemma Ends.append (hq : Ends q) (hr : Ends r) : Ends (q ++ r) := by
  cases r using List.reverseRecOn with
  | nil => rwa [List.append_nil]
  | append_singleton r p =>
    rw [← List.append_assoc, ends_concat]
    exact ends_concat.1 hr

/-- The first piece does not matter to the end if others follow. -/
@[simp]
lemma ends_cons_cons : Ends (p :: s :: q) ↔ Ends (s :: q) := by
  rw [Ends, List.getLast?_cons_cons]
  rfl

/-- A piece before a phrase that begins with an item does not matter to the end. -/
lemma ends_cons (hq : Starts q) : Ends (p :: q) ↔ Ends q := by
  obtain ⟨s, first, -⟩ := hq
  cases q with
  | nil => cases first
  | cons a q => exact ends_cons_cons

/-- Only the end of a phrase matters. -/
lemma Ends.after (hr : Ends (p :: r)) : Ends (q ++ p :: r) := by
  rw [Ends, List.getLast?_append_of_ne_nil _ (List.cons_ne_nil p r)]
  exact hr

/-- Parts of which the first is complete. -/
@[simp]
lemma full_append (hq : Ends q) : Full (q ++ r) ↔ Full q ∧ Full r := by
  rw [Full, List.isChain_append]
  constructor
  · exact fun ⟨first, second, _⟩ => ⟨first, second⟩
  · exact fun ⟨first, second⟩ => ⟨first, second, fun p last _ _ opens => absurd opens (hq p last)⟩

/-- A piece that no item has to follow. -/
@[simp]
lemma full_cons (hp : ¬ p.Opens) : Full (p :: q) ↔ Full q := by
  have one : Full ([p] ++ q) ↔ Full [p] ∧ Full q := full_append (ends_one.2 hp)
  simpa using one

/-- A piece that an item follows. -/
@[simp]
lemma full_open (hq : Starts q) : Full (p :: q) ↔ Full q := by
  obtain ⟨s, first, item⟩ := hq
  rw [Full, List.isChain_cons]
  constructor
  · exact And.right
  · intro full
    refine ⟨fun a mem _ => ?_, full⟩
    cases Option.mem_unique mem first
    exact item

/-- A piece that an item has to follow cannot stand before one that comes after an item. -/
lemma not_full (hp : p.Opens) (hs : s.Closes) : ¬ Full (q ++ p :: s :: r) := by
  intro full
  have pair : [p, s] <:+: q ++ p :: s :: r := ⟨q, r, by simp⟩
  have both := List.IsChain.infix full pair
  exact (List.isChain_cons_cons.1 both).1 hp hs

/-- Pieces that no item has to follow. -/
lemma full_of_plain (h : ∀ p ∈ q, ¬ p.Opens) : Full q := by
  induction q with
  | nil => exact full_nil
  | cons p q ih =>
    obtain ⟨now, later⟩ := List.forall_mem_cons.1 h
    exact (full_cons now).2 (ih later)

/-- A phrase in which no piece opens a list leaves none without an item. -/
lemma ends_of_plain (h : ∀ p ∈ q, ¬ p.Opens) : Ends q :=
  fun p last => h p (List.mem_of_getLast? last)

/-- Whether a phrase is an item of a list. -/
structure IsItem (q : Sql) : Prop where
  starts : Starts q
  ends : Ends q

/-- A phrase is complete if an item ends it. -/
lemma IsItem.after (hr : IsItem r) : Ends (q ++ r) := by
  obtain ⟨⟨a, first, -⟩, ends⟩ := hr
  cases r with
  | nil => cases first
  | cons b r => exact .after ends

/-- Items with a separator between begin and end as items do. -/
lemma isItem_separated {sep : String} {qs : List Sql} (ne : qs ≠ []) (h : ∀ q ∈ qs, IsItem q) :
    IsItem (Sql.separated sep qs) := by
  induction qs with
  | nil => exact absurd rfl ne
  | cons q qs ih =>
    obtain ⟨now, later⟩ := List.forall_mem_cons.1 h
    cases qs with
    | nil => rwa [separated_one]
    | cons r qs =>
      rw [separated_cons_cons]
      obtain ⟨starts, ends⟩ := ih (List.cons_ne_nil r qs) later
      exact ⟨now.starts.append, .after ((ends_cons starts).2 ends)⟩

/-- Items with a separator between have no empty list if none of them has. -/
lemma full_separated {sep : String} {qs : List Sql} (h : ∀ q ∈ qs, IsItem q) :
    Full (Sql.separated sep qs) ↔ ∀ q ∈ qs, Full q := by
  induction qs with
  | nil => simp [Sql.separated]
  | cons q qs ih =>
    obtain ⟨now, later⟩ := List.forall_mem_cons.1 h
    cases qs with
    | nil => simp
    | cons r qs =>
      have others : IsItem (Sql.separated sep (r :: qs)) :=
        isItem_separated (List.cons_ne_nil r qs) later
      rw [separated_cons_cons, full_append now.ends, full_open others.starts, ih later]
      exact List.forall_mem_cons.symm

/-- Items with a separator between, enclosed by two pieces. -/
lemma full_enclosed {sep : String} {qs : List Sql} (ne : qs ≠ [])
    (h : ∀ q ∈ qs, IsItem q) :
    Full (p :: Sql.separated sep qs ++ [s]) ↔ ∀ q ∈ qs, Full q := by
  have listed : IsItem (Sql.separated sep qs) := isItem_separated ne h
  rw [full_append ((ends_cons listed.starts).2 listed.ends), full_open listed.starts, full_separated h]
  simp

end Parts

end Sql

end QueryRecipe
