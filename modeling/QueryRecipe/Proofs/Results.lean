import Mathlib.Data.List.Basic
import Mathlib.Tactic.Common

/-!
# Computations that may fail

Whether a computation has a result (`Succeeds`), and what the results of computations in a row come from.
-/

namespace QueryRecipe

variable {ε α β : Type}

/-- Whether a computation that may fail has a result. -/
def Succeeds (x : Except ε α) : Prop :=
  ∃ a, x = .ok a

/-- A result is one. -/
@[simp]
lemma succeeds_ok (a : α) : Succeeds (.ok a : Except ε α) :=
  ⟨a, rfl⟩

/-- To give a result is to have one. -/
@[simp]
lemma succeeds_pure (a : α) : Succeeds (pure a : Except ε α) :=
  ⟨a, rfl⟩

/-- There is no result where there is an error. -/
@[simp]
lemma not_succeeds_error (e : ε) : ¬ Succeeds (.error e : Except ε α) := by
  rintro ⟨_, h⟩
  cases h

/-- The test for a result finds out whether there is one. -/
lemma isOk_iff {x : Except ε α} : x.isOk = true ↔ Succeeds x := by
  cases x <;> simp [Except.isOk, Except.toBool]

/-- An optional result is there exactly if the result is. -/
lemma toOption_eq_some {x : Except ε α} {a : α} : x.toOption = some a ↔ x = .ok a := by
  cases x <;> simp [Except.toOption]

/-- A function is applied to an optional result as to the result. -/
lemma toOption_map {x : Except ε α} {f : α → β} : (f <$> x).toOption = x.toOption.map f := by
  cases x <;> rfl

/-- What follows a result starts from it. -/
lemma ok_bind {a : α} {f : α → Except ε β} : (.ok a : Except ε α) >>= f = f a :=
  rfl

/-- Two computations in a row have the result that the second has after the first. -/
lemma bind_eq_ok {x : Except ε α} {f : α → Except ε β} {b : β} :
    x >>= f = .ok b ↔ ∃ a, x = .ok a ∧ f a = .ok b := by
  cases x with
  | ok a => simp [bind, Except.bind]
  | error e => simp [bind, Except.bind]

/-- The result of a function comes from the result that it is applied to. -/
lemma map_eq_ok {x : Except ε α} {f : α → β} {b : β} : f <$> x = .ok b ↔ ∃ a, x = .ok a ∧ f a = b := by
  cases x <;> simp [Functor.map, Except.map]

/-- Two computations in a row have a result if both have. -/
lemma succeeds_bind {x : Except ε α} {f : α → Except ε β} :
    Succeeds (x >>= f) ↔ ∃ a, x = .ok a ∧ Succeeds (f a) := by
  simp only [Succeeds, bind_eq_ok]
  constructor
  · rintro ⟨b, a, first, rest⟩
    exact ⟨a, first, b, rest⟩
  · rintro ⟨a, first, b, rest⟩
    exact ⟨b, a, first, rest⟩

/-- The same where the second computation has a result under a condition that does not depend on the
first. -/
lemma succeeds_bind_iff {x : Except ε α} {f : α → Except ε β} {p : Prop}
    (h : ∀ a, x = .ok a → (Succeeds (f a) ↔ p)) : Succeeds (x >>= f) ↔ Succeeds x ∧ p := by
  rw [succeeds_bind]
  constructor
  · rintro ⟨a, first, rest⟩
    exact ⟨⟨a, first⟩, (h a first).1 rest⟩
  · rintro ⟨⟨a, first⟩, rest⟩
    exact ⟨a, first, (h a first).2 rest⟩

/-- The same where the second computation is certain to have a result. -/
lemma succeeds_bind_pure {x : Except ε α} {f : α → β} :
    Succeeds (x >>= fun a => pure (f a)) ↔ Succeeds x := by
  rw [succeeds_bind_iff (p := True) fun a _ => by simp, and_true]

/-- A function is applied to a result if there is one. -/
@[simp]
lemma succeeds_map {x : Except ε α} {f : α → β} : Succeeds (f <$> x) ↔ Succeeds x := by
  rw [← bind_pure_comp, succeeds_bind_pure]

/-- A function is applied to all of a list if it can be applied to each. -/
lemma succeeds_mapM {f : α → Except ε β} {l : List α} :
    Succeeds (l.mapM f) ↔ ∀ a ∈ l, Succeeds (f a) := by
  induction l with
  | nil => simp
  | cons a l ih =>
    rw [List.mapM_cons, List.forall_mem_cons, ← ih]
    exact succeeds_bind_iff fun b _ => succeeds_bind_pure

/-- Something comes of a list exactly if there is something in it. -/
lemma mapM_eq_nil {f : α → Except ε β} {l : List α} {bs : List β} (h : l.mapM f = .ok bs) :
    bs = [] ↔ l = [] := by
  cases l with
  | nil =>
    cases h
    simp
  | cons a l =>
    rw [List.mapM_cons] at h
    obtain ⟨b, -, rest⟩ := bind_eq_ok.1 h
    obtain ⟨bs, -, e⟩ := bind_eq_ok.1 rest
    cases e
    simp

/-- Each of the results for a list is the result for something in it. -/
lemma mem_of_mapM {f : α → Except ε β} {l : List α} {bs : List β} {b} (h : l.mapM f = .ok bs)
    (mem : b ∈ bs) : ∃ a ∈ l, f a = .ok b := by
  induction l generalizing bs with
  | nil =>
    cases h
    cases mem
  | cons a l ih =>
    rw [List.mapM_cons] at h
    obtain ⟨first, now, rest⟩ := bind_eq_ok.1 h
    obtain ⟨others, later, ⟨⟩⟩ := bind_eq_ok.1 rest
    cases List.mem_cons.1 mem with
    | inl same => exact ⟨a, List.mem_cons_self, same ▸ now⟩
    | inr mem =>
      obtain ⟨a', listed, made⟩ := ih later mem
      exact ⟨a', List.mem_cons_of_mem a listed, made⟩

end QueryRecipe
