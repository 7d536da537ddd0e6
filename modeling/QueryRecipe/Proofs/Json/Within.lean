import Mathlib.Data.List.Basic
import Mathlib.Tactic.Common
import QueryRecipe.Json.Basic

/-!
# Nesting and numbers of documents

How deep the lists and objects of a document nest (`depth`), what is true of all its numbers (`All`), and
the documents that keep to bounds in both (`Within`).
-/

namespace QueryRecipe.Json

mutual

/-- How deep the lists and objects of a value nest. -/
def depth : Json → Nat
  | .list items => depthItems items + 1
  | .object members => depthMembers members + 1
  | _ => 0

/-- How deep the items nest. -/
def depthItems : List Json → Nat
  | [] => 0
  | v :: rest => max v.depth (depthItems rest)

/-- How deep the values of the members nest. -/
def depthMembers : List (String × Json) → Nat
  | [] => 0
  | (_, v) :: rest => max v.depth (depthMembers rest)

end

section All
variable (p : Json → Prop)

mutual

/-- All numbers of a value have the property. -/
def All : Json → Prop
  | .int n => p (.int n)
  | .double x => p (.double x)
  | .list items => AllItems items
  | .object members => AllMembers members
  | _ => True

/-- All numbers of the items have the property. -/
def AllItems : List Json → Prop
  | [] => True
  | v :: rest => v.All ∧ AllItems rest

/-- All numbers of the values of the members have the property. -/
def AllMembers : List (String × Json) → Prop
  | [] => True
  | (_, v) :: rest => v.All ∧ AllMembers rest

end

end All

/-- Documents that nest at most `n` deep and of which all numbers have the property. -/
structure Within (p : Json → Prop) (n : Nat) (v : Json) : Prop where
  shallow : v.depth ≤ n
  numbers : v.All p

section Lists
variable {p : Json → Prop} {n : Nat} {items : List Json} {members : List (String × Json)}

/-- A list is one level deeper than its items. -/
@[simp]
lemma depth_list : (Json.list items).depth ≤ n + 1 ↔ ∀ v ∈ items, v.depth ≤ n := by
  rw [depth, Nat.add_le_add_iff_right]
  induction items with
  | nil => simp [depthItems]
  | cons v rest ih => rw [depthItems, Nat.max_le, List.forall_mem_cons, ih]

/-- An object is one level deeper than its values. -/
@[simp]
lemma depth_object : (Json.object members).depth ≤ n + 1 ↔ ∀ m ∈ members, m.2.depth ≤ n := by
  rw [depth, Nat.add_le_add_iff_right]
  induction members with
  | nil => simp [depthMembers]
  | cons m rest ih => rw [depthMembers, Nat.max_le, List.forall_mem_cons, ih]

/-- What holds of all numbers in a list holds of those in each item. -/
@[simp]
lemma all_list : (Json.list items).All p ↔ ∀ v ∈ items, v.All p := by
  rw [All]
  induction items with
  | nil => simp [AllItems]
  | cons v rest ih => rw [AllItems, List.forall_mem_cons, ih]

/-- What holds of all numbers in an object holds of those in each value. -/
@[simp]
lemma all_object : (Json.object members).All p ↔ ∀ m ∈ members, m.2.All p := by
  rw [All]
  induction members with
  | nil => simp [AllMembers]
  | cons m rest ih => rw [AllMembers, List.forall_mem_cons, ih]

/-- There is no number in null. -/
@[simp]
lemma all_null : Json.null.All p :=
  trivial

/-- There is no number in a truth value. -/
@[simp]
lemma all_bool {b} : (Json.bool b).All p :=
  trivial

/-- There is no number in a text. -/
@[simp]
lemma all_string {s} : (Json.string s).All p :=
  trivial

end Lists

section Within
variable {p : Json → Prop} {n : Nat}

/-- Null is within all limits. -/
@[simp]
lemma within_null : Within p n .null :=
  ⟨Nat.zero_le n, trivial⟩

/-- A truth value is within all limits. -/
@[simp]
lemma within_bool {b} : Within p n (.bool b) :=
  ⟨Nat.zero_le n, trivial⟩

/-- A text is within all limits. -/
@[simp]
lemma within_string {s} : Within p n (.string s) :=
  ⟨Nat.zero_le n, trivial⟩

/-- An integer is within the limits exactly if the property holds of it. -/
@[simp]
lemma within_int {i} : Within p n (.int i) ↔ p (.int i) :=
  ⟨fun h => h.numbers, fun h => ⟨Nat.zero_le n, h⟩⟩

/-- A double is within the limits exactly if the property holds of it. -/
@[simp]
lemma within_double {x} : Within p n (.double x) ↔ p (.double x) :=
  ⟨fun h => h.numbers, fun h => ⟨Nat.zero_le n, h⟩⟩

/-- A list takes one level, its items the others. -/
@[simp]
lemma within_list {items} : Within p (n + 1) (.list items) ↔ ∀ v ∈ items, Within p n v := by
  constructor
  · intro h v mem
    exact ⟨depth_list.1 h.shallow v mem, all_list.1 h.numbers v mem⟩
  · intro h
    exact ⟨depth_list.2 fun v mem => (h v mem).shallow, all_list.2 fun v mem => (h v mem).numbers⟩

/-- An object takes one level, the values of its members the others. -/
@[simp]
lemma within_object {members} :
    Within p (n + 1) (.object members) ↔ ∀ m ∈ members, Within p n m.2 := by
  constructor
  · intro h m mem
    exact ⟨depth_object.1 h.shallow m mem, all_object.1 h.numbers m mem⟩
  · intro h
    exact ⟨depth_object.2 fun m mem => (h m mem).shallow, all_object.2 fun m mem => (h m mem).numbers⟩

/-- A bound that a list keeps to is not zero. -/
lemma Within.list_cases {items} (h : Within p n (.list items)) :
    ∃ k, n = k + 1 ∧ ∀ v ∈ items, Within p k v := by
  cases n with
  | zero => exact absurd h.shallow (Nat.not_succ_le_zero _)
  | succ k => exact ⟨k, rfl, within_list.1 h⟩

/-- A bound that an object keeps to is not zero. -/
lemma Within.object_cases {members} (h : Within p n (.object members)) :
    ∃ k, n = k + 1 ∧ ∀ m ∈ members, Within p k m.2 := by
  cases n with
  | zero => exact absurd h.shallow (Nat.not_succ_le_zero _)
  | succ k => exact ⟨k, rfl, within_object.1 h⟩

end Within

end QueryRecipe.Json
