import QueryRecipe.Proofs.Json.Visible
import QueryRecipe.Proofs.Recipe.Encoding

/-!
# Nesting and numbers of recipes

What a recipe is written as nests as deep as its literals make it and holds their numbers. A recipe that
was read from a document nests no deeper than a document can (`Recipe.within_of_ofText`).
-/

namespace QueryRecipe

open Json (Legal Within)

namespace Literal

mutual

/-- The numbers of the format binary64 in a literal. -/
def doubles : Literal → List Binary64
  | .double x => [x]
  | .list items => doublesList items
  | _ => []

/-- The numbers of the format binary64 in literals. -/
def doublesList : List Literal → List Binary64
  | [] => []
  | v :: rest => v.doubles ++ doublesList rest

end

section
variable {p : Json → Prop}

mutual

/-- A literal is written with its own numbers. -/
lemma all_toJson (ints : ∀ n : Int64, p (.int n.toInt)) :
    (v : Literal) → (v.toJson.All p ↔ ∀ x ∈ v.doubles, p (.double x))
  | .null => by simp [toJson, doubles]
  | .bool _ => by simp [toJson, doubles]
  | .int n => by simp [toJson, Json.All, doubles, ints]
  | .double _ => by simp [toJson, Json.All, doubles]
  | .string _ => by simp [toJson, doubles]
  | .list items => by
    rw [toJson, Json.all_list, doubles]
    exact all_toJsonList ints items

/-- What holds of all numbers in written items holds of their doubles. -/
lemma all_toJsonList (ints : ∀ n : Int64, p (.int n.toInt)) :
    (items : List Literal) →
      ((∀ v ∈ toJsonList items, v.All p) ↔ ∀ x ∈ doublesList items, p (.double x))
  | [] => by simp [toJsonList, doublesList]
  | v :: rest => by
    rw [toJsonList, doublesList, List.forall_mem_cons, List.forall_mem_append, all_toJson ints v,
      all_toJsonList ints rest]

end

end

/-- The integer of a literal is a legal number. -/
lemma legal_int (n : Int64) : Legal (.int n.toInt) := by
  have least := n.minValue_le_toInt
  have most := n.toInt_le
  have bound : Int64.maxValue.toInt < UInt64.size := by decide
  exact ⟨least, by omega⟩

/-- An integer that is beyond a literal becomes a finite number. -/
lemma within_ofInt {n i} (h : Legal (.int i)) : (ofInt i).toJson.Within Legal n := by
  rw [ofInt]
  split
  · exact Json.within_int.2 (legal_int _)
  · obtain ⟨least, most⟩ := h
    have bound : -(UInt64.size : Int) < Int64.minValue.toInt := by decide
    exact Json.within_double.2 (Json.isFinite_ofInt (by omega))

mutual

/-- A literal is not written deeper than it was read. -/
lemma within_of_ofJson {n} : {j : Json} → {v : Literal} → ofJson j = .ok v → j.Within Legal n →
    v.toJson.Within Legal n
  | .null, _, rfl, h => h
  | .bool _, _, rfl, h => h
  | .int _, _, rfl, h => within_ofInt (Json.within_int.1 h)
  | .double _, _, rfl, h => h
  | .string _, _, rfl, h => h
  | .list items, _, read, h => by
    rw [ofJson] at read
    obtain ⟨vs, inner, rfl⟩ := map_eq_ok.1 read
    obtain ⟨k, rfl, inside⟩ := h.list_cases
    exact Json.within_list.2 (within_of_ofJsonList inner inside)

/-- The items of a literal list that has been read are within the limits of what they were read from. -/
lemma within_of_ofJsonList {n} : {items : List Json} → {vs : List Literal} →
    ofJsonList items = .ok vs → (∀ j ∈ items, j.Within Legal n) →
    ∀ v ∈ toJsonList vs, v.Within Legal n
  | [], _, rfl, _ => nofun
  | j :: items, _, read, h => by
    rw [ofJsonList] at read
    obtain ⟨v, first, rest⟩ := bind_eq_ok.1 read
    obtain ⟨vs, others, ⟨⟩⟩ := bind_eq_ok.1 rest
    obtain ⟨now, later⟩ := List.forall_mem_cons.1 h
    exact List.forall_mem_cons.2 ⟨within_of_ofJson first now, within_of_ofJsonList others later⟩

end

end Literal

namespace Json
variable {p : Json → Prop} {n : Nat}

/-- An optional text is within all limits. -/
@[simp]
lemma within_ofOptional {s} : (ofOptional s).Within p n := by
  cases s <;> simp [ofOptional]

/-- A list of texts is within the limits of one level. -/
@[simp]
lemma within_ofStrings {l} : (ofStrings l).Within p (n + 1) := by
  simp [ofStrings]

/-- There is no number in an optional text. -/
@[simp]
lemma all_ofOptional {s} : (ofOptional s).All p := by
  cases s <;> trivial

/-- There is no number in a list of texts. -/
@[simp]
lemma all_ofStrings {l} : (ofStrings l).All p := by
  simp [ofStrings]

/-- The values given for the fields of a record. -/
def Record.values : Record → List Json
  | .members ms => ms.map (·.2)
  | .positions vs => vs

/-- The fields of a record are within the value that it is written as. -/
lemma record_values {arity j r} (read : record arity j = .ok r) (h : j.Within p n) :
    ∀ v ∈ r.values, v.Within p (n - 1) := by
  cases j with
  | object members =>
    cases read
    obtain ⟨k, rfl, inside⟩ := h.object_cases
    exact List.forall_mem_map.2 inside
  | list items =>
    obtain ⟨k, rfl, inside⟩ := h.list_cases
    rw [record] at read
    split at read <;> cases read
    exact inside
  | _ => cases read

/-- What holds of the default of a field and of what can be read for it holds of the field. -/
lemma field_cases {α : Type} {P : α → Prop} {read : Json → Read α} {default a : α} {r : Record}
    {position names} (found : r.field position names read default = .ok a)
    (fields : ∀ v ∈ r.values, v.Within p n) (absent : P default)
    (given : ∀ j a, read j = .ok a → j.Within p n → P a) : P a := by
  obtain ⟨value, lookup, found⟩ := bind_eq_ok.1 found
  cases value with
  | none =>
    cases found
    exact absent
  | some j =>
    refine given j a found (fields j ?_)
    cases r with
    | positions vs =>
      have same : vs[position]? = some j := Except.ok.inj lookup
      exact List.mem_of_getElem? same
    | members ms =>
      rw [Record.given?] at lookup
      split at lookup <;> cases lookup
      next m once =>
        have listed : m ∈ ms.filter fun m => names.contains m.1 := once ▸ List.mem_singleton_self m
        exact List.mem_map_of_mem (List.mem_of_mem_filter listed)

/-- The items of a list are within the value that it is written as. -/
lemma mem_of_asList {α : Type} {read : Json → Read α} {j as} (found : asList read j = .ok as)
    (h : j.Within p n) {a} (mem : a ∈ as) : ∃ j, read j = .ok a ∧ j.Within p (n - 1) := by
  cases j with
  | list items =>
    obtain ⟨k, rfl, inside⟩ := h.list_cases
    obtain ⟨j, listed, read⟩ := mem_of_mapM found mem
    exact ⟨j, read, inside j listed⟩
  | _ => cases found

end Json

/-- A count is a legal number. -/
lemma Json.legal_count (k : UInt64) : Legal (.int k.toNat) := by
  have least : Int64.minValue.toInt ≤ 0 := by decide
  have most : k.toNat < UInt64.size := k.toNat_lt
  exact ⟨by omega, by omega⟩

/-- An optional count is within the limits. -/
lemma Json.within_ofCount (k : Option UInt64) (n : Nat) : (ofCount k).Within Legal n := by
  cases k with
  | none => exact within_null
  | some k => exact within_int.2 (legal_count k)

/-- A field for a literal. -/
lemma Literal.within_of_field {r : Json.Record} {position names v n}
    (found : r.field position names ofJson .null = .ok v) (fields : ∀ j ∈ r.values, j.Within Legal n) :
    v.toJson.Within Legal n :=
  Json.field_cases (P := fun v => v.toJson.Within Legal n) found fields Json.within_null
    fun _ _ => within_of_ofJson

/-- The operand of a condition that has been read is within the limits of a value in it. -/
lemma FilterCondition.within_of_ofJson {j c n} (read : ofJson j = .ok c) (h : j.Within Legal n) :
    c.operand.toJson.Within Legal (n - 1) := by
  obtain ⟨r, record, read⟩ := bind_eq_ok.1 read
  obtain ⟨column, -, read⟩ := bind_eq_ok.1 read
  obtain ⟨comparison, -, read⟩ := bind_eq_ok.1 read
  obtain ⟨operand, found, ⟨⟩⟩ := bind_eq_ok.1 read
  exact Literal.within_of_field found (Json.record_values record h)

namespace Step
variable {n : Nat}

/-- The literals of a step. -/
def literals : Step → List Literal
  | .filter conditions _ => conditions.map (·.operand)
  | .replace _ _ new _ => [new]
  | .fillNull _ value _ => [value]
  | _ => []

/-- How many lists and objects stand around the literals of a step when it is written. -/
def level : Step → Nat
  | .filter .. => 3
  | _ => 1

/-- The literals of a step that has been read are within the limits of the values of its record. -/
lemma literals_of_ofRecord {tag r s} (read : ofRecord tag r = .ok s)
    (fields : ∀ v ∈ r.values, v.Within Legal (n - 1)) :
    ∀ v ∈ s.literals, v.toJson.Within Legal (n - s.level) := by
  unfold ofRecord at read
  split at read
  case h_7 =>
    obtain ⟨conditions, found, read⟩ := bind_eq_ok.1 read
    obtain ⟨connective, -, ⟨⟩⟩ := bind_eq_ok.1 read
    refine List.forall_mem_map.2 ?_
    refine Json.field_cases (P := fun cs => ∀ c ∈ cs, c.operand.toJson.Within Legal (n - 3)) found
      fields nofun fun j cs given inside c mem => ?_
    obtain ⟨item, read, within⟩ := Json.mem_of_asList given inside mem
    exact FilterCondition.within_of_ofJson read within
  case h_11 =>
    obtain ⟨column, -, read⟩ := bind_eq_ok.1 read
    obtain ⟨old, -, read⟩ := bind_eq_ok.1 read
    obtain ⟨new, found, read⟩ := bind_eq_ok.1 read
    obtain ⟨expression, -, ⟨⟩⟩ := bind_eq_ok.1 read
    exact List.forall_mem_singleton.2 (Literal.within_of_field found fields)
  case h_14 =>
    obtain ⟨column, -, read⟩ := bind_eq_ok.1 read
    obtain ⟨value, found, read⟩ := bind_eq_ok.1 read
    obtain ⟨emptyToo, -, ⟨⟩⟩ := bind_eq_ok.1 read
    exact List.forall_mem_singleton.2 (Literal.within_of_field found fields)
  -- the other kinds have no literals
  all_goals
    repeat obtain ⟨_, -, read⟩ := bind_eq_ok.1 read
    cases read <;> exact nofun

/-- The literals of a step do not nest deeper than the value that the step was read from allows. -/
lemma literals_of_ofJson {j s} (read : ofJson j = .ok s) (h : j.Within Legal n) :
    ∀ v ∈ s.literals, v.toJson.Within Legal (n - s.level) := by
  have ofFields {tag j} (read : ofFields tag j = .ok s) (h : j.Within Legal n) :
      ∀ v ∈ s.literals, v.toJson.Within Legal (n - s.level) := by
    rw [Step.ofFields] at read
    split at read
    next => cases read
    next =>
      obtain ⟨r, record, read⟩ := bind_eq_ok.1 read
      exact literals_of_ofRecord read (Json.record_values record h)
  rw [ofJson.eq_def] at read
  split at read
  next members =>
    split at read
    next =>
      obtain ⟨k, rfl, inside⟩ := h.object_cases
      exact ofFields read (Json.within_object.2 fun m mem => inside m (List.mem_of_mem_filter mem))
    next => cases read
  next tag items =>
    obtain ⟨k, rfl, inside⟩ := h.list_cases
    exact ofFields read (Json.within_list.2 (List.forall_mem_cons.1 inside).2)
  next => cases read

section
variable {p : Json → Prop}

/-- A step is written with the numbers of its literals and its counts. -/
lemma all_toJson (counts : ∀ k, (Json.ofCount k).All p) (s : Step) :
    s.toJson.All p ↔ ∀ v ∈ s.literals, v.toJson.All p := by
  rw [toJson, Json.all_object]
  cases s with
  | rename mapping =>
    simp only [fields, literals, List.forall_mem_cons, Json.all_object, List.forall_mem_map]
    simp
  | _ => simp [fields, literals, FilterCondition.toJson, SortKey.toJson, JoinKey.toJson,
      Aggregation.toJson, counts, -Prod.forall]

/-- A step is written with three levels of its own at most. -/
lemma within_toJson (counts : ∀ k n, (Json.ofCount k).Within p n) {s : Step}
    (h : ∀ v ∈ s.literals, v.toJson.Within p (n + 3 - s.level)) : s.toJson.Within p (n + 3) := by
  rw [toJson, Json.within_object]
  cases s with
  | rename mapping =>
    rw [fields, List.forall_mem_cons, List.forall_mem_singleton, Json.within_object, List.forall_mem_map]
    simp
  | _ => simp_all [fields, literals, level, FilterCondition.toJson, SortKey.toJson, JoinKey.toJson,
      Aggregation.toJson, -Prod.forall]

end

end Step

namespace Recipe
open Json

/-- The numbers of the format binary64 in the literals of a recipe. -/
def doubles (r : Recipe) : List Binary64 :=
  r.steps.flatMap fun s => s.literals.flatMap Literal.doubles

/-- A recipe is written with the numbers of its literals and counts. -/
lemma all_toJson {p : Json → Prop} (ints : ∀ n : Int64, p (.int n.toInt))
    (counts : ∀ n : UInt64, p (.int n.toNat)) (r : Recipe) :
    r.toJson.All p ↔ ∀ x ∈ r.doubles, p (.double x) := by
  have ofCount : ∀ k, (ofCount k).All p
    | none => trivial
    | some k => counts k
  have steps : (Json.list (r.steps.map Step.toJson)).All p ↔ ∀ x ∈ r.doubles, p (.double x) := by
    simp only [all_list, List.forall_mem_map, doubles, List.forall_mem_flatMap,
      Step.all_toJson ofCount, Literal.all_toJson ints]
  rw [toJson, all_object]
  cases r.dialect <;> simp [steps]

/-- Only a member of that name has steps. -/
lemma steps_add {m : String × Json} {d d' : Draft} (read : d.add m = .ok d') :
    d'.steps = d.steps ∨ ∃ j steps, m = ("steps", j) ∧ d'.steps = some steps ∧
      asList Step.ofJson j = .ok steps := by
  rw [Draft.add.eq_def] at read
  split at read
  next j =>
    obtain ⟨schema, -, ⟨⟩⟩ := bind_eq_ok.1 read
    exact .inl rfl
  next j =>
    obtain ⟨table, -, ⟨⟩⟩ := bind_eq_ok.1 read
    exact .inl rfl
  next j =>
    obtain ⟨given, once, ⟨⟩⟩ := bind_eq_ok.1 read
    rw [Draft.once] at once
    split at once
    next => cases once
    next =>
      obtain ⟨steps, found, rfl⟩ := map_eq_ok.1 once
      exact .inr ⟨j, steps, rfl, rfl, found⟩
  next j =>
    obtain ⟨dialect, -, ⟨⟩⟩ := bind_eq_ok.1 read
    exact .inl rfl
  next =>
    cases read
    exact .inl rfl

/-- The steps of a draft are those that it had or those of a member. -/
lemma steps_foldlM {members : List (String × Json)} {d d' : Draft}
    (read : members.foldlM Draft.add d = .ok d') :
    d'.steps = d.steps ∨ ∃ j steps, ("steps", j) ∈ members ∧ d'.steps = some steps ∧
      asList Step.ofJson j = .ok steps := by
  induction members generalizing d with
  | nil =>
    cases read
    exact .inl rfl
  | cons m members ih =>
    rw [List.foldlM_cons] at read
    obtain ⟨next, now, later⟩ := bind_eq_ok.1 read
    cases ih later with
    | inl same =>
      rw [same]
      refine (steps_add now).imp id ?_
      rintro ⟨j, steps, rfl, eq, read⟩
      exact ⟨j, steps, List.mem_cons_self, eq, read⟩
    | inr given =>
      obtain ⟨j, steps, mem, eq, read⟩ := given
      exact .inr ⟨j, steps, List.mem_cons_of_mem m mem, eq, read⟩

/-- The steps of a recipe are read from a member of that name. -/
lemma steps_of_ofMembers {members r} (read : ofMembers members = .ok r) :
    r.steps = [] ∨ ∃ j, ("steps", j) ∈ members ∧ asList Step.ofJson j = .ok r.steps := by
  obtain ⟨d, added, read⟩ := bind_eq_ok.1 read
  rw [Draft.recipe] at read
  split at read <;> cases read
  cases steps_foldlM added with
  | inl same =>
    left
    show d.steps.getD [] = []
    rw [same]
    rfl
  | inr given =>
    obtain ⟨j, steps, mem, eq, read⟩ := given
    right
    refine ⟨j, mem, ?_⟩
    show _ = Except.ok (d.steps.getD [])
    rw [eq]
    exact read

/-- A recipe is two levels deeper than its steps. -/
lemma within_toJson {r : Recipe} {n} (h : ∀ s ∈ r.steps, s.toJson.Within Legal n) :
    r.toJson.Within Legal (n + 2) := by
  rw [toJson, within_object]
  cases r.dialect <;> simpa using h

/-- A recipe is not written deeper than a document can be if its steps were read from one. -/
lemma within_of_asList {r : Recipe} {j} (read : asList Step.ofJson j = .ok r.steps)
    (h : j.Within Legal 126) : r.toJson.Within Legal 127 := by
  refine within_toJson (n := 125) fun s mem => ?_
  obtain ⟨item, read, inside⟩ := mem_of_asList read h mem
  exact Step.within_toJson within_ofCount (Step.literals_of_ofJson read inside)

/-- A recipe that was read is not written deeper than a document can be. -/
lemma within_of_ofJson {skips : String → Bool} {j r} (seen : skips "steps" = false)
    (read : ofJson j = .ok r) (h : j.Visible skips) : r.toJson.Within Legal 127 := by
  have finish {members} (read : ofMembers members = .ok r)
      (inside : ∀ j, ("steps", j) ∈ members → j.Within Legal 126) : r.toJson.Within Legal 127 := by
    cases steps_of_ofMembers read with
    | inl none =>
      refine within_toJson (n := 125) ?_
      rw [none]
      exact nofun
    | inr given =>
      obtain ⟨j, mem, read⟩ := given
      exact within_of_asList read (inside j mem)
  cases j with
  | object members => exact finish read fun j mem => h ("steps", j) mem seen
  | list items =>
    obtain ⟨r', members, read⟩ := bind_eq_ok.1 read
    split at read <;> cases read
    exact finish members fun j mem => within_list.1 h j (List.of_mem_zip mem).2
  | _ => cases read

end Recipe

end QueryRecipe
