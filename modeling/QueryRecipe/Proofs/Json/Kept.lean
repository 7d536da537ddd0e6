import Mathlib.Data.List.Sort
import QueryRecipe.Proofs.Recipe.Encoding
import QueryRecipe.Recipe.Document

/-!
# Documents that repeat no name

A value in which no object repeats a name (`Distinct`) has the same members when it is kept, in another
order (`kept_object`). Whoever asks for texts, numbers, lists, choices, maps or literals reads the same from
it (`Stable`).
-/

namespace QueryRecipe

namespace NameMap
variable {α : Type}

/-- The entry of a new name is one more. -/
lemma insertEntry_perm {name : String} {value : α} {l : List (String × α)} (h : name ∉ l.map (·.1)) :
    (insertEntry name value l).Perm ((name, value) :: l) := by
  induction l with
  | nil => exact .refl _
  | cons e l ih =>
    obtain ⟨ne, later⟩ := not_or.1 (mt List.mem_cons.2 h)
    rw [insertEntry]
    split
    · exact .refl _
    · exact ((ih later).cons e).trans (.swap _ _ _)

/-- Entries of new names are so many more. -/
lemma entries_foldl_perm {l : List (String × α)} {m : NameMap α}
    (h : ((m.entries ++ l).map (·.1)).Nodup) :
    (l.foldl (fun m e => m.insert e.1 e.2) m).entries.Perm (m.entries ++ l) := by
  induction l generalizing m with
  | nil => rw [List.append_nil]; exact .refl _
  | cons e l ih =>
    have fresh : e.1 ∉ m.entries.map (·.1) := by
      rw [List.map_append, List.nodup_append, List.map_cons] at h
      exact fun mem => h.2.2 _ mem _ List.mem_cons_self rfl
    have inserted : (m.insert e.1 e.2).entries.Perm (e :: m.entries) := insertEntry_perm fresh
    have moved : ((m.insert e.1 e.2).entries ++ l).Perm (m.entries ++ e :: l) :=
      (inserted.append_right l).trans List.perm_middle.symm
    exact (ih ((moved.map _).nodup_iff.2 h)).trans moved

/-- A list of entries with distinct names has the entries of its map. -/
lemma entries_ofList_perm {l : List (String × α)} (h : (l.map (·.1)).Nodup) :
    (ofList l).entries.Perm l :=
  entries_foldl_perm (m := ∅) h

/-- The order of entries with distinct names does not matter to their map. -/
lemma ofList_perm {l l' : List (String × α)} (h : (l.map (·.1)).Nodup) (same : l'.Perm l) :
    ofList l' = ofList l := by
  have h' : (l'.map (·.1)).Nodup := (same.map _).nodup_iff.2 h
  have entries : (ofList l').entries.Perm (ofList l).entries :=
    (entries_ofList_perm h').trans (same.trans (entries_ofList_perm h).symm)
  refine eq_of_entries (entries.eq_of_pairwise ?_ (ofList l').sorted (ofList l).sorted)
  exact fun a b _ _ lt gt => absurd gt (String.lt_asymm lt)

end NameMap

namespace Json

section Distinct

mutual

/-- Whether no object of a value repeats a name. -/
def Distinct : Json → Prop
  | .list items => DistinctItems items
  | .object members => (members.map (·.1)).Nodup ∧ DistinctMembers members
  | _ => True

/-- Whether no object of the items repeats a name. -/
def DistinctItems : List Json → Prop
  | [] => True
  | v :: rest => v.Distinct ∧ DistinctItems rest

/-- Whether no object of the members' values repeats a name. -/
def DistinctMembers : List (String × Json) → Prop
  | [] => True
  | (_, v) :: rest => v.Distinct ∧ DistinctMembers rest

end

variable {items : List Json} {members : List (String × Json)}

/-- No object in a list repeats a name if none in its items does. -/
lemma distinct_list : (Json.list items).Distinct ↔ ∀ v ∈ items, v.Distinct := by
  rw [Distinct]
  induction items with
  | nil => simp [DistinctItems]
  | cons v rest ih => rw [DistinctItems, List.forall_mem_cons, ih]

/-- An object is without repeated names if its own are distinct and those in its values are. -/
lemma distinct_object : (Json.object members).Distinct ↔
    (members.map (·.1)).Nodup ∧ ∀ m ∈ members, m.2.Distinct := by
  have values : DistinctMembers members ↔ ∀ m ∈ members, m.2.Distinct := by
    induction members with
    | nil => simp [DistinctMembers]
    | cons m rest ih => rw [DistinctMembers, List.forall_mem_cons, ih]
  rw [Distinct, values]

/-- Items are kept one by one. -/
@[simp]
lemma keptItems_eq_map : keptItems items = items.map kept := by
  induction items with
  | nil => rfl
  | cons v rest ih => rw [keptItems, ih, List.map_cons]

/-- The values of members are kept one by one. -/
@[simp]
lemma keptMembers_eq_map : keptMembers members = members.map fun m => (m.1, m.2.kept) := by
  induction members with
  | nil => rfl
  | cons m rest ih => rw [keptMembers, ih, List.map_cons]

/-- A list keeps the order of its items. -/
lemma kept_list : (Json.list items).kept = .list (items.map kept) := by
  rw [kept, keptItems_eq_map]

/-- A kept object has the members as they are kept, in another order. -/
lemma kept_object (h : (Json.object members).Distinct) : ∃ members' : List (String × Json),
    (Json.object members).kept = .object members' ∧
      members'.Perm (members.map fun m => (m.1, m.2.kept)) := by
  refine ⟨_, rfl, ?_⟩
  rw [keptMembers_eq_map]
  refine NameMap.entries_ofList_perm ?_
  rw [List.map_map]
  exact (distinct_object.1 h).1

/-- An object is kept with as many members as it has; a single one has its value as that is kept. -/
lemma kept_object_cases (h : (Json.object members).Distinct) :
    (members = [] ∧ (Json.object members).kept = .object []) ∨
      (∃ name v, members = [(name, v)] ∧ v.Distinct ∧
        (Json.object members).kept = .object [(name, v.kept)]) ∨
      ∃ m n rest m' n' rest', members = m :: n :: rest ∧
        (Json.object members).kept = .object (m' :: n' :: rest') := by
  obtain ⟨members', same, perm⟩ := kept_object h
  rcases members with _ | ⟨⟨name, v⟩, _ | ⟨n, rest⟩⟩
  · exact .inl ⟨rfl, by rw [same, List.perm_nil.1 perm]⟩
  · have value : v.Distinct := (distinct_object.1 h).2 (name, v) List.mem_cons_self
    exact .inr (.inl ⟨name, v, rfl, value, by rw [same, List.perm_singleton.1 perm]⟩)
  · rcases members' with _ | ⟨m', _ | ⟨n', rest'⟩⟩
    · exact absurd perm.length_eq (by simp)
    · exact absurd perm.length_eq (by simp)
    · exact .inr (.inr ⟨_, n, rest, m', n', rest', rfl, same⟩)

end Distinct

section Stable
variable {α : Type} {read : Json → Read α}

/-- Whether the same is read of a value as it is kept, if the value repeats no name. -/
def Stable (read : Json → Read α) : Prop :=
  ∀ j : Json, j.Distinct → read j.kept = read j

/-- A text is read of what is kept of it. -/
lemma stable_asString : Stable asString := by
  intro j _
  cases j <;> rfl

/-- A truth value is read of what is kept of it. -/
lemma stable_asBool : Stable asBool := by
  intro j _
  cases j <;> rfl

/-- A count is read of what is kept of it. -/
lemma stable_asUInt64 : Stable asUInt64 := by
  intro j _
  cases j <;> rfl

/-- An optional value is read of what is kept of it if the value is. -/
lemma Stable.asOptional (h : Stable read) : Stable (asOptional read) := by
  intro j distinct
  cases j with
  | null => rfl
  | _ => exact congrArg (some <$> ·) (h _ distinct)

/-- A list is read of what is kept of it if its items are. -/
lemma Stable.asList (h : Stable read) : Stable (asList read) := by
  intro j distinct
  cases j with
  | list items =>
    rw [distinct_list] at distinct
    rw [kept_list, Json.asList, Json.asList, List.mapM_map]
    induction items with
    | nil => rfl
    | cons v rest ih =>
      obtain ⟨now, later⟩ := List.forall_mem_cons.1 distinct
      rw [List.mapM_cons, List.mapM_cons, Function.comp_apply, h v now, ih later]
  | _ => rfl

/-- Nothing is read of the empty list. -/
lemma asList_nil : Json.asList read (.list []) = .ok [] :=
  rfl

/-- The value behind a name is nothing exactly if it is kept as nothing. -/
lemma isNothing_kept {v : Json} (h : v.Distinct) : isNothing v.kept = isNothing v := by
  cases v with
  | object members =>
    obtain ⟨rfl, same⟩ | ⟨name, v, rfl, -, same⟩ | ⟨m, n, rest, m', n', rest', rfl, same⟩ :=
      kept_object_cases h
    all_goals exact (congrArg isNothing same).trans rfl
  | _ => rfl

/-- What is kept of a value is null if the value is. -/
lemma isNull_kept (v : Json) : isNull v.kept = isNull v := by
  cases v <;> rfl

/-- A choice is read of what is kept of it if the values that may stand under its name are kept as such. -/
lemma stable_asChoice {named? : String → Option α} {isEmpty : Json → Bool}
    (h : ∀ v : Json, v.Distinct → isEmpty v.kept = isEmpty v) : Stable (asChoice named? isEmpty) := by
  intro j distinct
  cases j with
  | object members =>
    obtain ⟨rfl, same⟩ | ⟨name, v, rfl, value, same⟩ | ⟨m, n, rest, m', n', rest', rfl, same⟩ :=
      kept_object_cases distinct
    · rw [same]
    · rw [same, asChoice, asChoice, h v value]
    · exact (congrArg (asChoice named? isEmpty) same).trans rfl
  | _ => rfl

end Stable

section Order
variable {α β : Type} {f : α → Read β}

/-- If one can go wrong by its shape only, a list can. -/
lemma mapM_shape (one : ∀ a, (∃ b, f a = .ok b) ∨ f a = .error .shape) (xs : List α) :
    (∃ bs, xs.mapM f = .ok bs) ∨ xs.mapM f = .error .shape := by
  induction xs with
  | nil => exact .inl ⟨[], rfl⟩
  | cons x rest ih =>
    rw [List.mapM_cons]
    obtain ⟨b, first⟩ | first := one x
    · obtain ⟨bs, later⟩ | later := ih
      · exact .inl ⟨b :: bs, by rw [first, later]; rfl⟩
      · exact .inr (by rw [first, later]; rfl)
    · exact .inr (by rw [first]; rfl)

/-- The order of reading does not matter where there is one fault only. -/
lemma mapM_perm (one : ∀ a, (∃ b, f a = .ok b) ∨ f a = .error .shape) {xs ys : List α}
    (h : xs.Perm ys) :
    (∃ bs cs, xs.mapM f = .ok bs ∧ ys.mapM f = .ok cs ∧ bs.Perm cs) ∨
      (xs.mapM f = .error .shape ∧ ys.mapM f = .error .shape) := by
  induction h with
  | nil => exact .inl ⟨[], [], rfl, rfl, .refl _⟩
  | cons x same ih =>
    rw [List.mapM_cons, List.mapM_cons]
    obtain ⟨b, first⟩ | first := one x
    · rcases ih with ⟨bs, cs, e, e', perm⟩ | ⟨e, e'⟩
      · rw [first, e, e']
        exact .inl ⟨b :: bs, b :: cs, rfl, rfl, perm.cons b⟩
      · rw [first, e, e']
        exact .inr ⟨rfl, rfl⟩
    · rw [first]
      exact .inr ⟨rfl, rfl⟩
  | swap x y rest =>
    simp only [List.mapM_cons]
    obtain ⟨b, first⟩ | first := one x <;> obtain ⟨c, second⟩ | second := one y <;>
      rw [first, second]
    · obtain ⟨ds, later⟩ | later := mapM_shape one rest <;> rw [later]
      · exact .inl ⟨c :: b :: ds, b :: c :: ds, rfl, rfl, .swap b c ds⟩
      · exact .inr ⟨rfl, rfl⟩
    all_goals exact .inr ⟨rfl, rfl⟩
  | trans _ _ ih ih' =>
    rcases ih with ⟨bs, cs, e, e', perm⟩ | ⟨e, e'⟩ <;>
      rcases ih' with ⟨cs', ds, f, f', perm'⟩ | ⟨f, f'⟩ <;> cases e'.symm.trans f
    · exact .inl ⟨bs, ds, e, f', perm.trans perm'⟩
    · exact .inr ⟨e, f'⟩

end Order

end Json

namespace Literal
open Json

mutual

/-- A literal is read of what is kept of its value. -/
lemma ofJson_kept : (j : Json) → ofJson j.kept = ofJson j
  | .null | .bool _ | .int _ | .double _ | .string _ | .object _ => rfl
  | .list items => by rw [kept, ofJson, ofJson, ofJsonList_kept items]

/-- The items of a literal list are read of what is kept of their values. -/
lemma ofJsonList_kept : (items : List Json) → ofJsonList (keptItems items) = ofJsonList items
  | [] => rfl
  | j :: rest => by
    rw [keptItems, ofJsonList, ofJsonList, ofJson_kept j, ofJsonList_kept rest]

end

/-- A literal is read of what is kept of it. -/
lemma stable_ofJson : Stable ofJson :=
  fun j _ => ofJson_kept j

end Literal

namespace NameMap
open Json

/-- The entry that a member stands for in a map of strings. -/
def readEntry (m : String × Json) : Read (String × String) := do
  return (m.1, ← asString m.2)

/-- An entry of a map can go wrong by its shape only. -/
lemma readEntry_shape (m : String × Json) :
    (∃ e, readEntry m = .ok e) ∨ readEntry m = .error .shape := by
  obtain ⟨name, v⟩ := m
  cases v with
  | string s => exact .inl ⟨(name, s), rfl⟩
  | _ => exact .inr rfl

/-- A map of strings has the names of the members that it is read from. -/
lemma names_of_mapM_readEntry {members : List (String × Json)} {entries}
    (h : members.mapM readEntry = .ok entries) : entries.map (·.1) = members.map (·.1) := by
  induction members generalizing entries with
  | nil =>
    cases h
    rfl
  | cons m rest ih =>
    rw [List.mapM_cons] at h
    obtain ⟨e, first, h⟩ := bind_eq_ok.1 h
    obtain ⟨es, later, h⟩ := bind_eq_ok.1 h
    cases h
    obtain ⟨s, -, same⟩ := bind_eq_ok.1 first
    cases same
    rw [List.map_cons, List.map_cons, ih later]

/-- The empty object is the empty map. -/
lemma ofJson_nil : ofJson (.object []) = .ok ∅ :=
  rfl

/-- A map is read of what is kept of it. -/
lemma stable_ofJson : Stable ofJson := by
  intro j distinct
  cases j with
  | object members =>
    obtain ⟨members', same, perm⟩ := kept_object distinct
    have values : (members.map fun m => (m.1, m.2.kept)).mapM readEntry = members.mapM readEntry := by
      rw [List.mapM_map]
      refine congrArg (members.mapM ·) (funext fun m => ?_)
      obtain ⟨name, v⟩ := m
      cases v <;> rfl
    have asEntries (ms : List (String × Json)) :
        ofJson (.object ms) = ofList <$> ms.mapM readEntry :=
      bind_pure_comp _ (ms.mapM readEntry)
    rw [same, asEntries, asEntries]
    obtain ⟨entries', entries, read', read, order⟩ | ⟨read', read⟩ := mapM_perm readEntry_shape perm
    · rw [values] at read
      have names := names_of_mapM_readEntry read
      rw [read', read]
      exact congrArg Except.ok (ofList_perm (names ▸ (distinct_object.1 distinct).1) order)
    · rw [values] at read
      rw [read', read]
  | _ => rfl

end NameMap

end QueryRecipe
