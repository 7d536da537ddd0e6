import QueryRecipe.Proofs.Results
import QueryRecipe.Recipe

/-!
# Recipes are read as they are written

Literals, steps and recipes are read from the JSON values that they are written as
(`Recipe.ofJson_toJson`).
-/

namespace QueryRecipe

namespace Json

/-- A list is read back if its items are. -/
lemma asList_map {α : Type} {read : Json → Read α} {write : α → Json}
    (same : ∀ a, read (write a) = .ok a) (l : List α) : asList read (.list (l.map write)) = .ok l := by
  rw [asList]
  induction l with
  | nil => rfl
  | cons a l ih =>
    rw [List.map_cons, List.mapM_cons, same, ih]
    rfl

/-- A list of texts is read back. -/
lemma asList_ofStrings (l : List String) : asList asString (ofStrings l) = .ok l := by
  have same (s : String) : asString (.string s) = .ok s := rfl
  exact asList_map same l

/-- An optional text is read back. -/
lemma asOptional_ofOptional (s : Option String) : asOptional asString (ofOptional s) = .ok s := by
  cases s <;> rfl

/-- A count is read back. -/
lemma asUInt64_toNat (n : UInt64) : asUInt64 (.int n.toNat) = .ok n := by
  rw [asUInt64, if_pos ⟨Int.natCast_nonneg _, n.toNat_lt⟩, Int.toNat_natCast, UInt64.ofNat_toNat]

/-- An optional count is read back. -/
lemma asOptional_ofCount (n : Option UInt64) : asOptional asUInt64 (ofCount n) = .ok n := by
  cases n with
  | none => rfl
  | some n => exact congrArg (some <$> ·) (asUInt64_toNat n)

/-- A field that is given once is read from its member. -/
lemma field_members {α : Type} {default : α} {position names} {read : Json → Read α}
    {members : List (String × Json)} {name j}
    (once : members.filter (names.contains ·.1) = [(name, j)]) :
    (Record.members members).field position names read default = read j := by
  rw [Record.field, Record.given?, once]
  rfl

end Json

namespace Literal

mutual

/-- A literal is read back. -/
lemma ofJson_toJson : (v : Literal) → ofJson v.toJson = .ok v
  | .null => rfl
  | .bool _ => rfl
  | .int n => by
    rw [toJson, ofJson, ofInt, if_pos ⟨n.minValue_le_toInt, n.toInt_le⟩, Int64.ofInt_toInt]
  | .double _ => rfl
  | .string _ => rfl
  | .list items => by
    rw [toJson, ofJson, ofJsonList_toJsonList items]
    rfl

/-- The items of a literal list are read back. -/
lemma ofJsonList_toJsonList : (items : List Literal) → ofJsonList (toJsonList items) = .ok items
  | [] => rfl
  | v :: rest => by
    rw [toJsonList, ofJsonList, ofJson_toJson v, ofJsonList_toJsonList rest]
    rfl

end

end Literal

namespace NameMap
variable {α : Type}

/-- An entry with a later name is put at the end. -/
lemma insertEntry_append {name : String} {value : α} {l : List (String × α)}
    (h : ∀ e ∈ l, e.1 < name) : insertEntry name value l = l ++ [(name, value)] := by
  induction l with
  | nil => rfl
  | cons e l ih =>
    obtain ⟨first, others⟩ := List.forall_mem_cons.1 h
    rw [insertEntry, if_neg (String.lt_asymm first), if_neg (String.ne_of_lt first).symm, ih others]
    rfl

/-- A map is known by its entries. -/
lemma eq_of_entries {m n : NameMap α} (h : m.entries = n.entries) : m = n := by
  cases m
  cases n
  cases h
  rfl

/-- Entries in their order are put behind each other. -/
lemma entries_foldl {l : List (String × α)} {m : NameMap α}
    (sorted : (m.entries ++ l).Pairwise fun a b => a.1 < b.1) :
    (l.foldl (fun m e => m.insert e.1 e.2) m).entries = m.entries ++ l := by
  induction l generalizing m with
  | nil => rw [List.append_nil]; rfl
  | cons e l ih =>
    have inserted : (m.insert e.1 e.2).entries = m.entries ++ [e] :=
      insertEntry_append fun a mem =>
        (List.pairwise_append.1 sorted).2.2 a mem e List.mem_cons_self
    rw [List.foldl_cons, ih]
    · rw [inserted, List.append_assoc, List.singleton_append]
    · rwa [inserted, List.append_assoc, List.singleton_append]

/-- A map is the map of its entries. -/
lemma ofList_entries (m : NameMap α) : ofList m.entries = m :=
  eq_of_entries (entries_foldl (m := ∅) m.sorted)

/-- A map is read back from its entries. -/
lemma ofJson_entries (m : NameMap String) :
    ofJson (.object (m.entries.map fun e => (e.1, .string e.2))) = .ok m := by
  have read : (m.entries.map fun e => (e.1, Json.string e.2)).mapM
      (fun e => do return (e.1, ← Json.asString e.2)) = (.ok m.entries : Json.Read _) := by
    induction m.entries with
    | nil => rfl
    | cons e l ih =>
      rw [List.map_cons, List.mapM_cons, ih]
      rfl
  rw [ofJson, read]
  exact congrArg Except.ok m.ofList_entries

end NameMap

section Records
open Json

/-- A filter condition is read back. -/
lemma FilterCondition.ofJson_toJson (c : FilterCondition) : ofJson c.toJson = .ok c := by
  rw [toJson, ofJson, record, ok_bind, field_members rfl, field_members rfl, field_members rfl,
    asOptional_ofOptional, Literal.ofJson_toJson]
  rfl

/-- A sort key is read back. -/
lemma SortKey.ofJson_toJson (k : SortKey) : ofJson k.toJson = .ok k := by
  rw [toJson, ofJson, record, ok_bind, field_members rfl, field_members rfl, asOptional_ofOptional]
  rfl

/-- A join key is read back. -/
lemma JoinKey.ofJson_toJson (k : JoinKey) : ofJson k.toJson = .ok k := by
  rw [toJson, ofJson, record, ok_bind, field_members rfl, field_members rfl]
  rfl

/-- An aggregate is read back. -/
lemma Aggregation.ofJson_toJson (a : Aggregation) : ofJson a.toJson = .ok a := by
  rw [toJson, ofJson, record, ok_bind, field_members rfl, field_members rfl, field_members rfl,
    asOptional_ofOptional, asOptional_ofOptional]
  rfl

end Records

namespace Step
open Json

/-- The kind of a step is told from its fields by the name of its member. -/
lemma ofJson_toJson_eq (s : Step) : ofJson s.toJson = ofRecord s.tag (.members s.fields) := by
  cases s <;> rfl

/-- A step is read as it is written. -/
lemma ofJson_toJson (s : Step) : ofJson s.toJson = .ok s := by
  rw [ofJson_toJson_eq]
  cases s with
  | select columns | reorder columns | dropColumn columns | deduplicate columns =>
    rw [tag, ofRecord, fields, field_members rfl, asList_ofStrings]
    rfl
  | rename mapping =>
    rw [tag, ofRecord, fields, field_members rfl, NameMap.ofJson_entries]
    rfl
  | cast column dataType =>
    rw [tag, ofRecord, fields, field_members rfl, field_members rfl]
    rfl
  | addColumn name expression =>
    rw [tag, ofRecord, fields, field_members rfl, field_members rfl, asOptional_ofOptional,
      asOptional_ofOptional]
    rfl
  | filter conditions connective =>
    rw [tag, ofRecord, fields, field_members rfl, field_members rfl,
      asList_map FilterCondition.ofJson_toJson, asOptional_ofOptional]
    rfl
  | sort keys =>
    rw [tag, ofRecord, fields, field_members rfl, asList_map SortKey.ofJson_toJson]
    rfl
  | limit count offset =>
    rw [tag, ofRecord, fields, field_members rfl, field_members rfl, asOptional_ofCount,
      asOptional_ofCount]
    rfl
  | replace column old new expression =>
    rw [tag, ofRecord, fields, field_members rfl, field_members rfl, field_members rfl,
      field_members rfl, asOptional_ofOptional, Literal.ofJson_toJson, asOptional_ofOptional]
    rfl
  | trim column side =>
    rw [tag, ofRecord, fields, field_members rfl, field_members rfl]
    cases side <;> rfl
  | recase column mode =>
    rw [tag, ofRecord, fields, field_members rfl, field_members rfl]
    cases mode with
    | none => rfl
    | some mode => cases mode <;> rfl
  | fillNull column value emptyToo =>
    rw [tag, ofRecord, fields, field_members rfl, field_members rfl, field_members rfl,
      Literal.ofJson_toJson]
    rfl
  | join table schema kind label keys columns =>
    rw [tag, ofRecord, fields, field_members rfl, field_members rfl, field_members rfl,
      field_members rfl, field_members rfl, field_members rfl, asOptional_ofOptional,
      asOptional_ofOptional, asOptional_ofOptional, asList_map JoinKey.ofJson_toJson, asList_ofStrings]
    rfl
  | union table schema all =>
    rw [tag, ofRecord, fields, field_members rfl, field_members rfl, field_members rfl,
      asOptional_ofOptional]
    rfl
  | groupBy columns aggregations =>
    rw [tag, ofRecord, fields, field_members rfl, field_members rfl, asList_ofStrings,
      asList_map Aggregation.ofJson_toJson]
    rfl

end Step

namespace Recipe
open Json

/-- A recipe is read as it is written. -/
theorem ofJson_toJson (r : Recipe) : ofJson r.toJson = .ok r := by
  have steps : Draft.once none (asList Step.ofJson) (.list (r.steps.map Step.toJson)) =
      .ok (some r.steps) := by
    rw [Draft.once, asList_map Step.ofJson_toJson]
    rfl
  have fields : [("source_schema", Json.string r.schema), ("source_table", .string r.table),
      ("steps", .list (r.steps.map Step.toJson))].foldlM Draft.add {} =
      (.ok { schema := some r.schema, table := some r.table, steps := some r.steps } : Read Draft) := by
    show Draft.add { schema := some r.schema, table := some r.table }
      ("steps", .list (r.steps.map Step.toJson)) >>= pure = _
    rw [Draft.add, steps]
    rfl
  rw [toJson, ofJson, ofMembers, List.foldlM_append, fields, ok_bind]
  cases r with
  | mk schema table steps dialect =>
    cases dialect with
    | none => rfl
    | some dialect => cases dialect <;> rfl

end Recipe

end QueryRecipe
