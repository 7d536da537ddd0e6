import QueryRecipe.CommandLine.Run
import QueryRecipe.Proofs.Json.Skipping
import QueryRecipe.Proofs.Step.Presentation

/-!
# Stored recipe documents

A stored document that repeats no name holds the recipe that its text holds, with the configured schema
where it is an object that names none (`recipeOf_eq_ofText`).
-/

namespace QueryRecipe

open Json (Record SameSeen Stable)

namespace Step
open Json

/-- The kind of a step is kept. -/
lemma kind?_kept {ms ms' : List (String × Json)}
    (perm : ms'.Perm (ms.map fun m => (m.1, m.2.kept))) : kind? ms' = kind? ms := by
  have types := perm.filter (·.1 == "type")
  rw [kind?_perm types]
  ext tag
  rw [kind?_eq_some, kind?_eq_some, List.filter_map]
  constructor
  · rintro ⟨name, only⟩
    obtain ⟨⟨name', v⟩, rest, e, same, none⟩ := List.map_eq_cons_iff.1 only
    cases List.map_eq_nil_iff.1 none
    cases v <;> cases same
    exact ⟨_, e⟩
  · rintro ⟨name, only⟩
    exact ⟨name, congrArg (List.map fun m : String × Json => (m.1, m.2.kept)) only⟩

/-- A step is read the same from what is kept of it. -/
lemma stable_ofJson : Stable ofJson := by
  intro j distinct
  cases j with
  | object ms =>
    obtain ⟨ms', same, perm⟩ := kept_object distinct
    rw [same, ofJson_object, ofJson_object, kind?_kept perm]
    cases kind? ms with
    | none => rfl
    | some tag =>
      refine ofFields_congr (alike_of_perm (fun m mem => ?_) ?_)
      · exact (distinct_object.1 distinct).2 m (List.mem_filter.1 mem).1
      · have fields := perm.filter (·.1 != "type")
        rwa [List.filter_map] at fields
  | list vs =>
    rw [kept_list]
    cases vs with
    | nil => rfl
    | cons v rest =>
      cases v with
      | string tag =>
        have fields : (Json.list rest).Distinct :=
          distinct_list.2 fun v mem => distinct_list.1 distinct v (List.mem_cons_of_mem _ mem)
        have same : ofFields tag (Json.list rest).kept = ofFields tag (.list rest) :=
          ofFields_congr (alike_kept fields)
        rw [kept_list] at same
        exact same
      | _ => rfl
  | _ => rfl

end Step

namespace Recipe

/-- A dialect is read of what is kept of it. -/
lemma dialectOfJson_kept {j : Json} (distinct : j.Distinct) :
    (dialectOfJson j.kept).toOption = (dialectOfJson j).toOption := by
  have twice {m m' : String × Json} {rest} :
      (dialectOfJson (.object (m :: m' :: rest))).toOption = none := by
    rw [dialectOfJson]
    cases Json.asChoice Dialect.named? Json.isNull (.object [(m.1, m.2)]) <;> rfl
  cases j with
  | object ms =>
    obtain ⟨rfl, same⟩ | ⟨name, v, rfl, -, same⟩ | ⟨m, n, rest, m', n', rest', rfl, same⟩ :=
      Json.kept_object_cases distinct
    · rw [same]
    · rw [same, dialectOfJson, dialectOfJson, Json.asChoice, Json.asChoice, Json.isNull_kept]
    · rw [same, twice, twice]
  | _ => rfl

/-- An optional dialect is read of what is kept of it. -/
lemma optional_dialectOfJson_kept {j : Json} (distinct : j.Distinct) :
    (Json.asOptional dialectOfJson j.kept).toOption = (Json.asOptional dialectOfJson j).toOption := by
  have given {x y : Json.Read Dialect} (same : x.toOption = y.toOption) :
      (some <$> x).toOption = (some <$> y).toOption := by
    rw [toOption_map, toOption_map, same]
  cases j with
  | null => rfl
  | _ => exact given (dialectOfJson_kept distinct)

namespace Draft
variable {d : Draft} {name : String} {j j' : Json}

/-- A member that is no field is passed over. -/
lemma add_other (h : name ∉ fieldNames) : d.add (name, j) = .ok d := by
  simp only [fieldNames, List.mem_cons, List.not_mem_nil, or_false, not_or] at h
  rw [add]
  · rfl
  all_goals simp [h]

/-- A member is one of the four fields or none. -/
lemma name_cases (name : String) : name = "source_schema" ∨ name = "source_table" ∨ name = "steps" ∨
    name = "dialect" ∨ name ∉ fieldNames := by
  by_cases mem : name ∈ fieldNames
  · simp only [fieldNames, List.mem_cons, List.not_mem_nil, or_false] at mem
    tauto
  · simp [mem]

/-- What is read for the field of one name, if it can be read and is given once at most. -/
def slot {α : Type} (name : String) (read : Json → Json.Read α) (given : Option α) :
    List (String × Json) → Option (Option α)
  | [] => some given
  | m :: ms =>
    if m.1 = name then (once given read m.2).toOption.bind (slot name read · ms)
    else slot name read given ms

/-- Every field is read by itself. -/
lemma toOption_foldlM (d : Draft) (ms : List (String × Json)) :
    (ms.foldlM add d).toOption = do
      let schema ← slot "source_schema" Json.asString d.schema ms
      let table ← slot "source_table" Json.asString d.table ms
      let steps ← slot "steps" (Json.asList Step.ofJson) d.steps ms
      let dialect ← slot "dialect" (Json.asOptional dialectOfJson) d.dialect ms
      return ⟨schema, table, steps, dialect⟩ := by
  -- a fault of one field leaves nothing of the others, wherever its member stands among theirs
  induction ms generalizing d with
  | nil => rfl
  | cons m ms ih =>
    obtain ⟨name, j⟩ := m
    rw [List.foldlM_cons]
    rcases name_cases name with rfl | rfl | rfl | rfl | other
    · rw [add]
      simp only [slot, if_true, String.reduceEq, if_false]
      cases once d.schema Json.asString j with
      | error e => rfl
      | ok x => exact ih { d with schema := x }
    · rw [add]
      simp only [slot, if_true, String.reduceEq, if_false]
      cases once d.table Json.asString j with
      | error e => simp [Except.toOption, bind, Except.bind]
      | ok x => exact ih { d with table := x }
    · rw [add]
      simp only [slot, if_true, String.reduceEq, if_false]
      cases once d.steps (Json.asList Step.ofJson) j with
      | error e => simp [Except.toOption, bind, Except.bind]
      | ok x => exact ih { d with steps := x }
    · rw [add]
      simp only [slot, if_true, String.reduceEq, if_false]
      cases once d.dialect (Json.asOptional dialectOfJson) j with
      | error e => simp [Except.toOption, bind, Except.bind]
      | ok x => exact ih { d with dialect := x }
    · rw [add_other other, ok_bind, ih]
      simp only [fieldNames, List.mem_cons, List.not_mem_nil, or_false, not_or] at other
      simp only [slot, other, if_false]

section Slot
variable {α : Type} {read : Json → Json.Read α} {given : Option α} {ms ms' : List (String × Json)}

/-- Of one field only what is given under its name counts. -/
lemma slot_eq : slot name read given ms =
    match (Record.members ms).given? 0 [name] with
    | .ok none => some given
    | .ok (some j) => (once given read j).toOption
    | .error _ => none := by
  induction ms generalizing given with
  | nil => rfl
  | cons m ms ih =>
    rw [slot]
    simp only [Record.given?_members] at ih ⊢
    by_cases own : m.1 = name
    · rw [if_pos own, Record.valuesOf_cons_pos (List.mem_singleton.2 own)]
      simp only [ih]
      generalize Record.valuesOf [name] ms = others
      rcases others with _ | ⟨j, _ | ⟨j', rest⟩⟩
      · exact Option.bind_fun_some _
      · cases given with
        | some a => rfl
        | none => cases e : read m.2 <;> simp [once, e, Except.toOption]
      · exact Option.bind_fun_none _
    · rw [if_neg own, Record.valuesOf_cons_neg (mt List.mem_singleton.1 own), ih]

/-- The order of the values does not count. -/
lemma slot_congr {f : Json → Json}
    (perm : (Record.valuesOf [name] ms').Perm ((Record.valuesOf [name] ms).map f))
    (same : ∀ m ∈ ms, (read (f m.2)).toOption = (read m.2).toOption) :
    slot name read given ms' = slot name read given ms := by
  rw [slot_eq, slot_eq, Record.given?_map_of_perm perm]
  cases value : (Record.members ms).given? 0 [name] with
  | error e => rfl
  | ok j? =>
    cases j? with
    | none => rfl
    | some j =>
      obtain ⟨m, mem, rfl⟩ := Record.mem_of_given? value
      change (once given read (f m.2)).toOption = (once given read m.2).toOption
      rw [once, once]
      split
      · rfl
      · rw [toOption_map, toOption_map, same m mem]

/-- A field that no member names keeps what has been given. -/
lemma slot_absent (absent : name ∉ ms.map (·.1)) : slot name read given ms = some given := by
  have none : Record.valuesOf [name] ms = [] := by
    refine Record.valuesOf_eq_nil fun m mem own => absent ?_
    exact List.mem_map.2 ⟨m, mem, List.mem_singleton.1 own⟩
  rw [slot_eq, Record.given?_members, none]

end Slot

end Draft

/-- A recipe depends on what is read for its fields. -/
lemma toOption_ofMembers (ms : List (String × Json)) : (ofMembers ms).toOption = (do
    let schema ← Draft.slot "source_schema" Json.asString none ms
    let table ← Draft.slot "source_table" Json.asString none ms
    let steps ← Draft.slot "steps" (Json.asList Step.ofJson) none ms
    let dialect ← Draft.slot "dialect" (Json.asOptional dialectOfJson) none ms
    (Draft.mk schema table steps dialect).recipe.toOption) := by
  have drafts : (ofMembers ms).toOption =
      (ms.foldlM Draft.add {}).toOption.bind (·.recipe.toOption) := by
    rw [ofMembers]
    cases ms.foldlM Draft.add {} <;> rfl
  rw [drafts, Draft.toOption_foldlM]
  simp [Option.bind_assoc]

section Same
variable {ms ms' : List (String × Json)}

/-- Members that are kept of others, in any order, make the same recipe or none. -/
lemma ofMembers_kept (distinct : ∀ m ∈ ms, m.2.Distinct)
    (perm : ms'.Perm (ms.map fun m => (m.1, m.2.kept))) :
    (ofMembers ms').toOption = (ofMembers ms).toOption := by
  have stable {α : Type} {read : Json → Json.Read α} (h : Stable read) (m : String × Json)
      (mem : m ∈ ms) : (read m.2.kept).toOption = (read m.2).toOption :=
    congrArg Except.toOption (h m.2 (distinct m mem))
  rw [toOption_ofMembers, toOption_ofMembers,
    Draft.slot_congr (Record.valuesOf_perm perm) (stable Json.stable_asString),
    Draft.slot_congr (Record.valuesOf_perm perm) (stable Json.stable_asString),
    Draft.slot_congr (Record.valuesOf_perm perm) (stable Step.stable_ofJson.asList),
    Draft.slot_congr (Record.valuesOf_perm perm) fun m mem =>
      optional_dialectOfJson_kept (distinct m mem)]

/-- Members that differ where nobody looks make the same recipe or none. -/
lemma ofMembers_sameMembers (same : Json.SameMembers (fun name => !fieldNames.contains name) ms ms') :
    (ofMembers ms').toOption = (ofMembers ms).toOption := by
  have values {name : String} (field : name ∈ fieldNames) : (Record.valuesOf [name] ms').Perm
      ((Record.valuesOf [name] ms).map id) := by
    refine .of_eq ?_
    rw [List.map_id]
    induction same with
    | nil => rfl
    | @cons m m' rest rest' both _ ih =>
      obtain ⟨names, value⟩ := both
      by_cases own : m.1 = name
      · have own' : m'.1 = name := names ▸ own
        have equal : m.2 = m'.2 := value (by simp [own, field])
        rw [Record.valuesOf_cons_pos (List.mem_singleton.2 own'),
          Record.valuesOf_cons_pos (List.mem_singleton.2 own), ih, equal]
      · have other : ¬m'.1 = name := fun own' => own (names.trans own')
        rw [Record.valuesOf_cons_neg (mt List.mem_singleton.1 other),
          Record.valuesOf_cons_neg (mt List.mem_singleton.1 own), ih]
  rw [toOption_ofMembers, toOption_ofMembers,
    Draft.slot_congr (values (by decide)) fun _ _ => rfl,
    Draft.slot_congr (values (by decide)) fun _ _ => rfl,
    Draft.slot_congr (values (by decide)) fun _ _ => rfl,
    Draft.slot_congr (values (by decide)) fun _ _ => rfl]

/-- The schema of a recipe whose members name none can be given with one more member. -/
lemma ofMembers_schema {schema : String} (absent : "source_schema" ∉ ms.map (·.1)) :
    (ofMembers (("source_schema", .string schema) :: ms)).toOption =
      (ofMembers ms).toOption.map fun r => { r with schema } := by
  have here : Draft.slot "source_schema" Json.asString none (("source_schema", .string schema) :: ms) =
      some (some schema) :=
    Draft.slot_absent absent
  rw [toOption_ofMembers, toOption_ofMembers, here, Draft.slot_absent absent]
  simp only [Draft.slot, String.reduceEq, if_false, Option.bind_eq_bind, Option.bind_some]
  rcases Draft.slot "source_table" Json.asString none ms with _ | _ | table <;>
    rcases Draft.slot "steps" (Json.asList Step.ofJson) none ms with _ | steps <;>
    rcases Draft.slot "dialect" (Json.asOptional dialectOfJson) none ms with _ | dialect <;> rfl

/-- A recipe whose members name no schema has the usual one. -/
lemma schema_of_ofMembers {r : Recipe} (absent : "source_schema" ∉ ms.map (·.1))
    (read : ofMembers ms = .ok r) : r.schema = "public" := by
  have fields := (toOption_ofMembers ms).symm
  rw [read, Draft.slot_absent absent] at fields
  obtain ⟨schema, given, fields⟩ := Option.bind_eq_some_iff.1 fields
  obtain ⟨table, -, fields⟩ := Option.bind_eq_some_iff.1 fields
  obtain ⟨steps, -, fields⟩ := Option.bind_eq_some_iff.1 fields
  obtain ⟨dialect, -, made⟩ := Option.bind_eq_some_iff.1 fields
  cases given
  cases table <;> cases made
  rfl

end Same

/-- Whether a document is an object with no member of this name. -/
def lacks (name : String) : Json → Bool
  | .object ms => !ms.any (·.1 == name)
  | _ => false

/-- A document that lacks a member has none of its name. -/
lemma names_of_lacks {name : String} {ms : List (String × Json)} (h : lacks name (.object ms)) :
    name ∉ ms.map (·.1) := by
  intro mem
  obtain ⟨m, listed, rfl⟩ := List.mem_map.1 mem
  rw [lacks, Bool.not_eq_true'] at h
  exact List.any_eq_false.1 h m listed BEq.rfl

section Document
variable {text : String} {j j' : Json}

/-- Documents that differ where nobody looks hold the same recipe or none. -/
lemma ofJson_sameSeen (same : SameSeen (fun name => !fieldNames.contains name) j j') :
    (ofJson j').toOption = (ofJson j).toOption := by
  cases same with
  | same => rfl
  | object members => exact ofMembers_sameMembers members

/-- Where the whole of a text can be read, it holds the recipe of its document. -/
lemma toOption_ofText (read : Json.read text = .ok j) :
    (ofText text).toOption = (ofJson j).toOption := by
  obtain ⟨j', seen, same⟩ := Json.readSkipping_of_read (fun name => !fieldNames.contains name) read
  rw [ofText, seen]
  exact ofJson_sameSeen same

/-- A list holds the recipe of its values under the names of the fields, if it is not too long. -/
lemma toOption_ofJson_list {vs : List Json} : (ofJson (.list vs)).toOption =
    if vs.length ≤ fieldNames.length then (ofMembers (fieldNames.zip vs)).toOption else none := by
  rw [ofJson]
  cases ofMembers (fieldNames.zip vs) <;> split <;> rfl

/-- What is kept of a document holds its recipe, with another schema if it names none. -/
lemma toOption_ofDocument (schema : String) (distinct : j.Distinct) :
    (ofDocument schema j.kept).toOption =
      (ofJson j).toOption.map fun r => if lacks "source_schema" j then { r with schema } else r := by
  have unchanged : ∀ r : Option Recipe, r.map (fun r => if false then { r with schema } else r) = r := by
    rintro (_ | r) <;> rfl
  cases j with
  | object ms =>
    obtain ⟨ms', same, perm⟩ := Json.kept_object distinct
    have values := (Json.distinct_object.1 distinct).2
    have present : ms'.any (·.1 == "source_schema") = ms.any (·.1 == "source_schema") :=
      perm.any_eq.trans List.any_map
    rw [ofDocument, same, Json.withDefault, present, lacks]
    cases named : ms.any (·.1 == "source_schema") with
    | true => exact (ofMembers_kept values perm).trans (unchanged _).symm
    | false =>
      have absent : "source_schema" ∉ ms.map (·.1) := names_of_lacks (by rw [lacks, named]; rfl)
      have absent' : "source_schema" ∉ ms'.map (·.1) :=
        names_of_lacks (by rw [lacks, present, named]; rfl)
      have filled : (NameMap.insertEntry "source_schema" (.string schema) ms').Perm
          ((("source_schema", .string schema) :: ms).map fun m => (m.1, m.2.kept)) :=
        (NameMap.insertEntry_perm absent').trans (perm.cons _)
      refine (ofMembers_kept ?_ filled).trans (ofMembers_schema absent)
      exact List.forall_mem_cons.2 ⟨trivial, values⟩
  | list vs =>
    have values := Json.distinct_list.1 distinct
    have fields : (fieldNames.zip (vs.map Json.kept)).Perm
        ((fieldNames.zip vs).map fun m => (m.1, m.2.kept)) := by
      rw [List.zip_map_right]
      exact .refl _
    have same : (ofJson (.list (vs.map Json.kept))).toOption = (ofJson (.list vs)).toOption := by
      rw [toOption_ofJson_list, toOption_ofJson_list, List.length_map,
        ofMembers_kept (fun m mem => values m.2 (List.of_mem_zip mem).2) fields]
    rw [Json.kept_list]
    exact same.trans (unchanged _).symm
  | _ => rfl

/-- A recipe whose document names no schema has the usual one. -/
lemma schema_of_lacks {r : Recipe} (lacking : lacks "source_schema" j) (read : ofJson j = .ok r) :
    r.schema = "public" := by
  cases j with
  | object ms => exact schema_of_ofMembers (names_of_lacks lacking) read
  | _ => cases lacking

end Document

end Recipe

namespace CommandLine
open Recipe (lacks)

/-- The recipe of a stored document that repeats no name is the one that its text holds, and there is
none exactly if the text holds none. A document that is an object without a schema gets the configured
schema in place of the usual one. -/
theorem recipeOf_eq_ofText (path : String) (config : Config) {text : String} {j : Json}
    (read : Json.read text = .ok j) (distinct : j.Distinct) :
    (recipeOf path config (.ok text) =
        match Recipe.ofText text with
        | .ok r => .ok (if lacks "source_schema" j then { r with schema := config.defaultSchema } else r)
        | .error _ => .error (.notRecipe path)) ∧
      ∀ r, lacks "source_schema" j → Recipe.ofText text = .ok r → r.schema = "public" := by
  have holds : (Recipe.ofText text).toOption = (Recipe.ofJson j).toOption := Recipe.toOption_ofText read
  constructor
  · have document : Recipe.documentOf text = .ok j.kept := by
      rw [Recipe.documentOf, read]
      rfl
    have loaded : recipeOf path config (.ok text) =
        (Recipe.ofDocument config.defaultSchema j.kept).mapError fun _ => .notRecipe path := by
      simp only [recipeOf, Except.mapError, document, ok_bind]
    have stored := Recipe.toOption_ofDocument config.defaultSchema distinct
    rw [← holds] at stored
    rw [loaded]
    cases made : Recipe.ofText text with
    | ok r =>
      rw [made] at stored
      rw [toOption_eq_some.1 stored]
      rfl
    | error e =>
      rw [made] at stored
      cases kept : Recipe.ofDocument config.defaultSchema j.kept with
      | ok r =>
        rw [kept] at stored
        cases stored
      | error e => rfl
  · intro r lacking made
    rw [made] at holds
    exact Recipe.schema_of_lacks lacking (toOption_eq_some.1 holds.symm)

/-- The document names no schema; it has a member that is no field and a number beyond the signed ones. -/
theorem recipeOf_eq_ofText_unnamed :
    recipeOf "orders.json" { defaultSchema := "sales" } (.ok <| "\x7b\"steps\": [[\"limit\", " ++
        "18446744073709551615]], \"note\": 1, \"source_table\": \"orders\"\x7d") =
      .ok { schema := "sales", table := "orders", steps := [.limit (some 18446744073709551615) none] } := by
  have read : Json.read ("\x7b\"steps\": [[\"limit\", " ++
      "18446744073709551615]], \"note\": 1, \"source_table\": \"orders\"\x7d") =
        .ok (.object [("steps", .list [.list [.string "limit", .int 18446744073709551615]]),
          ("note", .int 1), ("source_table", .string "orders")]) := by
    rfl
  have distinct : (Json.object [("steps", .list [.list [.string "limit", .int 18446744073709551615]]),
      ("note", .int 1), ("source_table", .string "orders")]).Distinct := by
    simp [Json.Distinct, Json.DistinctItems, Json.DistinctMembers]
  rw [(recipeOf_eq_ofText "orders.json" _ read distinct).1]
  rfl

end CommandLine

end QueryRecipe
