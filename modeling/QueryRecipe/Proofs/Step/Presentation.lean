import QueryRecipe.Proofs.Json.Record

/-!
# How steps are presented

A step, a condition, a sort key, a join key and an aggregate are read alike however their records are
presented, as objects or as lists (`Step.ofJson_alike`).
-/

namespace QueryRecipe

open Json (Field Alike Apart Record ReadAlike Restated Stable)

namespace FilterCondition

/-- The fields of a condition. -/
def form : List Field :=
  [⟨["column"], .string ""⟩, ⟨["operator"], .null⟩, ⟨["value"], .null⟩]

/-- A condition is read alike however it is presented. -/
lemma ofJson_congr {j j'} (h : Alike form j j') : ofJson j = ofJson j' := by
  refine h.bind fun r r' agree => ?_
  rw [agree.field (i := 0) rfl Json.stable_asString rfl,
    agree.field (i := 1) rfl Json.stable_asString.asOptional rfl,
    agree.field (i := 2) rfl Literal.stable_ofJson rfl]

end FilterCondition

namespace SortKey

/-- The fields of a sort key. -/
def form : List Field :=
  [⟨["column"], .string ""⟩, ⟨["direction"], .null⟩]

/-- A sort key is read alike however it is presented. -/
lemma ofJson_congr {j j'} (h : Alike form j j') : ofJson j = ofJson j' := by
  refine h.bind fun r r' agree => ?_
  rw [agree.field (i := 0) rfl Json.stable_asString rfl,
    agree.field (i := 1) rfl Json.stable_asString.asOptional rfl]

end SortKey

namespace JoinKey

/-- The fields of a join key. -/
def form : List Field :=
  [⟨["left"], .string ""⟩, ⟨["right"], .string ""⟩]

/-- A join key is read alike however it is presented. -/
lemma ofJson_congr {j j'} (h : Alike form j j') : ofJson j = ofJson j' := by
  refine h.bind fun r r' agree => ?_
  rw [agree.field (i := 0) rfl Json.stable_asString rfl,
    agree.field (i := 1) rfl Json.stable_asString rfl]

end JoinKey

namespace Aggregation

/-- The fields of an aggregate. -/
def form : List Field :=
  [⟨["column"], .string ""⟩, ⟨["function"], .null⟩, ⟨["alias"], .null⟩]

/-- An aggregation is read alike however it is presented. -/
lemma ofJson_congr {j j'} (h : Alike form j j') : ofJson j = ofJson j' := by
  refine h.bind fun r r' agree => ?_
  rw [agree.field (i := 0) rfl Json.stable_asString rfl,
    agree.field (i := 1) rfl Json.stable_asString.asOptional rfl,
    agree.field (i := 2) rfl Json.stable_asString.asOptional rfl]

end Aggregation

namespace Step
open Json

/-- The fields of the steps of a kind, in their order; a kind that there is not has none. -/
def form : String → List Field
  | "select" | "reorder" | "drop_column" | "sort" | "deduplicate" => [⟨["columns"], .list []⟩]
  | "rename" => [⟨["mapping"], .object []⟩]
  | "cast" => [⟨["column"], .string ""⟩, ⟨["data_type", "target_type", "to"], .string ""⟩]
  | "add_column" => [⟨["name"], .null⟩, ⟨["expression"], .null⟩]
  | "filter" => [⟨["conditions"], .list []⟩, ⟨["logic"], .null⟩]
  | "limit" => [⟨["count"], .null⟩, ⟨["offset"], .null⟩]
  | "replace" =>
    [⟨["column"], .string ""⟩, ⟨["old_value"], .null⟩, ⟨["new_value"], .null⟩,
      ⟨["expression"], .null⟩]
  | "trim" => [⟨["column"], .string ""⟩, ⟨["side"], .string "both"⟩]
  | "case" => [⟨["column"], .string ""⟩, ⟨["mode"], .null⟩]
  | "fill_null" => [⟨["column"], .string ""⟩, ⟨["value"], .null⟩, ⟨["include_empty"], .bool true⟩]
  | "join" =>
    [⟨["table"], .string ""⟩, ⟨["schema"], .null⟩, ⟨["join_type"], .null⟩, ⟨["alias"], .null⟩,
      ⟨["on"], .list []⟩, ⟨["select_columns"], .list []⟩]
  | "union" => [⟨["table"], .string ""⟩, ⟨["schema"], .null⟩, ⟨["all"], .bool false⟩]
  | "group_by" => [⟨["columns"], .list []⟩, ⟨["aggregations"], .list []⟩]
  | _ => []

/-- No two fields of a kind of step share a name. -/
lemma apart_form (tag : String) : Apart (form tag) := by
  unfold form
  split <;> decide

/-- No field of a kind of step is named like the tag. -/
lemma type_free (tag : String) : ∀ f ∈ form tag, "type" ∉ f.names := by
  unfold form
  split <;> decide

/-- The list of a step of a kind may have as many fields as the kind has. -/
lemma arity?_eq (tag : String) :
    arity? tag = some (form tag).length ∨ (arity? tag = none ∧ form tag = []) := by
  unfold arity? form
  split <;> simp

/-- The kinds of a step have the fields that steps of the kind are written with, in that order. -/
lemma names_fields (s : Step) : s.fields.map (·.1) = (form s.tag).map Field.name := by
  cases s <;> rfl

/-- Steps of a kind are read by the fields of the kind. -/
lemma ofRecord_congr {tag r r'} (agree : Record.Agree (form tag) r r') :
    ofRecord tag r = ofRecord tag r' := by
  have text := stable_asString
  have optional := text.asOptional
  have texts := text.asList
  have count := stable_asUInt64.asOptional
  have conditions := (stable_of_alike fun _ _ => FilterCondition.ofJson_congr).asList
  have sortKeys := (stable_of_alike fun _ _ => SortKey.ofJson_congr).asList
  have joinKeys := (stable_of_alike fun _ _ => JoinKey.ofJson_congr).asList
  have aggregations := (stable_of_alike fun _ _ => Aggregation.ofJson_congr).asList
  have side : Stable (asChoice TrimSide.named? isNothing) := stable_asChoice fun _ => isNothing_kept
  have mode : Stable (asChoice LetterCase.named? isNothing) :=
    stable_asChoice fun _ => isNothing_kept
  unfold ofRecord
  dsimp only
  -- a case for each kind, in the order of the definition: its fields by their places
  split
  case h_1 | h_3 | h_6 | h_9 => rw [agree.field (i := 0) rfl texts asList_nil]
  case h_2 => rw [agree.field (i := 0) rfl NameMap.stable_ofJson NameMap.ofJson_nil]
  case h_4 => rw [agree.field (i := 0) rfl text rfl, agree.field (i := 1) rfl text rfl]
  case h_5 => rw [agree.field (i := 0) rfl optional rfl, agree.field (i := 1) rfl optional rfl]
  case h_7 =>
    rw [agree.field (i := 0) rfl conditions asList_nil, agree.field (i := 1) rfl optional rfl]
  case h_8 => rw [agree.field (i := 0) rfl sortKeys asList_nil]
  case h_10 => rw [agree.field (i := 0) rfl count rfl, agree.field (i := 1) rfl count rfl]
  case h_11 =>
    rw [agree.field (i := 0) rfl text rfl, agree.field (i := 1) rfl optional rfl,
      agree.field (i := 2) rfl Literal.stable_ofJson rfl, agree.field (i := 3) rfl optional rfl]
  case h_12 => rw [agree.field (i := 0) rfl text rfl, agree.field (i := 1) rfl side rfl]
  case h_13 => rw [agree.field (i := 0) rfl text rfl, agree.field (i := 1) rfl mode.asOptional rfl]
  case h_14 =>
    rw [agree.field (i := 0) rfl text rfl, agree.field (i := 1) rfl Literal.stable_ofJson rfl,
      agree.field (i := 2) rfl stable_asBool rfl]
  case h_15 =>
    rw [agree.field (i := 0) rfl text rfl, agree.field (i := 1) rfl optional rfl,
      agree.field (i := 2) rfl optional rfl, agree.field (i := 3) rfl optional rfl,
      agree.field (i := 4) rfl joinKeys asList_nil, agree.field (i := 5) rfl texts asList_nil]
  case h_16 =>
    rw [agree.field (i := 0) rfl text rfl, agree.field (i := 1) rfl optional rfl,
      agree.field (i := 2) rfl stable_asBool rfl]
  case h_17 =>
    rw [agree.field (i := 0) rfl texts asList_nil, agree.field (i := 1) rfl aggregations asList_nil]
  -- there is no such kind
  case h_18 => rfl

/-- The fields of a kind of step are read alike however they are presented. -/
lemma ofFields_congr {tag j j'} (h : Alike (form tag) j j') : ofFields tag j = ofFields tag j' := by
  rw [ofFields, ofFields]
  obtain arity | ⟨arity, -⟩ := arity?_eq tag
  · rw [arity]
    exact h.bind fun _ _ => ofRecord_congr
  · rw [arity]

/-- The fields of a kind of step are read alike in every presentation. -/
lemma ofFields_readAlike (tag : String) : ReadAlike (form tag) (ofFields tag) := by
  refine readAlike_of_alike (apart_form tag) (fun _ _ => ofFields_congr) ?_
  rw [ofFields]
  cases arity? tag <;> rfl

/-- The kind of the step with these members, if they tell one. -/
def kind? (ms : List (String × Json)) : Option String :=
  match ms.filter (·.1 == "type") with
  | [(_, .string tag)] => some tag
  | _ => none

/-- The fields of the step with these members. -/
def formOf (ms : List (String × Json)) : List Field :=
  (kind? ms).elim [] form

/-- An object has a kind exactly if it has one tag, and that tag is a string. -/
lemma kind?_eq_some {ms tag} :
    kind? ms = some tag ↔ ∃ name, ms.filter (·.1 == "type") = [(name, .string tag)] := by
  rw [kind?]
  split
  next name tag' only => simp [only]
  next other => exact iff_of_false nofun fun ⟨name, only⟩ => other name tag only

/-- A step object is read by its tag, from the members that are left without it. -/
lemma ofJson_object (ms : List (String × Json)) : ofJson (.object ms) =
    match kind? ms with
    | some tag => ofFields tag (.object (ms.filter (·.1 != "type")))
    | none => .error .shape := by
  cases kind : kind? ms with
  | some tag =>
    obtain ⟨name, only⟩ := kind?_eq_some.1 kind
    rw [ofJson, only]
  | none =>
    rw [ofJson]
    split
    next name tag only => exact absurd (kind.symm.trans (kind?_eq_some.2 ⟨name, only⟩)) nofun
    next => rfl

/-- The order of the members does not matter to the kind. -/
lemma kind?_perm {ms ms' : List (String × Json)}
    (h : (ms'.filter (·.1 == "type")).Perm (ms.filter (·.1 == "type"))) : kind? ms' = kind? ms := by
  ext tag
  rw [kind?_eq_some, kind?_eq_some]
  constructor
  · rintro ⟨name, only⟩
    exact ⟨name, List.perm_singleton.1 (only ▸ h.symm)⟩
  · rintro ⟨name, only⟩
    exact ⟨name, List.perm_singleton.1 (only ▸ h)⟩

/-- No field of the kind that an object is of is named like the tag. -/
lemma type_free_formOf (ms : List (String × Json)) : ∀ f ∈ formOf ms, "type" ∉ f.names := by
  rw [formOf]
  cases kind? ms with
  | none => exact nofun
  | some tag => exact type_free tag

/-- With its kind in front, a step is read by the members for its fields. -/
lemma ofJson_tagged {tag : String} {ms : List (String × Json)} (h : ∀ m ∈ ms, m.1 ≠ "type") :
    ofJson (.object (("type", .string tag) :: ms)) = ofFields tag (.object ms) := by
  have none : ms.filter (·.1 == "type") = [] := List.filter_eq_nil_iff.2 (by simpa using h)
  have all : ms.filter (·.1 != "type") = ms := List.filter_eq_self.2 (by simpa using h)
  have kind : kind? (("type", .string tag) :: ms) = some tag :=
    kind?_eq_some.2 ⟨"type", by rw [List.filter_cons_of_pos rfl, none]⟩
  rw [ofJson_object, kind, List.filter_cons_of_neg (by simp), all]

/-- A step is read alike however its record is presented: its members may stand in any order, with others
between that are no fields, under any names of the fields and without the fields that have their
defaults, and a list stands for the object that gives the values to the first fields. So are the records
within a step. -/
theorem ofJson_alike :
    (∀ ms ms', Restated ["type"] (formOf ms) ms ms' → ofJson (.object ms') = ofJson (.object ms)) ∧
      (∀ tag vs, vs.length ≤ (form tag).length →
        ofJson (.list (.string tag :: vs)) =
          ofJson (.object (("type", .string tag) :: ((form tag).map Field.name).zip vs))) ∧
      (∀ tag vs, (form tag).length < vs.length →
        ofJson (.list (.string tag :: vs)) = .error .shape) ∧
      (∀ s : Step, s.fields.map (·.1) = (form s.tag).map Field.name) ∧
      ReadAlike FilterCondition.form FilterCondition.ofJson ∧
      ReadAlike SortKey.form SortKey.ofJson ∧
      ReadAlike JoinKey.form JoinKey.ofJson ∧
      ReadAlike Aggregation.form Aggregation.ofJson := by
  refine ⟨fun ms ms' restated => ?_, fun tag vs short => ?_, fun tag vs long => ?_, names_fields,
    readAlike_of_alike (by decide) (fun _ _ => FilterCondition.ofJson_congr) rfl,
    readAlike_of_alike (by decide) (fun _ _ => SortKey.ofJson_congr) rfl,
    readAlike_of_alike (by decide) (fun _ _ => JoinKey.ofJson_congr) rfl,
    readAlike_of_alike (by decide) (fun _ _ => Aggregation.ofJson_congr) rfl⟩
  · obtain ⟨types, rest⟩ := restated.reserved (type_free_formOf ms)
    rw [ofJson_object, ofJson_object, kind?_perm types]
    cases kind : kind? ms with
    | none => rfl
    | some tag =>
      rw [formOf, kind] at rest
      exact (ofFields_readAlike tag).restated rest
  · rw [ofJson_tagged]
    · exact (ofFields_readAlike tag).listed short
    · rintro ⟨name, v⟩ mem rfl
      obtain ⟨f, listed, named⟩ := List.mem_map.1 (List.of_mem_zip mem).1
      exact type_free tag f listed (named ▸ (apart_form tag).name_mem listed)
  · exact (ofFields_readAlike tag).long long

/-- A cast with its type under another name, then with its kind last, then with a note; and the fill of a
column, as a list that ends before the last field and as an object with that field. -/
theorem ofJson_alike_cast :
    let cast : List (String × Json) :=
      [("type", .string "cast"), ("column", .string "a"), ("data_type", .string "date")]
    let renamed : List (String × Json) :=
      [("type", .string "cast"), ("column", .string "a"), ("to", .string "date")]
    let reordered : List (String × Json) :=
      [("to", .string "date"), ("column", .string "a"), ("type", .string "cast")]
    let noted : List (String × Json) :=
      [("to", .string "date"), ("column", .string "a"), ("note", .int 1), ("type", .string "cast")]
    let fill : List (String × Json) :=
      [("type", .string "fill_null"), ("column", .string "a"), ("value", .int 0)]
    ofJson (.object noted) = ofJson (.object reordered) ∧
      ofJson (.object reordered) = ofJson (.object renamed) ∧
      ofJson (.object renamed) = ofJson (.object cast) ∧
      ofJson (.object cast) = .ok (.cast "a" "date") ∧
      ofJson (.object (fill ++ [("include_empty", .bool true)])) = ofJson (.object fill) ∧
      ofJson (.list [.string "fill_null", .string "a", .int 0]) = ofJson (.object fill) ∧
      ofJson (.object fill) = .ok (.fillNull "a" (.int 0) true) ∧
      ofJson (.list [.string "select", .list [], .null]) = .error .shape := by
  intro cast renamed reordered noted fill
  have restated := fun ms ms' => ofJson_alike.1 ms ms'
  refine ⟨restated reordered noted ?_, restated renamed reordered ?_, restated cast renamed ?_, rfl,
    restated fill _ ?_, ofJson_alike.2.1 "fill_null" [.string "a", .int 0] (by decide), rfl,
    ofJson_alike.2.2.1 "select" [.list [], .null] (by decide)⟩
  · exact @Restated.extended _ _ [_, _] [_] _ _ (by decide) (by decide)
  · exact .reordered (List.reverse_perm renamed).symm
  · exact @Restated.renamed _ _ [_, _] [] _ _ _ _ (.tail _ (.head _)) (by decide) (by decide)
  · exact @Restated.completed _ _ fill [] _ _ (.tail _ (.tail _ (.head _))) (by decide) (by decide)

end Step

end QueryRecipe
