import Mathlib.Data.List.Pairwise
import QueryRecipe.Proofs.Json.Kept

/-!
# How records are presented

The same record can be written with its members in another order, with members that are no fields, with
another name of a field or without a field that has its default (`Restated`), and as a list of the values
of its first fields. Every field has the same value in all of them (`Record.Agree`), and also in what is
kept of the record, so whoever reads records by their fields reads the same (`Alike`).
-/

namespace QueryRecipe.Json

/-- A field of a record: the names that it goes by, the one that it is written with first, and the value
that stands for it where it is left out. -/
structure Field where
  names : List String
  default : Json

/-- The name that a field is written with. -/
def Field.name (f : Field) : String :=
  f.names.headD ""

/-- Whether every field has a name and none of its names is another field's. -/
def Apart (fields : List Field) : Prop :=
  (∀ f ∈ fields, f.names ≠ []) ∧ fields.Pairwise fun f g => ∀ n ∈ f.names, n ∉ g.names

instance (fields : List Field) : Decidable (Apart fields) :=
  inferInstanceAs (Decidable (_ ∧ _))

/-- Whether the second list of members presents the same record as the first one: in another order, with
one more member that is neither a field nor reserved, with another name of a field, or with a field that
was left out given as its default. -/
inductive Restated (reserved : List String) (fields : List Field) :
    List (String × Json) → List (String × Json) → Prop where
  | reordered {ms ms'} :
    ms.Perm ms' →
    Restated reserved fields ms ms'
  | extended {before after name v} :
    name ∉ reserved →
    (∀ f ∈ fields, name ∉ f.names) →
    Restated reserved fields (before ++ after) (before ++ (name, v) :: after)
  | renamed {before after f name name' v} :
    f ∈ fields →
    name ∈ f.names →
    name' ∈ f.names →
    Restated reserved fields (before ++ (name, v) :: after) (before ++ (name', v) :: after)
  | completed {before after f name} :
    f ∈ fields →
    name ∈ f.names →
    (∀ m ∈ before ++ after, m.1 ∉ f.names) →
    Restated reserved fields (before ++ after) (before ++ (name, f.default) :: after)

namespace Record
variable {r r' : Record} {i : Nat} {names : List String} {f : Field} {fields : List Field}
  {ms ms' : List (String × Json)} {α : Type}

/-- The values of the members with one of these names. -/
def valuesOf (names : List String) (ms : List (String × Json)) : List Json :=
  (ms.filter fun m => names.contains m.1).map (·.2)

/-- The values under some names are found in one list of members after the other. -/
lemma valuesOf_append : valuesOf names (ms ++ ms') = valuesOf names ms ++ valuesOf names ms' := by
  rw [valuesOf, List.filter_append, List.map_append]
  rfl

/-- A member with one of the names counts. -/
lemma valuesOf_cons_pos {m : String × Json} (h : m.1 ∈ names) :
    valuesOf names (m :: ms) = m.2 :: valuesOf names ms := by
  rw [valuesOf, List.filter_cons_of_pos (by simpa using h)]
  rfl

/-- A member with another name does not count. -/
lemma valuesOf_cons_neg {m : String × Json} (h : m.1 ∉ names) :
    valuesOf names (m :: ms) = valuesOf names ms := by
  rw [valuesOf, List.filter_cons_of_neg (by simpa using h)]
  rfl

/-- Without a member of the names there is no value. -/
lemma valuesOf_eq_nil (h : ∀ m ∈ ms, m.1 ∉ names) : valuesOf names ms = [] := by
  rw [valuesOf, List.filter_eq_nil_iff.2 fun m mem => by simpa using h m mem, List.map_nil]

/-- The values that names stand for are changed with all values, in any order. -/
lemma valuesOf_perm {g : Json → Json} (h : ms'.Perm (ms.map fun m => (m.1, g m.2))) :
    (valuesOf names ms').Perm ((valuesOf names ms).map g) := by
  refine ((h.filter _).map _).trans (.of_eq ?_)
  rw [valuesOf, List.filter_map, List.map_map, List.map_map]
  rfl

/-- Of a field only the values count that its names stand for. -/
lemma given?_members : (members ms).given? i names =
    match valuesOf names ms with
    | [] => .ok none
    | [v] => .ok (some v)
    | _ => .error .shape := by
  rw [given?, valuesOf]
  generalize ms.filter (fun m => names.contains m.1) = given
  rcases given with _ | ⟨m, _ | ⟨m', rest⟩⟩ <;> rfl

/-- The order of the values does not count. -/
lemma given?_map_of_perm {g : Json → Json} (h : (valuesOf names ms').Perm ((valuesOf names ms).map g)) :
    (members ms').given? i names = Option.map g <$> (members ms).given? i names := by
  rw [given?_members, given?_members]
  match valuesOf names ms, valuesOf names ms', h with
  | [], vs', h =>
    rw [List.perm_nil.1 h]
    rfl
  | [v], vs', h =>
    rw [List.perm_singleton.1 h]
    rfl
  | _ :: _ :: _, _ :: _ :: _, _ => rfl
  | _ :: _ :: _, [], h | _ :: _ :: _, [_], h => exact absurd h.length_eq (by simp)

/-- The value of a field, given or not. -/
def value (r : Record) (i : Nat) (f : Field) : Read Json :=
  (·.getD f.default) <$> r.given? i f.names

/-- A field is read from its value, which may be the default. -/
lemma field_eq_value {read : Json → Read α} {d} (h : read f.default = .ok d) :
    r.field i f.names read d = r.value i f >>= read := by
  rw [field, value]
  cases r.given? i f.names with
  | error e => rfl
  | ok given =>
    cases given with
    | none => exact h.symm
    | some j => rfl

/-- Whether the same is read of all fields of two records by whoever reads the same of a value and of
what is kept of it. -/
def Agree (fields : List Field) (r r' : Record) : Prop :=
  ∀ i f, fields[i]? = some f → ∀ {α : Type} (read : Json → Read α), Stable read →
    r.value i f >>= read = r'.value i f >>= read

/-- Records that agree have the same fields. -/
lemma Agree.field {read : Json → Read α} {d} (h : Agree fields r r') (place : fields[i]? = some f)
    (stable : Stable read) (default : read f.default = .ok d) :
    r.field i f.names read d = r'.field i f.names read d := by
  rw [field_eq_value default, field_eq_value default, h i f place read stable]

/-- Records with the same values agree. -/
lemma agree_of_value (h : ∀ i f, fields[i]? = some f → r.value i f = r'.value i f) :
    Agree fields r r' :=
  fun i f place _ read _ => congrArg (· >>= read) (h i f place)

end Record

section Apart
variable {fields : List Field} {f g : Field} {name : String}

/-- A name belongs to one field only. -/
lemma Apart.eq_of_mem (h : Apart fields) (hf : f ∈ fields) (hg : g ∈ fields) (nf : name ∈ f.names)
    (ng : name ∈ g.names) : f = g := by
  by_contra ne
  have symm : Std.Symm fun f g : Field => ∀ n ∈ f.names, n ∉ g.names :=
    ⟨fun f g apart n mem mem' => apart n mem' mem⟩
  exact h.2.forall hf hg ne name nf ng

/-- The later fields are apart too. -/
lemma Apart.tail (h : Apart (f :: fields)) : Apart fields :=
  ⟨fun g mem => h.1 g (List.mem_cons_of_mem f mem), (List.pairwise_cons.1 h.2).2⟩

/-- The own name of a field is one of its names. -/
lemma Apart.name_mem (h : Apart fields) (hf : f ∈ fields) : f.name ∈ f.names := by
  obtain ⟨n, ns, e⟩ := List.exists_cons_of_ne_nil (h.1 f hf)
  rw [Field.name, e]
  exact List.mem_cons_self

end Apart

namespace Record
variable {i : Nat} {names : List String} {f : Field} {fields : List Field}
  {ms ms' : List (String × Json)} {α : Type}

/-- The order of the members with the names of a field does not matter if there is at most one. -/
lemma value_of_perm (h : (valuesOf f.names ms').Perm (valuesOf f.names ms)) :
    (members ms').value i f = (members ms).value i f := by
  have given := given?_map_of_perm (i := i) (g := id) (h.trans (.of_eq (List.map_id _).symm))
  rw [value, value, given, Option.map_id, id_map]

/-- A field has the same value however its record is presented. -/
lemma value_restated {reserved} (apart : Apart fields) (h : Restated reserved fields ms ms')
    (mem : f ∈ fields) : (members ms').value i f = (members ms).value i f := by
  cases h with
  | reordered perm => exact value_of_perm ((perm.symm.filter _).map _)
  | @extended before after name v _ none =>
    refine value_of_perm (.of_eq ?_)
    rw [valuesOf_append, valuesOf_append, valuesOf_cons_neg (none f mem)]
  | @renamed before after g name name' v listed own own' =>
    refine value_of_perm (.of_eq ?_)
    rw [valuesOf_append, valuesOf_append]
    by_cases same : f = g
    · cases same
      rw [valuesOf_cons_pos own', valuesOf_cons_pos own]
    · rw [valuesOf_cons_neg fun own'' => same (apart.eq_of_mem mem listed own'' own'),
        valuesOf_cons_neg fun own'' => same (apart.eq_of_mem mem listed own'' own)]
  | @completed before after g name listed own absent =>
    by_cases same : f = g
    · cases same
      have nothing := valuesOf_eq_nil absent
      rw [valuesOf_append, List.append_eq_nil_iff] at nothing
      rw [value, value, given?_members, given?_members, valuesOf_append, valuesOf_append,
        valuesOf_cons_pos own, nothing.1, nothing.2]
      rfl
    · refine value_of_perm (.of_eq ?_)
      rw [valuesOf_append, valuesOf_append,
        valuesOf_cons_neg fun own'' => same (apart.eq_of_mem mem listed own'' own)]

/-- The names of the first fields give them the values of a list. -/
lemma value_listed {vs : List Json} (apart : Apart fields) (place : fields[i]? = some f) :
    (members ((fields.map Field.name).zip vs)).value i f = (positions vs).value i f := by
  have given : valuesOf f.names ((fields.map Field.name).zip vs) = vs[i]?.toList := by
    induction fields generalizing vs i with
    | nil => cases place
    | cons g rest ih =>
      cases vs with
      | nil => rfl
      | cons v vs =>
        rw [List.map_cons, List.zip_cons_cons]
        cases i with
        | zero =>
          cases place
          have others : ∀ m ∈ (rest.map Field.name).zip vs, m.1 ∉ f.names := by
            rintro ⟨n, v⟩ mem own
            obtain ⟨g, listed, rfl⟩ := List.mem_map.1 (List.of_mem_zip mem).1
            exact (List.pairwise_cons.1 apart.2).1 g listed _ own (apart.tail.name_mem listed)
          rw [valuesOf_cons_pos (apart.name_mem List.mem_cons_self), valuesOf_eq_nil others]
          rfl
        | succ i =>
          have listed : f ∈ rest := List.mem_of_getElem? place
          have other : g.name ∉ f.names := by
            have own := apart.name_mem (List.mem_cons_self (a := g))
            exact (List.pairwise_cons.1 apart.2).1 f listed _ own
          rw [valuesOf_cons_neg other]
          exact ih apart.tail place
  rw [value, value, given?_members, given, given?]
  cases vs[i]? <;> rfl

/-- What is given for a field in an object is the value of a member. -/
lemma mem_of_given? {j : Json} (h : (members ms).given? i names = .ok (some j)) :
    ∃ m ∈ ms, m.2 = j := by
  rw [given?_members] at h
  split at h
  next => cases h
  next v only =>
    cases h
    have mem : j ∈ valuesOf names ms := by
      rw [only]
      exact List.mem_cons_self
    obtain ⟨m, listed, same⟩ := List.mem_map.1 mem
    exact ⟨m, (List.mem_filter.1 listed).1, same⟩
  next => cases h

/-- The fields of a record agree with what is kept of their values. -/
lemma agree_of_given? {r r' : Record}
    (kept : ∀ i names, r'.given? i names = Option.map Json.kept <$> r.given? i names)
    (distinct : ∀ i names j, r.given? i names = .ok (some j) → j.Distinct) : Agree fields r' r := by
  intro i f _ α read stable
  rw [value, value, kept]
  cases given : r.given? i f.names with
  | error e => rfl
  | ok given' =>
    cases given' with
    | none => rfl
    | some j => exact stable j (distinct i f.names j given)

end Record

/-- Whether two values are records whose fields agree, or neither is a record. -/
inductive Alike (fields : List Field) (j j' : Json) : Prop where
  | records {r r'} :
    record fields.length j = .ok r →
    record fields.length j' = .ok r' →
    Record.Agree fields r r' →
    Alike fields j j'
  | neither :
    record fields.length j = .error .shape →
    record fields.length j' = .error .shape →
    Alike fields j j'

/-- Whether a record with these fields is read alike however it is presented: as an object that is
restated, or as a list. -/
structure ReadAlike {α : Type} (fields : List Field) (read : Json → Read α) : Prop where
  restated {ms ms'} : Restated [] fields ms ms' → read (.object ms') = read (.object ms)
  listed {vs} : vs.length ≤ fields.length →
    read (.list vs) = read (.object ((fields.map Field.name).zip vs))
  long {vs} : fields.length < vs.length → read (.list vs) = .error .shape

section Alike
variable {α : Type} {fields : List Field} {j j' : Json}

/-- Who reads records by these fields reads the same. -/
lemma Alike.bind {read : Record → Read α} (h : Alike fields j j')
    (byFields : ∀ r r', Record.Agree fields r r' → read r = read r') :
    record fields.length j >>= read = record fields.length j' >>= read := by
  cases h with
  | records e e' agree =>
    rw [e, e']
    exact byFields _ _ agree
  | neither e e' => rw [e, e']

/-- An object agrees with the values that are kept of its members, in any order. -/
lemma alike_of_perm {ms ms' : List (String × Json)} (distinct : ∀ m ∈ ms, m.2.Distinct)
    (perm : ms'.Perm (ms.map fun m => (m.1, m.2.kept))) : Alike fields (.object ms') (.object ms) := by
  refine .records rfl rfl (Record.agree_of_given? ?_ ?_)
  · intro i names
    exact Record.given?_map_of_perm (Record.valuesOf_perm perm)
  · intro i names j given
    obtain ⟨m, mem, rfl⟩ := Record.mem_of_given? given
    exact distinct m mem

/-- A record agrees with what is kept of it. -/
lemma alike_kept (distinct : j.Distinct) : Alike fields j.kept j := by
  cases j with
  | object ms =>
    obtain ⟨ms', same, perm⟩ := kept_object distinct
    rw [same]
    exact alike_of_perm (distinct_object.1 distinct).2 perm
  | list vs =>
    by_cases short : vs.length ≤ fields.length
    · refine .records (r := .positions (vs.map kept)) ?_ (if_pos short) (Record.agree_of_given? ?_ ?_)
      · rw [kept_list]
        exact if_pos (by rwa [List.length_map])
      · intro i names
        rw [Record.given?, Record.given?, List.getElem?_map]
        rfl
      · intro i names j given
        exact distinct_list.1 distinct j (List.mem_of_getElem? (Except.ok.inj given))
    · refine .neither ?_ (if_neg short)
      rw [kept_list]
      exact if_neg (by rwa [List.length_map])
  | _ => exact .neither rfl rfl

variable {read : Json → Read α}

/-- What reads records alike reads them of what is kept. -/
lemma stable_of_alike (h : ∀ j j', Alike fields j j' → read j = read j') : Stable read :=
  fun _ distinct => h _ _ (alike_kept distinct)

/-- What reads records alike reads all ways of presenting them alike. -/
lemma readAlike_of_alike (apart : Apart fields) (h : ∀ j j', Alike fields j j' → read j = read j')
    (nothing : read .null = .error .shape) : ReadAlike fields read where
  restated same := h _ _ (.records rfl rfl (Record.agree_of_value fun _ _ place =>
    Record.value_restated apart same (List.mem_of_getElem? place)))
  listed short := h _ _ (.records (if_pos short) rfl (Record.agree_of_value fun _ _ place =>
    (Record.value_listed apart place).symm))
  long {vs} beyond :=
    (h (.list vs) .null (.neither (if_neg (Nat.not_le.2 beyond)) rfl)).trans nothing

/-- A reserved name keeps its members, and without them the record is presented in the same ways. -/
lemma Restated.reserved {n : String} {ms ms'} (h : Restated [n] fields ms ms')
    (free : ∀ f ∈ fields, n ∉ f.names) :
    (ms'.filter (·.1 == n)).Perm (ms.filter (·.1 == n)) ∧
      Restated [] fields (ms.filter (·.1 != n)) (ms'.filter (·.1 != n)) := by
  have apart (before after : List (String × Json)) : (before ++ after).filter (·.1 != n) =
      before.filter (·.1 != n) ++ after.filter (·.1 != n) :=
    List.filter_append before after
  have own {name v} (ne : name ≠ n) (before after : List (String × Json)) :
      (before ++ (name, v) :: after).filter (·.1 == n) = (before ++ after).filter (·.1 == n) ∧
        (before ++ (name, v) :: after).filter (·.1 != n) =
          before.filter (·.1 != n) ++ (name, v) :: after.filter (·.1 != n) := by
    simp [ne]
  cases h with
  | reordered perm => exact ⟨perm.symm.filter _, .reordered (perm.filter _)⟩
  | @extended before after name v unreserved none =>
    have ne : name ≠ n := fun same => unreserved (same ▸ List.mem_cons_self)
    rw [(own ne before after).1, (own ne before after).2, apart]
    exact ⟨.refl _, .extended List.not_mem_nil none⟩
  | @renamed before after g name name' v listed mem mem' =>
    have ne : name ≠ n := fun same => free g listed (same ▸ mem)
    have ne' : name' ≠ n := fun same => free g listed (same ▸ mem')
    rw [(own ne before after).1, (own ne before after).2, (own ne' before after).1,
      (own ne' before after).2]
    exact ⟨.refl _, .renamed listed mem mem'⟩
  | @completed before after g name listed mem absent =>
    have ne : name ≠ n := fun same => free g listed (same ▸ mem)
    rw [(own ne before after).1, (own ne before after).2, apart]
    refine ⟨.refl _, .completed listed mem fun m left => absent m ?_⟩
    rw [← apart] at left
    exact (List.mem_filter.1 left).1

end Alike

end QueryRecipe.Json
