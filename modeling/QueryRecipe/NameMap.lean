/-!
# Maps keyed by names

A finite map from names is its list of entries in increasing order of names, the order of code points.
The order is part of the type, so two maps with the same entries are equal and answers list them in
one way only.
-/

namespace QueryRecipe

/-- Entries in strictly increasing order of their names. -/
structure NameMap (α : Type) where
  entries : List (String × α)
  sorted : entries.Pairwise fun a b => a.1 < b.1

namespace NameMap

variable {α : Type}

instance [DecidableEq α] : DecidableEq (NameMap α) := fun m n =>
  if h : m.entries = n.entries then
    .isTrue (by cases m; cases n; simp_all)
  else
    .isFalse fun e => h (e ▸ rfl)

instance [Repr α] : Repr (NameMap α) where
  reprPrec m p := reprPrec m.entries p

/-- The map without entries. -/
def empty : NameMap α := ⟨[], .nil⟩

instance : EmptyCollection (NameMap α) := ⟨empty⟩

instance : Inhabited (NameMap α) := ⟨empty⟩

/-- The sorted entries with `value` put at `name`, in place of what stood there. -/
def insertEntry (name : String) (value : α) : List (String × α) → List (String × α)
  | [] => [(name, value)]
  | e :: r =>
    if name < e.1 then
      (name, value) :: e :: r
    else if name = e.1 then
      (name, value) :: r
    else
      e :: insertEntry name value r

/-- An entry is the new one or was there before. -/
theorem mem_insertEntry {name : String} {value : α} {l : List (String × α)} {e : String × α}
    (h : e ∈ insertEntry name value l) : e = (name, value) ∨ e ∈ l := by
  induction l with
  | nil => simpa [insertEntry] using h
  | cons a r ih =>
    simp only [insertEntry] at h
    split at h
    · simpa using h
    · split at h
      · rcases List.mem_cons.1 h with h | h
        · exact .inl h
        · exact .inr (List.mem_cons_of_mem _ h)
      · rcases List.mem_cons.1 h with h | h
        · exact .inr (h ▸ List.mem_cons_self)
        · exact (ih h).imp id (List.mem_cons_of_mem _)

/-- Entries with ascending names stay so when one is put in. -/
theorem pairwise_insertEntry {name : String} {value : α} {l : List (String × α)}
    (h : l.Pairwise fun a b => a.1 < b.1) :
    (insertEntry name value l).Pairwise fun a b => a.1 < b.1 := by
  induction l with
  | nil => simp [insertEntry]
  | cons a r ih =>
    obtain ⟨ha, hr⟩ := List.pairwise_cons.1 h
    simp only [insertEntry]
    split
    next lt =>
      refine List.pairwise_cons.2 ⟨fun e he => ?_, h⟩
      rcases List.mem_cons.1 he with rfl | he
      · exact lt
      · exact String.lt_trans lt (ha e he)
    next nlt =>
      split
      next eq => exact List.pairwise_cons.2 ⟨fun e he => eq ▸ ha e he, hr⟩
      next ne =>
        refine List.pairwise_cons.2 ⟨fun e he => ?_, ih hr⟩
        rcases mem_insertEntry he with rfl | he
        · exact Std.lt_of_le_of_ne (Std.not_lt.1 nlt) fun e => ne e.symm
        · exact ha e he

/-- The map with `value` at `name`. -/
def insert (m : NameMap α) (name : String) (value : α) : NameMap α :=
  ⟨insertEntry name value m.entries, pairwise_insertEntry m.sorted⟩

/-- The value at `name`. -/
def get? (m : NameMap α) (name : String) : Option α :=
  m.entries.lookup name

/-- Whether there is an entry for `name`. -/
def contains (m : NameMap α) (name : String) : Bool :=
  (m.get? name).isSome

/-- The names in increasing order. -/
def names (m : NameMap α) : List String :=
  m.entries.map (·.1)

/-- The map of a list of entries; of two entries with one name the later counts. -/
def ofList (l : List (String × α)) : NameMap α :=
  l.foldl (fun m e => m.insert e.1 e.2) ∅

end NameMap

/-- A finite set of names. -/
abbrev NameSet := NameMap Unit

/-- The set with all of `names` added. -/
def NameSet.insertAll (s : NameSet) (names : List String) : NameSet :=
  names.foldl (fun s n => s.insert n ()) s

end QueryRecipe
