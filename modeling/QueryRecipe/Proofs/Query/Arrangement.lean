import Mathlib.Data.List.Lattice
import QueryRecipe.Proofs.Query.Entries

/-!
# Entries put in order by their names

What it means that for each name in turn the first remaining entry with that name comes next, and then all
other entries (`Query.arrange`). Names and entries are numbered by their occurrences (`Query.numbered`),
and each occurrence of a name takes the entry with the same name and number, if there is one
(`Query.arrange_eq`). To put the entries in order a second time changes nothing (`Query.arrange_arrange`),
and the first time changes nothing exactly if the names that take an entry are the names of the first
entries (`Query.arrange_eq_self_iff`).
-/

namespace QueryRecipe.Query

variable {α : Type}

/-- Each entry with the number of times that its name has occurred, before all of them or earlier among
them. -/
def numbered (nameOf : α → String) (before : List String) : List α → List (α × ℕ)
  | [] => []
  | e :: es => (e, before.count (nameOf e)) :: numbered nameOf (nameOf e :: before) es

/-- The entries that names take: each occurrence of a name the entry that is, among those with this name,
in the same place as the occurrence among those of the name. -/
def taken (nameOf : α → String) (names : List String) (entries : List α) : List α :=
  (numbered id [] names).filterMap fun n => (entries.filter (nameOf · == n.1))[n.2]?

/-- The entries that names leave: those with a name that does not occur often enough to take them. -/
def untaken (nameOf : α → String) (names : List String) (entries : List α) : List α :=
  ((numbered nameOf [] entries).filter fun e => names.count (nameOf e.1) ≤ e.2).map (·.1)

section Arrange
variable {nameOf : α → String} {before before' names : List String} {entries : List α}
  {n m : String}

/-- How often a name is asked for in a list, counted from its first element on. -/
lemma count_name_cons : (n :: names).count m = names.count m + if m = n then 1 else 0 := by
  by_cases same : m = n
  · simp [same]
  · rw [List.count_cons_of_ne (Ne.symm same), if_neg same, Nat.add_zero]

/-- Numbering the entries leaves the entries themselves. -/
lemma map_numbered : (numbered nameOf before entries).map (·.1) = entries := by
  induction entries generalizing before with
  | nil => rfl
  | cons e es ih => rw [numbered, List.map_cons, ih]

/-- A further occurrence before all others is counted by the entries with this name. -/
lemma numbered_shift (more : ∀ m, before'.count m = before.count m + if m = n then 1 else 0) :
    numbered nameOf before' entries = (numbered nameOf before entries).map fun e =>
      (e.1, e.2 + if nameOf e.1 = n then 1 else 0) := by
  induction entries generalizing before before' with
  | nil => rfl
  | cons e es ih =>
    have later : ∀ m, (nameOf e :: before').count m =
        (nameOf e :: before).count m + if m = n then 1 else 0 := by
      intro m
      rw [count_name_cons, count_name_cons, more]
      omega
    rw [numbered, numbered, ih later, List.map_cons, more]

/-- To take away the first entry with a name makes the next one with this name the first. -/
lemma filter_eraseP : (entries.eraseP (nameOf · == n)).filter (nameOf · == m) =
    (entries.filter (nameOf · == m)).drop (if m = n then 1 else 0) := by
  by_cases same : m = n
  · subst same
    rw [if_pos rfl]
    induction entries with
    | nil => rfl
    | cons e es ih =>
      by_cases first : nameOf e = m
      · simp [first]
      · simpa [first] using ih
  · rw [if_neg same, List.drop_zero]
    refine filter_eraseP_of_apart fun e _ own => ?_
    rw [eq_of_beq own]
    exact beq_false_of_ne (Ne.symm same)

/-- Taking out the first entry of a name takes out the first such name. -/
lemma map_eraseP : (entries.eraseP (nameOf · == n)).map nameOf = (entries.map nameOf).erase n := by
  induction entries with
  | nil => rfl
  | cons e es ih =>
    by_cases first : nameOf e = n
    · simp [first]
    · simp [first, ih]

/-- The first name asked for puts its first entry in front, and the others arrange what is left. -/
lemma arrange_cons : arrange nameOf (n :: names) entries =
    (entries.find? (nameOf · == n)).toList ++ arrange nameOf names (entries.eraseP (nameOf · == n)) := by
  rw [arrange]
  cases found : entries.find? (nameOf · == n) with
  | some e => rfl
  | none =>
    rw [List.eraseP_of_forall_not fun e mem => List.find?_eq_none.1 found e mem]
    rfl

/-- The first name asked for takes its first entry, and the others take from what is left. -/
lemma taken_cons : taken nameOf (n :: names) entries =
    (entries.find? (nameOf · == n)).toList ++ taken nameOf names (entries.eraseP (nameOf · == n)) := by
  have first : (entries.filter (nameOf · == n))[0]? = entries.find? (nameOf · == n) := by
    rw [← List.head?_eq_getElem?, List.head?_filter]
  have later : (numbered id [n] names).filterMap
      (fun k => (entries.filter (nameOf · == k.1))[k.2]?) =
        taken nameOf names (entries.eraseP (nameOf · == n)) := by
    rw [numbered_shift fun m => count_name_cons, List.filterMap_map, taken]
    congr 1
    funext k
    rw [filter_eraseP, List.getElem?_drop, Nat.add_comm]
    rfl
  rw [taken, numbered, List.filterMap_cons, ← later]
  show (match (entries.filter (nameOf · == n))[0]? with | none => _ | some b => _) = _
  rw [first]
  cases entries.find? (nameOf · == n) <;> rfl

/-- An occurrence of a name takes the first entry with this name. -/
lemma untaken_cons : untaken nameOf (n :: names) entries =
    untaken nameOf names (entries.eraseP (nameOf · == n)) := by
  have run (before : List String) (fresh : before.count n = 0) :
      ((numbered nameOf before entries).filter
          fun e => (n :: names).count (nameOf e.1) ≤ e.2).map (·.1) =
        ((numbered nameOf before (entries.eraseP (nameOf · == n))).filter
          fun e => names.count (nameOf e.1) ≤ e.2).map (·.1) := by
    induction entries generalizing before with
    | nil => rfl
    | cons e es ih =>
      by_cases first : nameOf e = n
      · -- this one is taken, and each other with its name is numbered one higher than without it
        have gone : ¬ (n :: names).count (nameOf e) ≤ before.count (nameOf e) := by
          rw [first, fresh, List.count_cons_self]
          omega
        rw [List.eraseP_cons_of_pos (by simpa using first), numbered,
          List.filter_cons_of_neg (by simpa using gone), first,
          numbered_shift fun m => count_name_cons, List.filter_map, List.map_map]
        simp only [Function.comp_def, count_name_cons, Nat.add_le_add_iff_right]
      · have later := ih (nameOf e :: before) (by rw [List.count_cons_of_ne first, fresh])
        have same : (n :: names).count (nameOf e) = names.count (nameOf e) :=
          List.count_cons_of_ne (Ne.symm first)
        rw [List.eraseP_cons_of_neg (by simpa using first), numbered, numbered]
        by_cases left : names.count (nameOf e) ≤ before.count (nameOf e)
        · rw [List.filter_cons_of_pos (by simpa [same] using left),
            List.filter_cons_of_pos (by simpa using left), List.map_cons, List.map_cons, later]
        · rw [List.filter_cons_of_neg (by simpa [same] using left),
            List.filter_cons_of_neg (by simpa using left), later]
  exact run [] rfl

/-- The entries that the names take come first, in the order of the names, and then the others in
theirs. -/
lemma arrange_eq : arrange nameOf names entries =
    taken nameOf names entries ++ untaken nameOf names entries := by
  induction names generalizing entries with
  | nil =>
    have all : untaken nameOf [] entries = entries := by simp [untaken, map_numbered]
    rw [arrange, all]
    rfl
  | cons n names ih => rw [arrange_cons, ih, taken_cons, untaken_cons, List.append_assoc]

/-- The untaken entries keep their order. -/
lemma untaken_sublist : (untaken nameOf names entries).Sublist entries := by
  have kept := (List.filter_sublist (l := numbered nameOf [] entries)
    (p := fun e => names.count (nameOf e.1) ≤ e.2)).map (·.1)
  rwa [map_numbered] at kept

/-- Entries that have been put in order stay so. -/
lemma arrange_arrange : arrange nameOf names (arrange nameOf names entries) =
    arrange nameOf names entries := by
  induction names generalizing entries with
  | nil => rfl
  | cons n names ih =>
    cases found : entries.find? (nameOf · == n) with
    | some e =>
      have own : nameOf e = n := by simpa using List.find?_some found
      have now : arrange nameOf (n :: names) entries =
          e :: arrange nameOf names (entries.eraseP (nameOf · == n)) := by
        rw [arrange, found]
      rw [now, arrange, List.find?_cons_of_pos (by simpa using own),
        List.eraseP_cons_of_pos (by simpa using own), ih]
    | none =>
      have now : arrange nameOf (n :: names) entries = arrange nameOf names entries := by
        rw [arrange, found]
      -- what is not among the entries is not among them in any order
      have missing : (arrange nameOf names entries).find? (nameOf · == n) = none := by
        rw [List.find?_eq_none] at found ⊢
        exact fun e mem => found e (arrange_perm.subset mem)
      rw [now, arrange, missing, ih]

/-- Entries are in order exactly if the names that take one are, in their order, the names of the first
entries. -/
lemma arrange_eq_self_iff : arrange nameOf names entries = entries ↔
    names.bagInter (entries.map nameOf) <+: entries.map nameOf := by
  induction names generalizing entries with
  | nil => simp [arrange]
  | cons n names ih =>
    cases found : entries.find? (nameOf · == n) with
    | some e =>
      have own : nameOf e = n := by simpa using List.find?_some found
      have among : n ∈ entries.map nameOf :=
        own ▸ List.mem_map_of_mem (List.mem_of_find?_eq_some found)
      rw [arrange, found, List.cons_bagInter_of_mem _ among, ← map_eraseP]
      cases entries with
      | nil => cases found
      | cons e' es =>
        by_cases first : nameOf e' = n
        · rw [List.find?_cons_of_pos (by simpa using first)] at found
          cases found
          rw [List.eraseP_cons_of_pos (by simpa using first), List.map_cons, first,
            List.cons_prefix_cons, List.cons.injEq, ih]
          simp
        · -- the entry that is found is not the first one, and moves
          have moved : e ≠ e' := fun same => first (same ▸ own)
          rw [List.map_cons, List.cons_prefix_cons, List.cons.injEq]
          simp [moved, Ne.symm first]
    | none =>
      have missing : n ∉ entries.map nameOf := by
        intro mem
        obtain ⟨e, among, own⟩ := List.mem_map.1 mem
        exact List.find?_eq_none.1 found e among (by simpa using own)
      rw [arrange, found, List.cons_bagInter_of_not_mem _ missing, ih]

end Arrange

end QueryRecipe.Query
