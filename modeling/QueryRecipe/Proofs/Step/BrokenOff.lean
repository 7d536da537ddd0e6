import QueryRecipe.Compile
import QueryRecipe.Proofs.Step.Edits
import QueryRecipe.Proofs.Step.Handle

/-!
# What a step with a fault leaves behind

The handler of a step checks all that can be wrong with the step before it writes, so a step with a fault
leaves the query as it was. A rename and a sort write entry by entry instead: what stands before the
first wrong entry is done and the rest is not. The main statement is `Query.apply_fault`.
-/

namespace QueryRecipe

open Text (Blank)

/-- The map with the entries put in one after the other, trimmed. -/
def NameMap.putTrimmed (m : NameMap String) (entries : List (String × String)) : NameMap String :=
  entries.foldl (fun m e => m.insert (Text.trim e.1) (Text.trim e.2)) m

/-- What a step with a fault makes of a query: a rename puts in the entries before the first one with a
blank side, a sort adds the terms of the keys before the first one with a column and an unknown direction,
and every other step leaves the query as it was. -/
def Step.BreaksOff (q : Query) : Step → Query → Prop
  | .rename mapping, r => ∃ before entry after, mapping.entries = before ++ entry :: after ∧
      (∀ e ∈ before, ¬ Blank e.1 ∧ ¬ Blank e.2) ∧ (Blank entry.1 ∨ Blank entry.2) ∧
        r = { q with renames := q.renames.putTrimmed before }
  | .sort keys, r => ∃ before key after, keys = before ++ key :: after ∧
      (∀ k ∈ before, ¬ Blank k.column → Succeeds (Direction.ofText k.direction)) ∧
        ¬ Blank key.column ∧ ¬ Succeeds (Direction.ofText key.direction) ∧
          r = { q with order := q.order ++ (sortKeys before).map fun k => ⟨q.reference k.1, k.2⟩ }
  | _, r => r = q

namespace Handler
variable {q r : Query} {fault : StepFault}

/-- An entry of a rename that has both names puts them into the map, trimmed. -/
lemma renameEntry_eq_ok {entry : String × String} (done : (renameEntry entry).run q = .ok () r) :
    ¬ Blank entry.1 ∧ ¬ Blank entry.2 ∧ r = { q with renames := q.renames.putTrimmed [entry] } := by
  obtain ⟨column, s, present, rest⟩ := run_bind_eq_ok.1 done
  obtain ⟨notBlank, rfl, rfl⟩ := need_eq_ok present
  obtain ⟨label, t, present', written⟩ := run_bind_eq_ok.1 rest
  obtain ⟨notBlank', rfl, rfl⟩ := need_eq_ok present'
  cases written
  exact ⟨notBlank, notBlank', rfl⟩

/-- An entry of a rename that breaks off lacks one of its names. -/
lemma blank_of_renameEntry {entry : String × String}
    (wrong : (renameEntry entry).run q = .error fault r) : Blank entry.1 ∨ Blank entry.2 := by
  cases run_bind_eq_error.1 wrong with
  | inl here => exact .inl (blank_of_need here)
  | inr later =>
    obtain ⟨column, s, -, wrong⟩ := later
    cases run_bind_eq_error.1 wrong with
    | inl here => exact .inr (blank_of_need here)
    | inr later =>
      obtain ⟨label, t, -, wrong⟩ := later
      cases wrong

/-- Entries of a rename are put into the map one after the other. -/
lemma renameEntries_eq_ok {entries : List (String × String)}
    (done : (entries.forM renameEntry).run q = .ok () r) :
    (∀ e ∈ entries, ¬ Blank e.1 ∧ ¬ Blank e.2) ∧
      r = { q with renames := q.renames.putTrimmed entries } := by
  induction entries generalizing q with
  | nil =>
    cases done
    exact ⟨by simp, rfl⟩
  | cons e rest ih =>
    obtain ⟨_, s, first, later⟩ := run_bind_eq_ok.1 done
    obtain ⟨column, label, rfl⟩ := renameEntry_eq_ok first
    obtain ⟨present, rfl⟩ := ih later
    exact ⟨List.forall_mem_cons.2 ⟨⟨column, label⟩, present⟩, rfl⟩

/-- A key of a sort adds its term, or is passed over. -/
lemma sortKey_eq_ok {key : SortKey} (done : (sortKey key).run q = .ok () r) :
    (¬ Blank key.column → Succeeds (Direction.ofText key.direction)) ∧
      r = { q with order := q.order ++ (Step.sortKeys [key]).map fun k => ⟨q.reference k.1, k.2⟩ } := by
  rw [sortKey] at done
  rw [← Text.nonblank?_isSome, Step.sortKeys, List.filterMap_cons]
  cases present : Text.nonblank? key.column with
  | none =>
    rw [present] at done
    cases done
    simp
  | some t =>
    rw [present] at done
    obtain ⟨direction, s, checked, written⟩ := run_bind_eq_ok.1 done
    obtain ⟨known, rfl⟩ := check_eq_ok checked
    cases written
    simp [known, Except.toOption, Query.edit]

/-- A key of a sort that breaks off has a column and an unknown direction. -/
lemma direction_of_sortKey {key : SortKey} (wrong : (sortKey key).run q = .error fault r) :
    ¬ Blank key.column ∧ ¬ Succeeds (Direction.ofText key.direction) := by
  rw [sortKey] at wrong
  rw [← Text.nonblank?_isSome]
  cases present : Text.nonblank? key.column with
  | none =>
    rw [present] at wrong
    cases wrong
  | some t =>
    rw [present] at wrong
    cases run_bind_eq_error.1 wrong with
    | inl here => exact ⟨⟨t, rfl⟩, not_succeeds_of_check here⟩
    | inr later =>
      obtain ⟨direction, s, -, wrong⟩ := later
      cases wrong

/-- Keys of a sort add their terms one after the other. -/
lemma sortKeys_eq_ok {keys : List SortKey} (done : (keys.forM sortKey).run q = .ok () r) :
    (∀ k ∈ keys, ¬ Blank k.column → Succeeds (Direction.ofText k.direction)) ∧
      r = { q with order := q.order ++ (Step.sortKeys keys).map fun k => ⟨q.reference k.1, k.2⟩ } := by
  induction keys generalizing q with
  | nil =>
    cases done
    exact ⟨by simp, by simp [Step.sortKeys]⟩
  | cons k rest ih =>
    obtain ⟨_, s, first, later⟩ := run_bind_eq_ok.1 done
    obtain ⟨here, rfl⟩ := sortKey_eq_ok first
    obtain ⟨known, rfl⟩ := ih later
    refine ⟨List.forall_mem_cons.2 ⟨here, known⟩, ?_⟩
    have split : Step.sortKeys (k :: rest) = Step.sortKeys [k] ++ Step.sortKeys rest :=
      List.filterMap_append (l := [k])
    rw [split, List.map_append, ← List.append_assoc]
    -- the references are those of `q`, which sort terms do not change
    rfl

end Handler

namespace Query
variable {q : Query}

/-- What is wrong with a step is what its handler breaks off with. -/
lemma run_handle_of_apply {schema : String} {s : Step} {fault : StepFault}
    (wrong : (q.apply schema s).2 = some fault) :
    (s.handle schema).run q = .error fault (q.apply schema s).1 := by
  rw [apply] at wrong ⊢
  cases outcome : (s.handle schema).run q with
  | ok a r =>
    rw [outcome] at wrong
    cases wrong
  | error found r =>
    rw [outcome] at wrong
    cases wrong
    rfl

/-- A step with a fault breaks off: whatever query it is applied to, a rename and a sort leave what comes
before the wrong entry, and every other step leaves the query as it was. -/
theorem apply_fault {schema : String} {s : Step} {fault : StepFault}
    (wrong : (q.apply schema s).2 = some fault) : s.BreaksOff q (q.apply schema s).1 := by
  have broken := run_handle_of_apply wrong
  generalize (q.apply schema s).1 = r at broken ⊢
  cases s with
  | rename mapping =>
    obtain ⟨before, entry, after, s, split, done, here⟩ := Handler.forM_broken broken
    obtain ⟨present, rfl⟩ := Handler.renameEntries_eq_ok done
    refine ⟨before, entry, after, split, present, Handler.blank_of_renameEntry here, ?_⟩
    -- the wrong entry itself has written nothing
    exact Handler.checksFirst_renameEntry entry here
  | sort keys =>
    obtain ⟨before, key, after, s, split, done, here⟩ := Handler.forM_broken broken
    obtain ⟨known, rfl⟩ := Handler.sortKeys_eq_ok done
    obtain ⟨present, unknown⟩ := Handler.direction_of_sortKey here
    refine ⟨before, key, after, split, known, present, unknown, ?_⟩
    exact Handler.checksFirst_sortKey key here
  | _ => exact Step.checksFirst_handle (by simp) (by simp) broken

/-- A rename keeps the two names of a column that come before an entry without an alias, of which the second
takes the place of the first, a sort keeps the term of its first key, and a filter keeps nothing. -/
theorem apply_fault_broken :
    let rename : Step := .rename (.ofList [(" a", "b"), ("a ", " c"), ("d", " "), ("e", "f")])
    let sort : Step := .sort [⟨" ", some "up"⟩, ⟨"a", some "desc"⟩, ⟨"b", some "up"⟩, ⟨"c", none⟩]
    let filter : Step := .filter [⟨"a", some "=", .null⟩, ⟨"b", some "like it", .null⟩] none
    let q : Query := ({} : Query).edit (.change "a" (.trim .both))
    (∃ fault, (q.apply "" rename).2 = some fault) ∧ rename.BreaksOff q (q.apply "" rename).1 ∧
      (q.apply "" rename).1.renames.entries = [("a", "c")] ∧
      (∃ fault, (q.apply "" sort).2 = some fault) ∧ sort.BreaksOff q (q.apply "" sort).1 ∧
      (q.apply "" sort).1.order = [⟨.changed (.field "a") (.trim .both), .descending⟩] ∧
      (∃ fault, (q.apply "" filter).2 = some fault) ∧ (q.apply "" filter).1 = q := by
  intro rename sort filter q
  have wrong : (q.apply "" rename).2 = some (.defective .incompleteRename) := by decide +kernel
  have unsorted : (q.apply "" sort).2 = some (.rejected (.word .direction "up")) := by
    decide +kernel
  have unfiltered : (q.apply "" filter).2 = some (.rejected (.word .comparison "like it")) := by
    decide +kernel
  exact ⟨⟨_, wrong⟩, apply_fault wrong, by decide +kernel, ⟨_, unsorted⟩, apply_fault unsorted,
    by decide +kernel, ⟨_, unfiltered⟩, apply_fault unfiltered⟩

end Query

end QueryRecipe
