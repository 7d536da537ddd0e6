import QueryRecipe.Compile
import QueryRecipe.Proofs.Query.Sound
import QueryRecipe.Proofs.Step.Within

/-!
# Queries that steps lead to

A query is reachable if steps lead to it from the empty one, each applied as far as it goes: also a step
with a fault, of which the edits before the fault stay (`Query.Reachable`). The edits of every step are
sound, whether or not it has a fault (`Step.edits_sound`), so every reachable query is
(`Query.sound_of_reachable`).
-/

namespace QueryRecipe

open Text (Tidy)

section Labels

/-- No letter, digit or underscore turns blank in lower case. -/
lemma isBlank_toLower : ∀ n : Fin 128,
    ((Char.ofNat n).isUpper = true ∨ (Char.ofNat n).isDigit = true ∨ Char.ofNat n = '_') →
      Text.isBlank (Char.ofNat n).toLower = false := by
  decide +kernel

/-- Basic characters are brought into lower case one by one. -/
lemma Text.lowerAfter_basic {before s : List Char} (h : ∀ c ∈ s, c.toNat < 128) :
    lowerAfter before s = s.map Char.toLower := by
  induction s generalizing before with
  | nil => rfl
  | cons c r ih =>
    obtain ⟨now, later⟩ := List.forall_mem_cons.1 h
    have ne : c ≠ 'Σ' := by
      rintro rfl
      exact absurd now (by decide)
    rw [lowerAfter, if_neg ne, lowerChar, if_pos now, ih later]
    rfl

/-- Replacing a character by a single one goes character by character. -/
lemma Text.replaceChar_one {c d : Char} {s : List Char} :
    replaceChar c [d] s = s.map fun a => if a = c then d else a := by
  rw [replaceChar, ← List.flatMap_singleton' (s.map _), List.flatMap_map]
  congr 1
  funext a
  split <;> rfl

/-- The characters of a function name are basic ones. -/
lemma IsFunctionName.mem {s c} (h : IsFunctionName s) (mem : c ∈ s) :
    c.toNat < 128 ∧ (c.isUpper = true ∨ c.isDigit = true ∨ c = '_') := by
  obtain ⟨a, r, rfl, first, rest⟩ := h
  have kind : c.isUpper = true ∨ c.isDigit = true ∨ c = '_' := by
    cases List.mem_cons.1 mem with
    | inl same => exact same ▸ first.imp id .inr
    | inr later => exact rest c later
  refine ⟨?_, kind⟩
  rw [Lexer.isUpper_iff, Lexer.isDigit_iff] at kind
  rcases kind with upper | digit | rfl
  · omega
  · omega
  · decide

/-- A function in lower case is a word without blanks. -/
lemma lower_title {f : Aggregate} (h : f = .countDistinct ∨ IsFunctionName f.title.toList) :
    (Text.replace ' ' '_' (Text.lower f.title)).toList ≠ [] ∧
      ∀ c ∈ (Text.replace ' ' '_' (Text.lower f.title)).toList, Text.isBlank c = false := by
  rcases h with rfl | name
  · refine ⟨by decide +kernel, fun c mem => ?_⟩
    have solid : (Text.replace ' ' '_' (Text.lower Aggregate.countDistinct.title)).toList.all
        (fun c => !Text.isBlank c) = true := by
      decide +kernel
    simpa using List.all_eq_true.1 solid c mem
  · have basic : ∀ c ∈ f.title.toList, c.toNat < 128 := fun c mem => (name.mem mem).1
    rw [Text.replace, Text.lower, String.toList_ofList, String.toList_ofList, Text.replaceChar_one,
      Text.lowerAfter_basic basic]
    constructor
    · obtain ⟨c, r, e, -⟩ := name
      simp [e]
    · simp only [List.forall_mem_map]
      intro c mem
      obtain ⟨basic, kind⟩ := name.mem mem
      split
      next => decide
      next =>
        have here := isBlank_toLower ⟨c.toNat, basic⟩
        rw [Char.ofNat_toNat] at here
        exact here kind

/-- The name that an aggregate is given when it has none is tidy. -/
lemma tidy_defaultLabel {f : Aggregate} {column : String}
    (h : f = .countDistinct ∨ IsFunctionName f.title.toList) (hc : Tidy column) :
    Tidy (f.defaultLabel column) := by
  obtain ⟨ne, solid⟩ := lower_title h
  have name : Tidy (Text.replace ' ' '_' (Text.lower f.title)) := by
    obtain ⟨c, first⟩ := Option.ne_none_iff_exists'.1 (mt List.head?_eq_none_iff.1 ne)
    obtain ⟨l, last⟩ := Option.ne_none_iff_exists'.1 (mt List.getLast?_eq_none_iff.1 ne)
    exact Text.tidy_iff.2 ⟨⟨c, first, solid c (List.mem_of_mem_head? first)⟩, l, last,
      solid l (List.mem_of_getLast? last)⟩
  have replaced : Tidy (Text.replace '.' '_' column) := by
    obtain ⟨⟨c, first, hc⟩, l, last, hl⟩ := Text.tidy_iff.1 hc
    have kept {a : Char} (ha : Text.isBlank a = false) :
        Text.isBlank (if a = '.' then '_' else a) = false := by
      split
      next => decide
      next => exact ha
    rw [Text.tidy_iff, Text.replace, String.toList_ofList, Text.replaceChar_one]
    refine ⟨⟨_, ?_, kept hc⟩, _, ?_, kept hl⟩
    · simp [show column.toList.head? = some c from first]
    · simp [show column.toList.getLast? = some l from last]
  rw [Aggregate.defaultLabel]
  split
  next => exact name
  next => exact name.append "_" replaced

end Labels

namespace Step

/-- A needed text is tidy once it is read. -/
lemma tidy_of_needed {d s t} (h : needed d s = .ok t) : Tidy t := by
  rw [needed] at h
  cases present : Text.nonblank? s with
  | none =>
    rw [present] at h
    cases h
  | some u =>
    rw [present] at h
    cases h
    exact Text.tidy_of_nonblank? present

/-- A word that is given is tidy. -/
lemma tidy_of_givenWord? {s t} (h : givenWord? s = some t) : Tidy t := by
  obtain ⟨u, -, present⟩ := Option.bind_eq_some_iff.1 h
  exact Text.tidy_of_nonblank? present

/-- What screening accepts it accepts again. -/
lemma screen_again {s t} (h : screen s = .ok t) : screen t = .ok t := by
  obtain ⟨rfl, fine⟩ := screen_eq_ok_iff.1 h
  exact screen_eq_ok_iff.2 ⟨(Text.trim_trim s).symm, fine⟩

/-- The name of any other aggregate is free of the forbidden keywords. -/
lemma free_of_ofText {s name} (h : Aggregate.ofText s = .ok (.other name)) :
    Keyword.Free Keyword.forbidden name.toList := by
  rw [Aggregate.ofText] at h
  split at h
  next f known =>
    cases h
    exact absurd known named?_ne_other
  next =>
    dsimp only at h
    split at h
    next accepted =>
      cases h
      rw [Bool.and_eq_true, Option.isNone_iff_eq_none] at accepted
      exact Keyword.find?_eq_none_iff_free.1 accepted.2
    next => cases h

/-- A resolved aggregation is sound. -/
lemma aggregate_sound {a : Aggregation} {c : AggregateColumn} (h : resolveAggregation a = .ok c) :
    c.Sound := by
  obtain ⟨f, known, h⟩ := bind_eq_ok.1 h
  rw [checked_eq_ok] at known
  have name := isFunctionName_of_ofText known
  have made {column} (tidy : Tidy column) :
      AggregateColumn.Sound ⟨f, column, (givenWord? a.label).getD (f.defaultLabel column)⟩ := by
    refine ⟨tidy, ?_, ?_⟩
    · show Tidy ((givenWord? a.label).getD _)
      cases label : givenWord? a.label with
      | none => exact tidy_defaultLabel name tidy
      | some l => exact tidy_of_givenWord? label
    · rintro title rfl
      exact ⟨name.resolve_left nofun, free_of_ofText known⟩
  split at h
  next t present =>
    cases h
    exact made (Text.tidy_of_nonblank? present)
  next =>
    split at h
    next =>
      cases h
      exact made (Text.tidy_iff.2 ⟨⟨'*', rfl, by decide⟩, '*', rfl, by decide⟩)
    next => cases h

/-- The edit of a step that changes a column is sound. -/
lemma sound_of_changing {column x e} (mem : e ∈ (Resolution.whole (changing column x)).edits) :
    e.Sound := by
  obtain ⟨es, resolved, mem⟩ := Resolution.mem_whole mem
  obtain ⟨c, present, resolved⟩ := bind_eq_ok.1 resolved
  obtain ⟨change, -, ⟨⟩⟩ := bind_eq_ok.1 resolved
  cases List.mem_singleton.1 mem
  exact tidy_of_needed present

/-- The edits of a step are sound, also of a step with a fault. -/
lemma edits_sound (schema : String) (s : Step) : ∀ e ∈ (s.resolve schema).edits, e.Sound := by
  intro e mem
  have tidy {xs : List String} : ∀ x ∈ Text.nonblanks xs, Tidy x :=
    fun x => Text.tidy_of_mem_nonblanks
  cases s with
  | select columns =>
    cases present : Text.nonblanks columns with
    | nil => simp [resolve, present, Resolution.whole] at mem
    | cons c rest =>
      simp only [resolve, present, Resolution.whole, List.mem_singleton] at mem
      rw [mem, ← present]
      exact tidy
  | rename mapping =>
    obtain ⟨entry, -, es, resolved, mem⟩ := Resolution.mem_each mem
    obtain ⟨column, present, rest⟩ := bind_eq_ok.1 resolved
    obtain ⟨label, present', ⟨⟩⟩ := bind_eq_ok.1 rest
    cases List.mem_singleton.1 mem
    exact ⟨tidy_of_needed present, tidy_of_needed present'⟩
  | reorder columns =>
    cases List.mem_singleton.1 mem
    exact tidy
  | cast | replace | trim | fillNull =>
    rw [resolve] at mem
    exact sound_of_changing mem
  | recase column mode =>
    cases mode with
    | none | some =>
      rw [resolve] at mem
      exact sound_of_changing mem
  | addColumn name expression =>
    obtain ⟨es, resolved, mem⟩ := Resolution.mem_whole mem
    rw [resolveAddColumn] at resolved
    split at resolved
    next named given =>
      obtain ⟨t, accepted, ⟨⟩⟩ := bind_eq_ok.1 resolved
      cases List.mem_singleton.1 mem
      exact ⟨screen_again (checked_eq_ok.1 accepted), tidy_of_givenWord? named⟩
    next => cases resolved
  | dropColumn columns =>
    cases List.mem_singleton.1 mem
    exact tidy
  | filter conditions connective =>
    obtain ⟨es, resolved, mem⟩ := Resolution.mem_whole mem
    obtain ⟨k, -, rest⟩ := bind_eq_ok.1 resolved
    obtain ⟨ts, -, ⟨⟩⟩ := bind_eq_ok.1 rest
    split at mem
    next => cases mem
    next ne =>
      cases List.mem_singleton.1 mem
      exact ne
  | sort keys =>
    cases asks_of_mem mem with
    | change made => cases made
    | sort => trivial
  | deduplicate columns =>
    cases present : Text.nonblanks columns with
    | nil =>
      simp only [resolve, present, Resolution.whole, List.mem_singleton] at mem
      rw [mem]
      rintro _ ⟨⟩
    | cons c rest =>
      simp only [resolve, present, Resolution.whole, List.mem_singleton] at mem
      rw [mem]
      rintro _ ⟨⟩
      exact ⟨List.cons_ne_nil c rest, present ▸ tidy⟩
  | limit count offset =>
    cases List.mem_singleton.1 mem
    trivial
  | join table joinSchema kind label keys columns =>
    obtain ⟨es, resolved, mem⟩ := Resolution.mem_whole mem
    obtain ⟨k, pairs, -, -, rfl⟩ := resolveJoin_eq_ok resolved
    cases List.mem_singleton.1 mem
    exact ⟨fun l => tidy_of_givenWord?, tidy⟩
  | union table unionSchema all =>
    obtain ⟨es, resolved, mem⟩ := Resolution.mem_whole mem
    obtain ⟨t, present, ⟨⟩⟩ := bind_eq_ok.1 resolved
    cases List.mem_singleton.1 mem
    exact tidy_of_needed present
  | groupBy columns aggregations =>
    obtain ⟨es, resolved, mem⟩ := Resolution.mem_whole mem
    obtain ⟨aggregates, made, resolved⟩ := bind_eq_ok.1 resolved
    split at resolved
    next => cases resolved
    next something =>
      cases resolved
      cases List.mem_singleton.1 mem
      refine ⟨not_and_or.1 something, tidy, fun a mem => ?_⟩
      obtain ⟨asked, -, resolved⟩ := mem_of_mapM made mem
      exact aggregate_sound resolved

end Step

namespace Query

/-- The queries that steps lead to, each step of a recipe with some schema, with or without a fault. -/
inductive Reachable : Query → Prop where
  | empty : Reachable {}
  | apply {q} (schema : String) (s : Step) :
    Reachable q →
    Reachable (q.apply schema s).1

/-- Every query that steps lead to is sound. -/
theorem sound_of_reachable {q : Query} (h : Reachable q) : q.Sound := by
  induction h with
  | empty => exact Sound.empty
  | apply schema s _ ih =>
    rw [apply_eq]
    exact ih.edits (Step.edits_sound schema s)

/-- A rename that is broken off keeps its first entry, and a sort step its first term. -/
theorem sound_of_broken_steps :
    let rename : Step := .rename (.ofList [(" a ", "b"), ("c", " ")])
    let sort : Step := .sort [⟨" a", none⟩, ⟨"b", some "up"⟩]
    let join : Step := .join "sizes" none none none [⟨"size", "id"⟩] [" name "]
    let q := ((((({} : Query).apply "" (.reorder ["a"])).1.apply "" rename).1.apply "" sort).1.apply
      "" join).1
    Reachable q ∧ q.renames.entries = [("a", "b")] ∧ q.order.length = 1 ∧
      q.columns = .explicit ["a", "j1.name"] ∧ q.Sound := by
  intro rename sort join q
  have reachable : Reachable q :=
    .apply "" join (.apply "" sort (.apply "" rename (.apply "" (.reorder ["a"]) .empty)))
  refine ⟨reachable, ?_, ?_, ?_, sound_of_reachable reachable⟩ <;> decide +kernel

end Query

end QueryRecipe
