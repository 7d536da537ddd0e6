import QueryRecipe.Proofs.Json.RoundTrip
import QueryRecipe.Proofs.Recipe.Nesting

/-!
# Recipes are kept in their texts

A recipe is read back from its text if lists and objects nest at most 127 deep in it, and only then. That
is so for every recipe that was read from a text. What this rests on is that the numbers of the format
binary64 in the recipe are read back from theirs.
-/

namespace QueryRecipe.Recipe

open Json (Legal ReadsBack)

/-- Nobody passes over a member that a recipe is written with. -/
lemma seen_toJson (r : Recipe) : r.toJson.Seen fun name => !fieldNames.contains name := by
  rw [toJson]
  cases r.dialect with
  | none => simp [Json.Seen, fieldNames]
  | some d => simp [Json.Seen, fieldNames]

/-- What is read from a text is not written deeper than a document can be. -/
lemma within_of_ofText {document r} (read : ofText document = .ok r) : r.toJson.Within Legal 127 := by
  obtain ⟨j, document, decoded⟩ := bind_eq_ok.1 read
  exact within_of_ofJson rfl decoded (Json.visible_of_read document)

/-- The doubles of a recipe within the limits are finite. -/
lemma isFinite_of_within {r : Recipe} {n} (h : r.toJson.Within Legal n) :
    ∀ x ∈ r.doubles, x.isFinite = true :=
  (all_toJson Literal.legal_int Json.legal_count r).1 h.numbers

/-- A recipe is read back from its text if it does not nest too deep. -/
lemma ofText_of_depth {r : Recipe} (numbers : ∀ x ∈ r.doubles, ReadsBack (.double x))
    (shallow : r.toJson.depth ≤ 127) : ofText r.text = .ok r := by
  have ints (n : Int64) : ReadsBack (.int n.toInt) :=
    Json.readsBack_int (Literal.legal_int n).1 (Literal.legal_int n).2
  have counts (n : UInt64) : ReadsBack (.int n.toNat) :=
    Json.readsBack_int (Json.legal_count n).1 (Json.legal_count n).2
  have within : r.toJson.Within ReadsBack 127 := ⟨shallow, (all_toJson ints counts r).2 numbers⟩
  rw [ofText, text, Json.readSkipping_text within r.seen_toJson]
  exact ofJson_toJson r

/-- Recipes are kept in their texts: a recipe with finite numbers is read back from its text exactly if
lists and objects nest at most 127 deep in it, and a recipe that was read from a text always is. -/
theorem ofText_text {r : Recipe}
    (numbers : ∀ x ∈ r.doubles, x.isFinite = true → ReadsBack (.double x)) :
    (ofText r.text = .ok r ↔ (∀ x ∈ r.doubles, x.isFinite = true) ∧ r.toJson.depth ≤ 127) ∧
      ∀ document, ofText document = .ok r →
        ofText r.text = .ok r ∧ text <$> ofText r.text = .ok r.text := by
  have kept (finite : ∀ x ∈ r.doubles, x.isFinite = true) (shallow : r.toJson.depth ≤ 127) :
      ofText r.text = .ok r :=
    ofText_of_depth (fun x mem => numbers x mem (finite x mem)) shallow
  have bounds {document} (read : ofText document = .ok r) :
      (∀ x ∈ r.doubles, x.isFinite = true) ∧ r.toJson.depth ≤ 127 :=
    ⟨isFinite_of_within (within_of_ofText read), (within_of_ofText read).shallow⟩
  refine ⟨⟨bounds, fun h => kept h.1 h.2⟩, fun document read => ?_⟩
  have again : ofText r.text = .ok r := kept (bounds read).1 (bounds read).2
  refine ⟨again, ?_⟩
  rw [again]
  rfl

/-- A recipe with a large count, a number that is written with an exponent, a list in a list, a map and
characters that are escaped. -/
def report : Recipe where
  table := "orders"
  steps := [
    .filter [{ column := "size", operand := .list [.int (-1), .list [.double ⟨0x4341C37937E08000⟩]] }] none,
    .rename (.ofList [("b", "\n"), ("a", "\"")]),
    .limit (some 18446744073709551615) none]
  dialect := some .mysql

/-- The report is read back, and its text is written again. -/
theorem ofText_text_report :
    (∀ x ∈ report.doubles, x.isFinite = true → ReadsBack (.double x)) ∧
      ofText report.text = .ok report ∧ text <$> ofText report.text = .ok report.text := by
  have numbers : ∀ x ∈ report.doubles, x.isFinite = true → ReadsBack (.double x) := by decide +kernel
  have kept : ofText report.text = .ok report :=
    (ofText_text numbers).1.2 ⟨by decide +kernel, by decide +kernel⟩
  exact ⟨numbers, (ofText_text numbers).2 report.text kept⟩

/-- Lists in each other around the absent value. -/
def nested : Nat → Literal
  | 0 => .null
  | n + 1 => .list [nested n]

/-- A recipe with one condition, whose operand nests too deep for a document. -/
def deep : Recipe where
  schema := "shop"
  table := "orders"
  steps := [.filter [{ column := "size", comparison := some "is_null", operand := nested 123 }] none]

/-- A recipe that nests deeper cannot be read back. -/
theorem ofText_deep : (∀ x ∈ deep.doubles, x.isFinite = true) ∧ ofText deep.text ≠ .ok deep := by
  refine ⟨by decide +kernel, fun read => ?_⟩
  exact absurd (within_of_ofText read).shallow (by decide +kernel)

end QueryRecipe.Recipe
