import QueryRecipe.Json.Printer
import QueryRecipe.Json.Reader
import QueryRecipe.Proofs.Text.Digits

/-!
# Numerals are read back

A numeral that is a document of its own is read as the same number wherever a value may stand
(`run_number`). Integers of 64 bits are read back from their texts (`readsBack_int`).
-/

namespace QueryRecipe.Json

open Text

namespace Reader

/-- What becomes of a reader in the rest of a text. -/
def run (skips : String → Bool) (r : Reader) (cs : List Char) : Except Fault Json :=
  cs.foldlM (step skips) r >>= finish

section Run
variable {skips : String → Bool} {stack : List Frame} {rest : List Char}

/-- Behind its last character a text is finished. -/
lemma run_nil {r} : run skips r [] = r.finish :=
  rfl

/-- A text is read by its first character and then the rest. -/
lemma run_cons {r c} :
    run skips r (c :: rest) = step skips r c >>= fun r => run skips r rest := by
  rw [run, List.foldlM_cons, bind_assoc]
  rfl

/-- A character that is read leads to the reader that reads the rest. -/
lemma run_step {r r' c} (h : step skips r c = .ok r') : run skips r (c :: rest) = run skips r' rest := by
  rw [run_cons, h]
  rfl

/-- What has been expected does not matter once a value is complete. -/
lemma accept_next {next unseen v} :
    accept ⟨stack, next, unseen⟩ v = accept ⟨stack, .separator, unseen⟩ v := by
  cases stack with
  | nil => rfl
  | cons frame _ => cases frame <;> rfl

/-- Between values the next character is read as such. -/
lemma step_accept {next unseen v c} :
    step skips (accept ⟨stack, next, unseen⟩ v) c = (accept ⟨stack, next, unseen⟩ v).between c := by
  cases stack with
  | nil => rfl
  | cons frame _ => cases frame <;> rfl

end Run

section Digit

/-- The value of a digit. -/
def digitValue (c : Char) : Nat :=
  c.toNat - '0'.toNat

/-- A digit has its value. -/
lemma digit?_of_isDigit {c : Char} (h : c.isDigit = true) : digit? c = some (digitValue c) := by
  have range : '0' ≤ c ∧ c ≤ '9' := by simpa [Char.isDigit, Char.le_def] using h
  exact if_pos range

/-- The digits are ten, and each is written as itself. -/
lemma digit?_eq_some {c d} (h : digit? c = some d) : d < 10 ∧ c = Char.ofNat ('0'.toNat + d) := by
  obtain ⟨⟨least, most⟩, value⟩ := Option.ite_none_right_eq_some.1 h
  cases value
  have least : '0'.toNat ≤ c.toNat := UInt32.le_iff_toNat_le.1 least
  have most : c.toNat ≤ '9'.toNat := UInt32.le_iff_toNat_le.1 most
  refine ⟨?_, ?_⟩
  · have nine : '9'.toNat = 57 := rfl
    have zero : '0'.toNat = 48 := rfl
    omega
  · rw [Nat.add_sub_of_le least, Char.ofNat_toNat]

/-- A digit starts a numeral. -/
lemma start_digit {c d} (h : digit? c = some d) (r : Reader) :
   r.start c = .ok { r with next := .numeral (if d = 0 then .zero else .whole) { whole := [d] } } := by
  obtain ⟨lt, rfl⟩ := digit?_eq_some h
  interval_cases d <;> rfl

/-- A digit is neither a space nor the end of a list. -/
lemma digit_spec {c d} (h : digit? c = some d) : isSpace c = false ∧ c ≠ ']' := by
  obtain ⟨lt, rfl⟩ := digit?_eq_some h
  revert d
  decide

/-- The digits of a number have its value. -/
lemma ofDigits_digitsOf (n : Nat) : ofDigits ((digitsOf n).map digitValue) = n := by
  rw [ofDigits, List.foldl_map]
  refine Eq.trans ?_ (Nat.ofDigitChars_ten_toDigits (n := n))
  rw [Nat.ofDigitChars]
  congr
  funext k c
  rw [Nat.mul_comm]
  rfl

end Digit

/-- Characters that numerals are written with. -/
def InNumeral (c : Char) : Prop :=
  (∃ d, digit? c = some d) ∨ c ∈ ['.', 'e', '+', '-']

/-- The other characters of numerals are neither digits nor spaces. -/
lemma symbol_spec {c} (h : c ∈ ['.', 'e', '+', '-']) : digit? c = none ∧ isSpace c = false := by
  simp only [List.mem_cons, List.not_mem_nil, or_false] at h
  rcases h with rfl | rfl | rfl | rfl <;> decide

/-- A document that is a number goes on with blanks only. -/
lemma acceptNumeral_between {next m c} (space : isSpace c = false) :
    (do (← acceptNumeral ⟨[], next, false⟩ m).between c) = .error .malformed := by
  unfold acceptNumeral
  cases (inOrder m).value? with
  | none => rfl
  | some v =>
    show between ⟨[], .nothing v, false⟩ c = _
    simp [between, space]

/-- A character of numerals goes on with a numeral wherever that stands, or else it cannot stand there
in a document that is a number. -/
lemma step_numeral {part m c} (h : InNumeral c) :
    (∃ part' m', ∀ skips stack, step skips ⟨stack, .numeral part m, false⟩ c =
      .ok ⟨stack, .numeral part' m', false⟩) ∨
    ∀ skips, step skips ⟨[], .numeral part m, false⟩ c = .error .malformed := by
  rcases h with ⟨d, digit⟩ | symbol
  · cases part with
    | zero => exact .inr fun _ => by simp only [step, inNumeral, digit]
    | _ => exact .inl ⟨_, _, fun _ _ => by simp only [step, inNumeral, digit]; rfl⟩
  · obtain ⟨noDigit, space⟩ := symbol_spec symbol
    cases part with
    | sign | point | exponentSign => exact .inr fun _ => by simp only [step, inNumeral, noDigit]
    | exponent =>
      refine .inr fun _ => ?_
      simp only [step, inNumeral, noDigit]
      exact acceptNumeral_between space
    | mark =>
      simp only [step, inNumeral, noDigit]
      split_ifs
      · exact .inl ⟨_, _, fun _ _ => rfl⟩
      · exact .inl ⟨_, _, fun _ _ => rfl⟩
      · exact .inr fun _ => rfl
    | _ =>
      simp only [step, inNumeral, noDigit]
      split_ifs
      · exact .inl ⟨_, _, fun _ _ => rfl⟩
      · exact .inl ⟨_, _, fun _ _ => rfl⟩
      · exact .inr fun _ => acceptNumeral_between space

/-- A character of numerals starts one wherever a value may stand, or else no document starts with it. -/
lemma step_value {c} (h : InNumeral c) :
    (∃ part m, ∀ skips stack closable, step skips ⟨stack, .value closable, false⟩ c =
      .ok ⟨stack, .numeral part m, false⟩) ∨
    ∀ skips, step skips ⟨[], .value false, false⟩ c = .error .malformed := by
  rcases h with ⟨d, digit⟩ | symbol
  · obtain ⟨space, close⟩ := digit_spec digit
    refine .inl ⟨if d = 0 then .zero else .whole, { whole := [d] }, fun _ _ _ => ?_⟩
    simp [step, space, close, start_digit digit]
  · simp only [List.mem_cons, List.not_mem_nil, or_false] at symbol
    rcases symbol with rfl | rfl | rfl | rfl
    · exact .inr fun _ => rfl
    · exact .inr fun _ => rfl
    · exact .inr fun _ => rfl
    · exact .inl ⟨_, _, fun _ _ closable => by cases closable <;> rfl⟩

/-- What may follow a value: nothing, a comma or the end of a list or an object. -/
def Follows (rest : List Char) : Prop :=
  ∀ c ∈ rest.head?, c ∈ [',', ']', '\x7d']

/-- What follows a value does not continue a numeral. -/
lemma separator_spec {c} (h : c ∈ [',', ']', '\x7d']) :
    digit? c = none ∧ c ≠ 'e' ∧ c ≠ 'E' ∧ c ≠ '.' := by
  simp only [List.mem_cons, List.not_mem_nil, or_false] at h
  rcases h with rfl | rfl | rfl <;> decide

/-- A separator may follow a value. -/
lemma follows_cons {c rest} (h : c ∈ [',', ']', '\x7d']) : Follows (c :: rest) := by
  rintro _ ⟨⟩
  exact h

section Numeral
variable {skips : String → Bool} {stack : List Frame} {rest : List Char}

/-- A numeral that may end is read as its number. -/
lemma run_complete {part m v} (complete : part.complete = true) (value : (inOrder m).value? = some v)
    (follows : Follows rest) :
    run skips ⟨stack, .numeral part m, false⟩ rest =
      run skips (accept ⟨stack, .numeral part m, false⟩ v) rest := by
  have accepted {next} : acceptNumeral ⟨stack, next, false⟩ m = .ok (accept ⟨stack, next, false⟩ v) := by
    rw [acceptNumeral, value]
  cases rest with
  | nil =>
    rw [run_nil, run_nil]
    simp only [finish, complete, accepted]
    cases stack with
    | nil => rfl
    | cons frame _ => cases frame <;> rfl
  | cons c rest =>
    obtain ⟨noDigit, small, large, point⟩ := separator_spec (follows c rfl)
    have now : step skips ⟨stack, .numeral part m, false⟩ c =
        step skips (accept ⟨stack, .numeral part m, false⟩ v) c := by
      rw [step_accept]
      cases part with
      | sign | point | mark | exponentSign => cases complete
      | _ =>
        simp only [step, inNumeral, noDigit, small, large, point, accepted]
        rfl
    rw [run_cons, now, run_cons]

/-- The characters of a numeral are read in the same way wherever it stands. -/
lemma run_numeral {cs part m v} (chars : ∀ c ∈ cs, InNumeral c)
    (h : run (fun _ => false) ⟨[], .numeral part m, false⟩ cs = .ok v) :
    ∃ part' m', part'.complete = true ∧ (inOrder m').value? = some v ∧
      ∀ stack rest, run skips ⟨stack, .numeral part m, false⟩ (cs ++ rest) =
        run skips ⟨stack, .numeral part' m', false⟩ rest := by
  induction cs generalizing part m with
  | nil =>
    simp only [run_nil, finish] at h
    split at h
    next complete =>
      refine ⟨part, m, complete, ?_, fun _ _ => rfl⟩
      unfold acceptNumeral at h
      cases value : (inOrder m).value? with
      | none =>
        rw [value] at h
        cases h
      | some w =>
        rw [value] at h
        cases h
        rfl
    next => cases h
  | cons c cs ih =>
    obtain ⟨first, others⟩ := List.forall_mem_cons.1 chars
    cases step_numeral first with
    | inl leads =>
      obtain ⟨part', m', leads⟩ := leads
      rw [run_step (leads _ _)] at h
      obtain ⟨part'', m'', complete, value, same⟩ := ih others h
      exact ⟨part'', m'', complete, value, fun stack rest =>
        (run_step (leads _ _)).trans (same stack rest)⟩
    | inr wrong =>
      rw [run_cons, wrong] at h
      cases h

/-- A number that is a document of its own is read wherever a value may stand. -/
lemma run_number {cs v closable} (chars : ∀ c ∈ cs, InNumeral c)
    (h : run (fun _ => false) {} cs = .ok v) (follows : Follows rest) :
    run skips ⟨stack, .value closable, false⟩ (cs ++ rest) =
      run skips (accept ⟨stack, .separator, false⟩ v) rest := by
  cases cs with
  | nil => cases h
  | cons c cs =>
    obtain ⟨first, others⟩ := List.forall_mem_cons.1 chars
    cases step_value first with
    | inl starts =>
      obtain ⟨part, m, starts⟩ := starts
      rw [run_step (starts _ _ _)] at h
      obtain ⟨part', m', complete, value, same⟩ := run_numeral others h
      rw [List.cons_append, run_step (starts _ _ _), same, run_complete complete value follows, accept_next]
    | inr wrong =>
      rw [run_cons, wrong] at h
      cases h

/-- Digits extend the whole part of a numeral. -/
lemma run_digits {cs : List Char} {m : Numeral} (digits : ∀ c ∈ cs, c.isDigit = true) :
    run skips ⟨stack, .numeral .whole m, false⟩ cs =
      run skips ⟨stack, .numeral .whole
        { m with whole := (cs.map digitValue).reverse ++ m.whole }, false⟩ [] := by
  induction cs generalizing m with
  | nil => rfl
  | cons c cs ih =>
    obtain ⟨first, others⟩ := List.forall_mem_cons.1 digits
    have now : step skips ⟨stack, .numeral .whole m, false⟩ c =
        .ok ⟨stack, .numeral .whole { m with whole := digitValue c :: m.whole }, false⟩ := by
      simp only [step, inNumeral, digit?_of_isDigit first]
      rfl
    rw [run_step now, ih others]
    simp

/-- Digits after the first one of a document are read as the number that the digits have together. -/
lemma run_whole {negative c cs} {digits : List Char} {v} (all : ∀ a ∈ digits, a.isDigit = true)
    (split : digits = c :: cs)
    (value : Numeral.value? { negative, whole := digits.map digitValue } = some v) :
    run skips ⟨[], .numeral .whole { negative, whole := [digitValue c] }, false⟩ cs = .ok v := by
  subst split
  rw [run_digits fun a mem => all a (List.mem_cons_of_mem c mem), run_nil]
  have order : inOrder { negative, whole := (cs.map digitValue).reverse ++ [digitValue c] } =
      { negative, whole := (c :: cs).map digitValue } := by
    simp [inOrder]
  simp only [finish, NumeralPart.complete, acceptNumeral, order, value]
  rfl

end Numeral

end Reader

/-- The number is read back from its text. -/
def ReadsBack (v : Json) : Prop :=
  Json.read v.text = .ok v

instance (x : Binary64) : Decidable (ReadsBack (.double x)) :=
  decidable_of_iff
    ((match Json.read (Json.double x).text with
      | .ok (.double y) => y == x
      | _ => false) = true) <| by
    rw [ReadsBack]
    split
    next y read => simp [read]
    next other => simpa using other x

/-- Digits with a sign stand for an integer as long as 64 bits hold it. -/
lemma value?_int {n : Int} (least : Int64.minValue.toInt ≤ n) (most : n < UInt64.size) :
    Numeral.value? { negative := decide (n < 0)
                     whole := (digitsOf n.natAbs).map Reader.digitValue } = some (.int n) := by
  simp only [Numeral.value?, Reader.ofDigits_digitsOf]
  by_cases negative : n < 0
  · have pos : 0 < n.natAbs := by omega
    have bound : Int64.minValue.toInt ≤ -(n.natAbs : Int) := by omega
    have same : -(n.natAbs : Int) = n := by omega
    rw [decide_eq_true negative, decide_eq_true pos, decide_eq_true bound, same]
    rfl
  · have bound : n.natAbs < UInt64.size := by omega
    have same : (n.natAbs : Int) = n := by omega
    rw [decide_eq_false negative, decide_eq_true bound, same]
    rfl

open Reader in
/-- An integer of 64 bits is read back. -/
lemma readsBack_int {n : Int} (least : Int64.minValue.toInt ≤ n) (most : n < UInt64.size) :
    ReadsBack (.int n) := by
  have value := value?_int least most
  show Reader.run _ _ (String.ofList _).toList = _
  rw [String.toList_ofList, compact, Text.integerChars]
  by_cases zero : n = 0
  · subst zero
    rfl
  obtain ⟨c, cs, split, ne⟩ := digitsOf_cases (n := n.natAbs) (by omega)
  have first : digit? c = some (digitValue c) :=
    digit?_of_isDigit (isDigit_digitsOf (split ▸ List.mem_cons_self))
  have nonzero : digitValue c ≠ 0 := fun zero => ne (digit?_eq_some (zero ▸ first)).2
  have read : run (fun _ => false)
      ⟨[], .numeral .whole { negative := decide (n < 0), whole := [digitValue c] }, false⟩ cs =
        .ok (.int n) :=
    run_whole (fun _ => isDigit_digitsOf) split value
  split
  next negative =>
    rw [decide_eq_true negative] at read
    rw [split, run_step rfl, run_step _, read]
    simp [step, inNumeral, first, nonzero, addDigit]
  next natural =>
    rw [decide_eq_false natural] at read
    rw [split, run_step _, read]
    obtain ⟨space, close⟩ := digit_spec first
    simp [step, space, start_digit first, nonzero]

open Reader in
/-- A digit is a character of numerals. -/
lemma inNumeral_isDigit {c : Char} (h : c.isDigit = true) : InNumeral c :=
  .inl ⟨_, digit?_of_isDigit h⟩

open Reader in
/-- A decimal is laid out with characters of numerals if its digits are. -/
lemma inNumeral_place {l : Layout} {digits p} (h : ∀ c ∈ digits, InNumeral c) :
    ∀ c ∈ l.place digits p, InNumeral c := by
  have point : InNumeral '.' := .inr (by decide)
  have zero : InNumeral '0' := inNumeral_isDigit rfl
  have zeros (n : Nat) : ∀ c ∈ List.replicate n '0', InNumeral c := by
    intro c mem
    exact List.eq_of_mem_replicate mem ▸ zero
  rw [Layout.place]
  split_ifs
  · exact List.forall_mem_append.2 ⟨List.forall_mem_append.2 ⟨h, zeros _⟩, by simp [point, zero]⟩
  · exact List.forall_mem_append.2 ⟨List.forall_mem_append.2 ⟨h, zeros _⟩, by simp⟩
  · refine List.forall_mem_append.2 ⟨fun c mem => h c (List.mem_of_mem_take mem), ?_⟩
    exact List.forall_mem_cons.2 ⟨point, fun c mem => h c (List.mem_of_mem_drop mem)⟩
  · refine List.forall_mem_append.2 ⟨?_, h⟩
    exact List.forall_mem_cons.2 ⟨zero, List.forall_mem_cons.2 ⟨point, zeros _⟩⟩

open Reader in
/-- The digits of a number are characters of numerals. -/
lemma inNumeral_digitsOf {n} : ∀ c ∈ digitsOf n, InNumeral c :=
  fun _ mem => inNumeral_isDigit (isDigit_digitsOf mem)

open Reader in
/-- So are the characters of the layout with an exponent. -/
lemma inNumeral_scientific {digits e} (h : ∀ c ∈ digits, InNumeral c) :
    ∀ c ∈ Layout.scientific digits e, InNumeral c := by
  have symbol c (mem : c ∈ ['.', 'e', '+', '-']) : InNumeral c := .inr mem
  have sign : InNumeral (if e < 0 then '-' else '+') := by
    split_ifs <;> exact symbol _ (by decide)
  have tail : ∀ c ∈ if digits.length ≤ 1 then [] else '.' :: digits.drop 1, InNumeral c := by
    split_ifs
    · exact nofun
    · exact List.forall_mem_cons.2 ⟨symbol _ (by decide), fun c mem => h c (List.mem_of_mem_drop mem)⟩
  refine List.forall_mem_append.2 ⟨List.forall_mem_append.2 ⟨?_, tail⟩, ?_⟩
  · exact fun c mem => h c (List.mem_of_mem_take mem)
  · refine List.forall_mem_cons.2 ⟨symbol _ (by decide), ?_⟩
    exact List.forall_mem_cons.2 ⟨sign, inNumeral_digitsOf⟩

open Reader in
/-- The text of a double consists of characters of numerals. -/
lemma inNumeral_text {l : Layout} {x} : ∀ c ∈ (l.text x).toList, InNumeral c := by
  rw [Layout.text, String.toList_ofList]
  refine List.forall_mem_append.2 ⟨?_, ?_⟩
  · split_ifs
    · simpa using .inr (by decide)
    · exact nofun
  · simp only [Layout.decimalText]
    split_ifs
    · exact inNumeral_place inNumeral_digitsOf
    · exact inNumeral_scientific inNumeral_digitsOf

open Reader in
/-- A double is written with characters of numerals. -/
lemma inNumeral_compact_double {x} (h : ReadsBack (.double x)) : ∀ c ∈ compact (.double x), InNumeral c := by
  rw [compact, doubleText]
  split
  · exact inNumeral_text
  next infinite =>
    rw [ReadsBack, text, compact, doubleText, if_neg infinite] at h
    cases h

open Reader in
/-- An integer is written with characters of numerals. -/
lemma inNumeral_compact_int {n} : ∀ c ∈ compact (.int n), InNumeral c := by
  rw [compact, Text.integerChars]
  split
  · exact List.forall_mem_cons.2 ⟨.inr (by decide), inNumeral_digitsOf⟩
  · exact inNumeral_digitsOf

end QueryRecipe.Json
