import QueryRecipe.Proofs.Json.Numerals
import QueryRecipe.Proofs.Json.Within

/-!
# Documents are read back

The compact text of a document is read as that document (`readSkipping_text`) if it nests at most 127
deep, its numbers are read back, and the reader looks at all of it.
-/

namespace QueryRecipe.Json

/-- Whether the reader looks at every member of the value when it is the whole document. -/
def Seen (skips : String → Bool) : Json → Prop
  | .object members => ∀ m ∈ members, skips m.1 = false
  | _ => True

namespace Reader

section Value
variable {skips : String → Bool} {stack : List Frame} {rest : List Char}

/-- A hexadecimal digit is read back, and takes one byte. -/
lemma hexDigit_spec : ∀ n < 16, hexDigit? (hexDigit n) = some n ∧ (hexDigit n).utf8Size = 1 := by
  decide

/-- A hexadecimal digit that is not the last one of a code unit. -/
lemma run_hexDigit {isName chars c d k n} (hex : hexDigit? c = some d) (size : c.utf8Size = 1) :
    run skips ⟨stack, .text isName chars (.codeUnit (k + 2) (some n) none), false⟩ (c :: rest) =
      run skips ⟨stack, .text isName chars (.codeUnit (k + 1) (some (n * 16 + d)) none), false⟩ rest := by
  refine run_step ?_
  simp [step, inText, size, hex]

/-- The last digit of the code unit of a control character. -/
lemma run_codeUnit {isName chars c d n} (hex : hexDigit? c = some d) (size : c.utf8Size = 1)
    (control : n * 16 + d < 0x20) :
    run skips ⟨stack, .text isName chars (.codeUnit 1 (some n) none), false⟩ (c :: rest) =
      run skips ⟨stack, .text isName (.ofNat (n * 16 + d) :: chars) .outside, false⟩ rest := by
  refine run_step ?_
  have notLow : ¬ 0xDC00 ≤ n * 16 + d := by omega
  have notHigh : ¬ 0xD800 ≤ n * 16 + d := by omega
  simp [step, inText, size, hex, acceptUnit, notLow, notHigh]

/-- An escaped character stands for itself. -/
lemma run_escapeChar {isName chars} (c : Char) :
    run skips ⟨stack, .text isName chars .outside, false⟩ (escapeChar c ++ rest) =
      run skips ⟨stack, .text isName (c :: chars) .outside, false⟩ rest := by
  unfold escapeChar
  split
  iterate 7 exact (run_step rfl).trans (run_step rfl)
  next quote backslash _ _ _ _ _ =>
    split
    next control =>
      obtain ⟨high, highSize⟩ := hexDigit_spec (c.toNat / 16) (by omega)
      obtain ⟨low, lowSize⟩ := hexDigit_spec (c.toNat % 16) (by omega)
      have whole : (0 * 16 + c.toNat / 16) * 16 + c.toNat % 16 = c.toNat := by omega
      refine (run_step rfl).trans ((run_step rfl).trans ?_)
      refine (run_hexDigit (d := 0) rfl rfl).trans ((run_hexDigit (d := 0) rfl rfl).trans ?_)
      refine (run_hexDigit high highSize).trans ((run_codeUnit low lowSize ?_).trans ?_)
      · omega
      · rw [whole, Char.ofNat_toNat]
        rfl
    next plain =>
      refine run_step ?_
      simp only [step, inText]
      rw [if_neg quote, if_neg backslash, if_neg plain]

/-- An escaped text is read back. -/
lemma run_escaped {isName} (cs chars : List Char) :
    run skips ⟨stack, .text isName chars .outside, false⟩ (cs.flatMap escapeChar ++ rest) =
      run skips ⟨stack, .text isName (cs.reverse ++ chars) .outside, false⟩ rest := by
  induction cs generalizing chars with
  | nil => rfl
  | cons c cs ih =>
    rw [List.flatMap_cons, List.append_assoc, run_escapeChar, ih]
    simp

/-- What is read of a text in quotes. -/
lemma run_quoted {isName} (s : String) :
    run skips ⟨stack, .text isName [] .outside, false⟩
        (s.toList.flatMap escapeChar ++ '"' :: rest) =
      run skips (acceptText skips ⟨stack, .text isName s.toList.reverse .outside, false⟩ isName s)
        rest := by
  rw [run_escaped, List.append_nil]
  refine run_step ?_
  simp [step, inText]

/-- A word is read to its end. -/
lemma run_word {word meaning} (ne : word ≠ []) :
    run skips ⟨stack, .word word meaning, false⟩ (word ++ rest) =
      run skips (accept ⟨stack, .separator, false⟩ meaning) rest := by
  induction word with
  | nil => exact absurd rfl ne
  | cons c word ih =>
    cases word with
    | nil =>
      rw [List.cons_append, run_step (by simp only [step, if_true]; rfl), accept_next]
      rfl
    | cons d word =>
      rw [List.cons_append, run_step (by simp only [step, if_true]; rfl)]
      exact ih (List.cons_ne_nil d word)

/-- The first character of a value starts it. -/
lemma run_start {closable c r} (space : isSpace c = false) (inside : c ≠ ']')
    (h : start ⟨stack, .value closable, false⟩ c = .ok r) :
    run skips ⟨stack, .value closable, false⟩ (c :: rest) = run skips r rest := by
  refine run_step (Eq.trans ?_ h)
  simp [step, space, inside]

/-- The start of a list or an object where there is room for one. -/
lemma run_openFrame {closable c frame next} (space : isSpace c = false) (inside : c ≠ ']')
    (same : start ⟨stack, .value closable, false⟩ c =
      openFrame ⟨stack, .value closable, false⟩ frame next) (room : stack.length < 127) :
    run skips ⟨stack, .value closable, false⟩ (c :: rest) =
      run skips ⟨frame :: stack, next, false⟩ rest := by
  refine run_start space inside (same.trans ?_)
  simp [openFrame, Nat.not_le.2 room]

/-- A name and the colon after it, where the reader looks at the member of that name. -/
lemma run_name {done name closable} (s : String) (seen : stack = [] → skips s = false) :
    run skips ⟨.object done name :: stack, .name closable, false⟩ (quoted s ++ ':' :: rest) =
      run skips ⟨.object done s :: stack, .value false, false⟩ rest := by
  have start : step skips ⟨.object done name :: stack, .name closable, false⟩ '"' =
      .ok ⟨.object done name :: stack, .text true [] .outside, false⟩ := by
    simp [step, isSpace]
  have named : acceptText skips ⟨.object done name :: stack, .text true s.toList.reverse .outside, false⟩
      true s = ⟨.object done s :: stack, .colon, false⟩ := by
    cases stack with
    | nil => simp [acceptText, seen rfl]
    | cons frame stack => rfl
  rw [quoted, List.cons_append, List.cons_append, run_step start, List.append_assoc]
  refine (run_quoted s).trans ?_
  rw [named]
  exact run_step rfl

/-- A text in quotes as a value. -/
lemma run_string {closable} (s : String) :
    run skips ⟨stack, .value closable, false⟩ (quoted s ++ rest) =
      run skips (accept ⟨stack, .separator, false⟩ (.string s)) rest := by
  rw [quoted, List.cons_append, List.cons_append, List.append_assoc]
  refine (run_start rfl (by decide) rfl).trans ((run_quoted s).trans ?_)
  exact congrArg (run skips · rest) accept_next

/-- A list is complete with its last item. -/
lemma close_list {done v} :
    close (accept ⟨.list done :: stack, .separator, false⟩ v) =
      accept ⟨stack, .separator, false⟩ (.list (done.reverse ++ [v])) := by
  rw [← List.reverse_cons]
  rfl

/-- An object is complete with its last member. -/
lemma close_object {done name v} :
    close (accept ⟨.object done name :: stack, .separator, false⟩ v) =
      accept ⟨stack, .separator, false⟩ (.object (done.reverse ++ [(name, v)])) := by
  rw [← List.reverse_cons]
  rfl

end Value

section Document
variable {skips : String → Bool}

/-- Items are written with a comma between them. -/
lemma compactItems_cons {v w rest} :
    compactItems (v :: w :: rest) = v.compact ++ ',' :: compactItems (w :: rest) := by
  rw [compactItems]
  exact nofun

/-- Members are written with a comma between them. -/
lemma compactMembers_cons {name v m rest} :
    compactMembers ((name, v) :: m :: rest) =
      quoted name ++ ':' :: (v.compact ++ ',' :: compactMembers (m :: rest)) := by
  rw [compactMembers, List.append_assoc, List.cons_append]
  exact nofun

mutual

/-- The text of a value is read as that value wherever one may stand. -/
lemma run_compact (v : Json) (stack : List Frame) {closable rest n} (h : v.Within ReadsBack n)
    (room : n + stack.length ≤ 127) (seen : stack = [] → Seen skips v) (follows : Follows rest) :
    run skips ⟨stack, .value closable, false⟩ (v.compact ++ rest) =
      run skips (accept ⟨stack, .separator, false⟩ v) rest := by
  match v with
  | .null => exact (run_start rfl (by decide) rfl).trans (run_word nofun)
  | .bool true => exact (run_start rfl (by decide) rfl).trans (run_word nofun)
  | .bool false => exact (run_start rfl (by decide) rfl).trans (run_word nofun)
  | .int i =>
    have read := within_int.1 h
    rw [ReadsBack, Json.read, readSkipping, text, String.toList_ofList] at read
    exact run_number inNumeral_compact_int read follows
  | .double x =>
    have read := within_double.1 h
    have chars := inNumeral_compact_double read
    rw [ReadsBack, Json.read, readSkipping, text, String.toList_ofList] at read
    exact run_number chars read follows
  | .string s => exact run_string s
  | .list items =>
    obtain ⟨k, rfl, inside⟩ := h.list_cases
    rw [compact, List.cons_append, List.cons_append, List.append_assoc,
      run_openFrame rfl (by decide) rfl (by omega)]
    cases items with
    | nil => exact run_step rfl
    | cons v items => exact run_compactItems (v :: items) stack nofun inside (by omega)
  | .object members =>
    obtain ⟨k, rfl, inside⟩ := h.object_cases
    rw [compact, List.cons_append, List.cons_append, List.append_assoc,
      run_openFrame rfl (by decide) rfl (by omega)]
    cases members with
    | nil => exact run_step rfl
    | cons m members => exact run_compactMembers (m :: members) stack nofun inside (by omega) seen

/-- The items of a list are read back. -/
lemma run_compactItems (items : List Json) (stack : List Frame) {closable done rest n}
    (ne : items ≠ []) (h : ∀ v ∈ items, v.Within ReadsBack n) (room : n + (stack.length + 1) ≤ 127) :
    run skips ⟨.list done :: stack, .value closable, false⟩ (compactItems items ++ ']' :: rest) =
      run skips (accept ⟨stack, .separator, false⟩ (.list (done.reverse ++ items))) rest := by
  match items with
  | [v] =>
    obtain ⟨first, -⟩ := List.forall_mem_cons.1 h
    rw [compactItems, run_compact v (.list done :: stack) first room nofun (follows_cons (by decide)),
      ← close_list]
    exact run_step rfl
  | v :: w :: others =>
    obtain ⟨first, later⟩ := List.forall_mem_cons.1 h
    rw [compactItems_cons, List.append_assoc, List.cons_append,
      run_compact v (.list done :: stack) first room nofun (follows_cons (by decide))]
    refine (run_step rfl).trans ((run_compactItems (w :: others) stack nofun later room).trans ?_)
    rw [List.reverse_cons, List.append_assoc, List.singleton_append]

/-- The members of an object are read back. -/
lemma run_compactMembers (members : List (String × Json)) (stack : List Frame)
    {closable done name rest n} (ne : members ≠ []) (h : ∀ m ∈ members, m.2.Within ReadsBack n)
    (room : n + (stack.length + 1) ≤ 127) (seen : stack = [] → ∀ m ∈ members, skips m.1 = false) :
    run skips ⟨.object done name :: stack, .name closable, false⟩
        (compactMembers members ++ '\x7d' :: rest) =
      run skips (accept ⟨stack, .separator, false⟩ (.object (done.reverse ++ members))) rest := by
  match members with
  | [(name, v)] =>
    obtain ⟨first, -⟩ := List.forall_mem_cons.1 h
    rw [compactMembers, List.append_assoc, List.cons_append,
      run_name name fun outer => seen outer _ List.mem_cons_self,
      run_compact v (.object done name :: stack) first room nofun (follows_cons (by decide)),
      ← close_object]
    exact run_step rfl
  | (name, v) :: m :: others =>
    obtain ⟨first, later⟩ := List.forall_mem_cons.1 h
    have seenLater : stack = [] → ∀ e ∈ m :: others, skips e.1 = false :=
      fun outer e mem => seen outer e (List.mem_cons_of_mem _ mem)
    rw [compactMembers_cons, List.append_assoc, List.cons_append, List.append_assoc, List.cons_append,
      run_name name fun outer => seen outer _ List.mem_cons_self,
      run_compact v (.object done name :: stack) first room nofun (follows_cons (by decide))]
    refine (run_step rfl).trans
      ((run_compactMembers (m :: others) stack nofun later room seenLater).trans ?_)
    rw [List.reverse_cons, List.append_assoc, List.singleton_append]

end

end Document

end Reader

/-- A document that keeps to what a reader can follow is read back from its text. -/
theorem readSkipping_text {skips : String → Bool} {v : Json} (h : v.Within ReadsBack 127)
    (seen : v.Seen skips) : readSkipping skips v.text = .ok v := by
  have read : Reader.run skips {} (v.compact ++ []) = .ok v :=
    Reader.run_compact v [] h (le_refl _) (fun _ => seen) nofun
  rw [readSkipping, text, String.toList_ofList]
  rwa [List.append_nil] at read

end QueryRecipe.Json
