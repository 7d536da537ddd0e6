import Mathlib.Data.List.Forall2
import QueryRecipe.Proofs.Json.Visible

/-!
# Reading the part of a document that somebody looks at

Where a reader that looks at everything comes to the end of a text, one that passes over some members of
the outermost object does so too, and the documents differ in those members only
(`readSkipping_of_read`). The two readers stay in step with every character: outside such a member they
differ in what they have passed over, inside it in what they have read of it.
-/

namespace QueryRecipe.Json

/-- The members are the same, apart from values that nobody looks at. -/
def SameMembers (skips : String → Bool) : (ms ms' : List (String × Json)) → Prop :=
  List.Forall₂ fun m m' => m.1 = m'.1 ∧ (skips m.1 = false → m.2 = m'.2)

/-- Two documents are the same in all that somebody looks at. -/
inductive SameSeen (skips : String → Bool) : Json → Json → Prop where
  | same {v} :
    SameSeen skips v v
  | object {ms ms'} :
    SameMembers skips ms ms' →
    SameSeen skips (.object ms) (.object ms')

/-- The same has been read of two lists or objects, apart from members that nobody looks at. -/
inductive Frame.SameSeen (skips : String → Bool) : Frame → Frame → Prop where
  | list {items} :
    SameSeen skips (.list items) (.list items)
  | object {ms ms' name} :
    SameMembers skips ms ms' →
    SameSeen skips (.object ms name) (.object ms' name)

/-- Both are lists or both are objects. -/
inductive Frame.SameKind : Frame → Frame → Prop where
  | list {items items'} :
    SameKind (.list items) (.list items')
  | object {ms ms' name name'} :
    SameKind (.object ms name) (.object ms' name')

/-- Where nobody looks, the first half of a surrogate pair is read as a character of its own, and the
second one too. -/
inductive Escape.Unpaired : Escape → Escape → Prop where
  | same {e} :
    Unpaired e e
  | codeUnit {left value lead} :
    Unpaired (.codeUnit left value lead) (.codeUnit left value none)
  | secondBackslash {lead} :
    Unpaired (.secondBackslash lead) .outside
  | secondMark {lead} :
    Unpaired (.secondMark lead) .backslash

namespace Reader

/-- What a reader expects outside quoted texts, before the document is complete. -/
def Unquoted : Expectation → Prop
  | .nothing _ | .text .. => False
  | _ => True

/-- Two readers expect the same, though inside a member that nobody looks at they may have read different
characters of a quoted text. A name directly in the outermost object is none of those. -/
inductive Expect (depth : Nat) : Bool → Expectation → Expectation → Prop where
  | same {unseen next} :
    Unquoted next →
    Expect depth unseen next next
  | seen {isName chars escape} :
    Expect depth false (.text isName chars escape) (.text isName chars escape)
  | hidden {isName chars chars' escape escape'} :
    Escape.Unpaired escape escape' →
    (isName = true → depth ≠ 1) →
    Expect depth true (.text isName chars escape) (.text isName chars' escape')

/-- The same lists and objects are open in two readers, the second of which may be inside a member that
nobody looks at; there only their kinds are the same. -/
inductive Abreast (skips : String → Bool) : Bool → List Frame → List Frame → Prop where
  | start :
    Abreast skips false [] []
  | outer {unseen frame frame'} :
    Frame.SameSeen skips frame frame' →
    (unseen = true → frame.Skipped skips) →
    Abreast skips unseen [frame] [frame']
  | inner {frame outside outside' stack stack'} :
    Abreast skips false (outside :: stack) (outside' :: stack') →
    Abreast skips false (frame :: outside :: stack) (frame :: outside' :: stack')
  | hidden {frame frame' outside outside' stack stack'} :
    Abreast skips true (outside :: stack) (outside' :: stack') →
    Frame.SameKind frame frame' →
    Abreast skips true (frame :: outside :: stack) (frame' :: outside' :: stack')

/-- The second reader has followed the first one, which looks at everything. -/
inductive InStep (skips : String → Bool) : Reader → Reader → Prop where
  | reading {stack stack' next next' unseen} :
    Abreast skips unseen stack stack' →
    Expect stack.length unseen next next' →
    InStep skips ⟨stack, next, false⟩ ⟨stack', next', unseen⟩
  | done {v v' unseen} :
    SameSeen skips v v' →
    InStep skips ⟨[], .nothing v, false⟩ ⟨[], .nothing v', unseen⟩

section
variable {skips : String → Bool} {stack stack' : List Frame} {next next' : Expectation} {unseen : Bool}

/-- Readers that are abreast are at the same depth. -/
lemma Abreast.length_eq (h : Abreast skips unseen stack stack') : stack'.length = stack.length := by
  induction h with
  | start => rfl
  | outer => rfl
  | inner _ ih | hidden _ _ ih => exact congrArg (· + 1) ih

/-- After a value both readers are after it. -/
lemma Abreast.accept {v v'} (h : Abreast skips unseen stack stack')
    (document : stack = [] → SameSeen skips v v') (part : unseen = false → stack ≠ [] → v = v') :
    InStep skips (accept ⟨stack, next, false⟩ v) (accept ⟨stack', next', unseen⟩ v') := by
  cases h with
  | start => exact .done (document rfl)
  | @outer _ frame frame' same skipped =>
    cases same with
    | @list items =>
      have seen : unseen = false := Bool.eq_false_iff.2 skipped
      cases part seen nofun
      exact .reading (.outer .list skipped) (.same trivial)
    | @object ms ms' name same =>
      refine .reading (.outer (.object (.cons ⟨rfl, fun looked => part ?_ nofun⟩ same)) skipped)
        (.same trivial)
      exact Bool.eq_false_iff.2 fun hidden => Bool.false_ne_true (looked.symm.trans (skipped hidden))
  | @inner frame _ _ _ _ outer =>
    cases part rfl nofun
    cases frame <;> exact .reading (.inner outer) (.same trivial)
  | @hidden frame frame' _ _ _ _ outer same =>
    cases same with
    | list => exact .reading (.hidden outer .list) (.same trivial)
    | object => exact .reading (.hidden outer .object) (.same trivial)

/-- The same value. -/
lemma Abreast.accept_same {v} (h : Abreast skips unseen stack stack') :
    InStep skips (Reader.accept ⟨stack, next, false⟩ v) (Reader.accept ⟨stack', next', unseen⟩ v) :=
  h.accept (fun _ => .same) fun _ _ => rfl

/-- Readers that are abreast close the same list or object. -/
lemma Abreast.close (h : Abreast skips unseen stack stack') (unquoted : Unquoted next) :
    InStep skips (close ⟨stack, next, false⟩) (close ⟨stack', next, unseen⟩) := by
  cases h with
  | start => exact .reading .start (.same unquoted)
  | outer same =>
    cases same with
    | list => exact .done .same
    | object same => exact .done (.object (List.forall₂_reverse_iff.2 same))
  | @inner frame _ _ _ _ outer =>
    cases frame with
    | list items => exact outer.accept nofun fun _ _ => rfl
    | object ms name => exact outer.accept nofun fun _ _ => rfl
  | hidden outer same =>
    cases same with
    | list => exact outer.accept nofun nofun
    | object => exact outer.accept nofun nofun

/-- Readers that are abreast open the same list or object. -/
lemma Abreast.openFrame {frame first r} (h : Abreast skips unseen stack stack')
    (opened : Reader.openFrame ⟨stack, next, false⟩ frame first = .ok r)
    (fresh : ∀ skips, frame.SameSeen skips frame) (unquoted : Unquoted first) :
    ∃ r', Reader.openFrame ⟨stack', next', unseen⟩ frame first = .ok r' ∧ InStep skips r r' := by
  have kind : frame.SameKind frame := by
    cases frame with
    | list => exact .list
    | object => exact .object
  rw [Reader.openFrame] at opened
  split at opened
  next => cases opened
  next room =>
    cases opened
    have room' : ¬ (!unseen && decide (127 ≤ stack'.length)) = true := by
      rw [h.length_eq]
      cases unseen <;> simp_all
    refine ⟨_, if_neg room', .reading ?_ (.same unquoted)⟩
    cases h with
    | start => exact .outer (fresh _) (by simp)
    | outer same skipped =>
      cases unseen with
      | false => exact .inner (.outer same skipped)
      | true => exact .hidden (.outer same skipped) kind
    | inner outer => exact .inner (.inner outer)
    | hidden outer same => exact .hidden (.hidden outer same) kind

/-- Inside a quoted text both readers go on alike. -/
lemma Abreast.text {isName chars chars' escape escape'} (h : Abreast skips unseen stack stack')
    (unpaired : Escape.Unpaired escape escape')
    (same : unseen = false → chars' = chars ∧ escape' = escape)
    (inner : unseen = true → isName = true → stack.length ≠ 1) :
    InStep skips ⟨stack, .text isName chars escape, false⟩
      ⟨stack', .text isName chars' escape', unseen⟩ := by
  cases unseen with
  | false =>
    obtain ⟨rfl, rfl⟩ := same rfl
    exact .reading h .seen
  | true => exact .reading h (.hidden unpaired (inner rfl))

/-- A name that was read belongs to the innermost object. -/
lemma Abreast.acceptText {isName s s'} (h : Abreast skips unseen stack stack')
    (same : unseen = false → s' = s) (inner : unseen = true → isName = true → stack.length ≠ 1) :
    InStep skips (Reader.acceptText (fun _ => false) ⟨stack, next, false⟩ isName s)
      (Reader.acceptText skips ⟨stack', next', unseen⟩ isName s') := by
  cases isName with
  | false =>
    cases unseen with
    | false =>
      cases same rfl
      exact h.accept_same
    | true => exact h.accept (by rintro rfl; cases h) nofun
  | true =>
    cases h with
    | start => exact .reading .start (.same trivial)
    | outer frames skipped =>
      have seen : unseen = false := Bool.eq_false_iff.2 fun hidden => inner hidden rfl rfl
      cases seen
      cases same rfl
      cases frames with
      | list => exact .reading (.outer .list skipped) (.same trivial)
      | object members => exact .reading (.outer (.object members) id) (.same trivial)
    | @inner frame _ _ _ _ outer =>
      cases same rfl
      cases frame <;> exact .reading (.inner outer) (.same trivial)
    | hidden outer frames =>
      cases frames with
      | list => exact .reading (.hidden outer .list) (.same trivial)
      | object => exact .reading (.hidden outer .object) (.same trivial)

/-- A code unit that one reader takes for half of a pair the other one may take for a character. -/
lemma Abreast.acceptUnit {isName chars chars' unit lead lead' r} (h : Abreast skips unseen stack stack')
    (read : Reader.acceptUnit ⟨stack, next, false⟩ isName chars unit lead = .ok r)
    (unpaired : lead' = lead ∨ lead' = none)
    (same : unseen = false → chars' = chars ∧ lead' = lead)
    (inner : unseen = true → isName = true → stack.length ≠ 1) :
    ∃ r', Reader.acceptUnit ⟨stack', next', unseen⟩ isName chars' unit lead' = .ok r' ∧
      InStep skips r r' := by
  have put (c : Char) : unseen = false → c :: chars' = c :: chars ∧ Escape.outside = .outside :=
    fun seen => ⟨by rw [(same seen).1], rfl⟩
  cases lead with
  | some high =>
    simp only [Reader.acceptUnit] at read
    split at read
    next low =>
      cases read
      obtain rfl | rfl := unpaired
      · exact ⟨_, if_pos low, h.text .same (put _) inner⟩
      · have hidden : unseen = true := Bool.eq_true_of_not_eq_false fun seen => by cases (same seen).2
        cases hidden
        exact ⟨_, if_pos (by rw [low]; rfl), h.text .same (by simp) inner⟩
    next => cases read
  | none =>
    obtain rfl : lead' = none := unpaired.elim id id
    simp only [Reader.acceptUnit, Bool.false_and, Bool.false_eq_true, if_false] at read
    split at read
    next => cases read
    next low =>
      split at read
      next high =>
        cases read
        cases unseen with
        | false =>
          obtain ⟨rfl, -⟩ := same rfl
          exact ⟨_, (if_neg low).trans (if_pos high), .reading h .seen⟩
        | true =>
          refine ⟨_, if_pos ?_, .reading h (.hidden .secondBackslash (inner rfl))⟩
          rw [high, Bool.or_true]
          rfl
      next high =>
        cases read
        refine ⟨_, (if_neg ?_).trans ((if_neg low).trans (if_neg high)), h.text .same (put _) inner⟩
        simp_all

/-- Readers that are abreast read on in a text. -/
lemma Abreast.inText {isName chars chars' escape escape' c r} (h : Abreast skips unseen stack stack')
    (read : Reader.inText (fun _ => false) ⟨stack, next, false⟩ isName chars escape c = .ok r)
    (unpaired : Escape.Unpaired escape escape')
    (same : unseen = false → chars' = chars ∧ escape' = escape)
    (inner : unseen = true → isName = true → stack.length ≠ 1) :
    ∃ r', Reader.inText skips ⟨stack', next', unseen⟩ isName chars' escape' c = .ok r' ∧
      InStep skips r r' := by
  have put (c : Char) : unseen = false → c :: chars' = c :: chars ∧ Escape.outside = .outside :=
    fun seen => ⟨by rw [(same seen).1], rfl⟩
  have go (e : Escape) : unseen = false → chars' = chars ∧ e = e := fun seen => ⟨(same seen).1, rfl⟩
  cases escape with
  | outside =>
    cases unpaired
    simp only [Reader.inText] at read
    split at read
    next quote =>
      cases read
      exact ⟨_, if_pos quote, h.acceptText (fun seen => by rw [(same seen).1]) inner⟩
    next quote =>
      split at read
      next slash =>
        cases read
        exact ⟨_, (if_neg quote).trans (if_pos slash), h.text .same (go _) inner⟩
      next slash =>
        split at read
        next => cases read
        next control =>
          cases read
          exact ⟨_, (if_neg quote).trans ((if_neg slash).trans (if_neg control)),
            h.text .same (put c) inner⟩
  | backslash =>
    cases unpaired
    simp only [Reader.inText] at read
    split at read <;> cases read
    iterate 8 exact ⟨_, rfl, h.text .same (put _) inner⟩
    exact ⟨_, rfl, h.text .same (go _) inner⟩
  | codeUnit left value lead =>
    have lead' : ∃ lead', escape' = .codeUnit left value lead' ∧ (lead' = lead ∨ lead' = none) := by
      cases unpaired with
      | same => exact ⟨lead, rfl, .inl rfl⟩
      | codeUnit => exact ⟨none, rfl, .inr rfl⟩
    obtain ⟨lead', rfl, paired⟩ := lead'
    have sameLead (seen : unseen = false) : lead' = lead := (Escape.codeUnit.inj (same seen).2).2.2
    simp only [Reader.inText] at read ⊢
    split at read
    next more =>
      cases read
      refine ⟨_, if_pos more, h.text ?_ (fun seen => ⟨(same seen).1, by rw [sameLead seen]⟩) inner⟩
      obtain rfl | rfl := paired
      · exact .same
      · exact .codeUnit
    next more =>
      rw [if_neg more]
      split at read
      next unit =>
        exact h.acceptUnit read paired (fun seen => ⟨(same seen).1, sameLead seen⟩) inner
      next => cases read
  | secondBackslash lead =>
    simp only [Reader.inText] at read
    split at read
    next slash =>
      cases read
      cases unpaired with
      | same => exact ⟨_, if_pos slash, h.text .same (go _) inner⟩
      | secondBackslash =>
        have hidden : unseen = true := Bool.eq_true_of_not_eq_false fun seen => by cases (same seen).2
        cases hidden
        cases slash
        exact ⟨_, rfl, .reading h (.hidden .secondMark (inner rfl))⟩
    next => cases read
  | secondMark lead =>
    simp only [Reader.inText] at read
    split at read
    next mark =>
      cases read
      cases unpaired with
      | same => exact ⟨_, if_pos mark, h.text .same (go _) inner⟩
      | secondMark =>
        have hidden : unseen = true := Bool.eq_true_of_not_eq_false fun seen => by cases (same seen).2
        cases hidden
        cases mark
        exact ⟨_, rfl, .reading h (.hidden .codeUnit (inner rfl))⟩
    next => cases read

/-- The innermost lists or objects are of one kind. -/
lemma Abreast.sameKind {frame} (h : Abreast skips unseen (frame :: stack) stack') :
    ∃ frame' outside, stack' = frame' :: outside ∧ frame.SameKind frame' := by
  have refl (f : Frame) : f.SameKind f := by
    cases f with
    | list => exact .list
    | object => exact .object
  cases h with
  | outer same =>
    cases same with
    | list => exact ⟨_, _, rfl, .list⟩
    | object => exact ⟨_, _, rfl, .object⟩
  | inner => exact ⟨_, _, rfl, refl frame⟩
  | hidden _ same => exact ⟨_, _, rfl, same⟩

/-- Readers in step pass over what stands between values. -/
lemma InStep.between {r r' s : Reader} {c : Char} (h : InStep skips r r')
    (read : r.between c = .ok s) : ∃ s', r'.between c = .ok s' ∧ InStep skips s s' := by
  cases h with
  | done same =>
    simp only [Reader.between] at read
    split at read
    next space =>
      cases read
      exact ⟨_, if_pos space, .done same⟩
    next => cases read
  | reading opened expect =>
    simp only [Reader.between] at read
    split at read
    next space =>
      cases read
      exact ⟨_, if_pos space, .reading opened expect⟩
    next solid =>
      -- a comma or the end of a list, then of an object
      split at read <;> cases read <;> cases expect <;>
        obtain ⟨frame', outside, rfl, kind⟩ := opened.sameKind <;> cases kind
      · exact ⟨_, if_neg solid, .reading opened (.same trivial)⟩
      · exact ⟨_, if_neg solid, opened.close trivial⟩
      · exact ⟨_, if_neg solid, .reading opened (.same trivial)⟩
      · exact ⟨_, if_neg solid, opened.close trivial⟩

/-- A numeral stands for the same number in both readers. -/
lemma Abreast.acceptNumeral {m r} (h : Abreast skips unseen stack stack')
    (read : Reader.acceptNumeral ⟨stack, next, false⟩ m = .ok r) :
    ∃ r', Reader.acceptNumeral ⟨stack', next', unseen⟩ m = .ok r' ∧ InStep skips r r' := by
  simp only [Reader.acceptNumeral] at read ⊢
  split at read
  next v number =>
    cases read
    rw [number]
    exact ⟨_, rfl, h.accept_same⟩
  next seen => cases seen
  next => cases read

/-- A character of a numeral belongs to it or comes after it, whatever was read before. -/
lemma inNumeral_cases {part m c r} (read : Reader.inNumeral ⟨stack, next, false⟩ part m c = .ok r) :
    (∃ part' m', r = ⟨stack, .numeral part' m', false⟩ ∧
      ∀ stack' next' unseen, Reader.inNumeral ⟨stack', next', unseen⟩ part m c =
        .ok ⟨stack', .numeral part' m', unseen⟩) ∨
    ((do (← Reader.acceptNumeral ⟨stack, next, false⟩ m).between c) = .ok r ∧
      ∀ stack' next' unseen, Reader.inNumeral ⟨stack', next', unseen⟩ part m c =
        do (← Reader.acceptNumeral ⟨stack', next', unseen⟩ m).between c) := by
  cases digit : digit? c with
  | some d =>
    cases part <;> simp only [Reader.inNumeral, digit] at read ⊢ <;> cases read <;>
      exact .inl ⟨_, _, rfl, fun _ _ _ => rfl⟩
  | none =>
    cases part with
    | sign | point | exponentSign =>
      simp only [Reader.inNumeral, digit] at read
      cases read
    | exponent =>
      simp only [Reader.inNumeral, digit] at read
      exact .inr ⟨read, fun _ _ _ => by simp only [Reader.inNumeral, digit]⟩
    | mark =>
      simp only [Reader.inNumeral, digit] at read ⊢
      split_ifs at read ⊢ <;> cases read <;> exact .inl ⟨_, _, rfl, fun _ _ _ => rfl⟩
    | _ =>
      simp only [Reader.inNumeral, digit] at read ⊢
      split_ifs at read ⊢
      · cases read
        exact .inl ⟨_, _, rfl, fun _ _ _ => rfl⟩
      · cases read
        exact .inl ⟨_, _, rfl, fun _ _ _ => rfl⟩
      · exact .inr ⟨read, fun _ _ _ => rfl⟩

/-- Readers that are abreast read on in a numeral. -/
lemma Abreast.inNumeral {part m c r} (h : Abreast skips unseen stack stack')
    (read : Reader.inNumeral ⟨stack, next, false⟩ part m c = .ok r) :
    ∃ r', Reader.inNumeral ⟨stack', next', unseen⟩ part m c = .ok r' ∧ InStep skips r r' := by
  obtain ⟨part', m', rfl, same⟩ | ⟨read, same⟩ := inNumeral_cases read
  · exact ⟨_, same _ _ _, .reading h (.same trivial)⟩
  · obtain ⟨accepted, number, after⟩ := bind_eq_ok.1 read
    obtain ⟨accepted', number', follows⟩ := h.acceptNumeral number
    rw [same, number']
    exact follows.between after

/-- The first character of a value tells what it is, whatever was read before. -/
lemma start_cases {c r} (read : Reader.start ⟨stack, next, false⟩ c = .ok r) :
    (∃ first, r = ⟨stack, first, false⟩ ∧ (Unquoted first ∨ first = .text false [] .outside) ∧
      ∀ stack' next' unseen, Reader.start ⟨stack', next', unseen⟩ c = .ok ⟨stack', first, unseen⟩) ∨
    (∃ frame first, Reader.openFrame ⟨stack, next, false⟩ frame first = .ok r ∧
      (∀ skips, frame.SameSeen skips frame) ∧ Unquoted first ∧
      ∀ stack' next' unseen, Reader.start ⟨stack', next', unseen⟩ c =
        Reader.openFrame ⟨stack', next', unseen⟩ frame first) := by
  simp only [Reader.start] at read
  split at read
  next =>
    cases read
    exact .inl ⟨_, rfl, .inr rfl, fun _ _ _ => rfl⟩
  next => exact .inr ⟨_, _, read, fun _ => .list, trivial, fun _ _ _ => rfl⟩
  next => exact .inr ⟨_, _, read, fun _ => .object .nil, trivial, fun _ _ _ => rfl⟩
  iterate 5
    next =>
      cases read
      exact .inl ⟨_, rfl, .inl trivial, fun _ _ _ => rfl⟩
  next other =>
    split at read
    next d digit =>
      cases read
      exact .inl ⟨_, rfl, .inl trivial, fun _ _ _ => by simp only [Reader.start, digit]⟩
    next => cases read

/-- Readers that are abreast start the same value. -/
lemma Abreast.startValue {c r} (h : Abreast skips unseen stack stack')
    (read : Reader.start ⟨stack, next, false⟩ c = .ok r) :
    ∃ r', Reader.start ⟨stack', next', unseen⟩ c = .ok r' ∧ InStep skips r r' := by
  obtain ⟨first, rfl, unquoted | rfl, same⟩ | ⟨frame, first, opened, fresh, unquoted, same⟩ :=
    start_cases read
  · exact ⟨_, same _ _ _, .reading h (.same unquoted)⟩
  · exact ⟨_, same _ _ _, h.text .same (fun _ => ⟨rfl, rfl⟩) nofun⟩
  · rw [same]
    exact h.openFrame opened fresh unquoted

/-- Before a name the reader is in no member. -/
lemma Abreast.beforeName (h : Abreast skips unseen stack stack') :
    Abreast skips (unseen && stack'.length ≠ 1) stack stack' := by
  cases h with
  | start => exact .start
  | @outer unseen frame frame' same skipped =>
    rw [show (unseen && decide ([frame'].length ≠ 1)) = false by simp]
    exact .outer same nofun
  | inner outer => exact .inner outer
  | hidden outer same => simpa using .hidden outer same

/-- One more character leaves the readers in step. -/
lemma InStep.step {r r' s : Reader} {c : Char} (h : InStep skips r r')
    (read : r.step (fun _ => false) c = .ok s) :
    ∃ s', r'.step skips c = .ok s' ∧ InStep skips s s' := by
  cases h with
  | done same => exact (InStep.done same).between read
  | @reading stack stack' next next' unseen opened expect =>
    cases expect with
    | seen => exact opened.inText read .same (fun _ => ⟨rfl, rfl⟩) nofun
    | hidden unpaired inner => exact opened.inText read unpaired nofun fun _ => inner
    | same unquoted =>
      cases next with
      | nothing v => exact unquoted.elim
      | text isName chars escape => exact unquoted.elim
      | separator => exact (InStep.reading opened (.same unquoted)).between read
      | numeral part m => exact opened.inNumeral read
      | value closable =>
        simp only [Reader.step] at read
        split at read
        next space =>
          cases read
          exact ⟨_, if_pos space, .reading opened (.same unquoted)⟩
        next solid =>
          split at read
          next ends =>
            cases read
            exact ⟨_, (if_neg solid).trans (if_pos ends), opened.close unquoted⟩
          next more =>
            obtain ⟨s', started, follows⟩ := opened.startValue read
            exact ⟨s', (if_neg solid).trans ((if_neg more).trans started), follows⟩
      | name closable =>
        simp only [Reader.step] at read
        split at read
        next space =>
          cases read
          exact ⟨_, if_pos space, .reading opened (.same unquoted)⟩
        next solid =>
          split at read
          next ends =>
            cases read
            exact ⟨_, (if_neg solid).trans (if_pos ends), opened.close unquoted⟩
          next more =>
            split at read
            next quote =>
              cases read
              refine ⟨_, (if_neg solid).trans ((if_neg more).trans (if_pos quote)),
                opened.beforeName.text .same (fun _ => ⟨rfl, rfl⟩) fun inside _ => ?_⟩
              rw [Bool.and_eq_true, decide_eq_true_eq, opened.length_eq] at inside
              exact inside.2
            next => cases read
      | colon =>
        simp only [Reader.step] at read
        split at read
        next space =>
          cases read
          exact ⟨_, if_pos space, .reading opened (.same unquoted)⟩
        next solid =>
          split at read
          next mark =>
            cases read
            exact ⟨_, (if_neg solid).trans (if_pos mark), .reading opened (.same trivial)⟩
          next => cases read
      | word rest meaning =>
        rcases rest with _ | ⟨d, _ | ⟨d', rest⟩⟩ <;> simp only [Reader.step] at read
        · cases read
        · split at read
          next letter =>
            cases read
            exact ⟨_, if_pos letter, opened.accept_same⟩
          next => cases read
        · split at read
          next letter =>
            cases read
            exact ⟨_, if_pos letter, .reading opened (.same trivial)⟩
          next => cases read

/-- Readers in step stay so to the end of a text. -/
lemma InStep.run {cs : List Char} {r r' s : Reader} (h : InStep skips r r')
    (read : cs.foldlM (Reader.step fun _ => false) r = .ok s) :
    ∃ s', cs.foldlM (Reader.step skips) r' = .ok s' ∧ InStep skips s s' := by
  induction cs generalizing r r' with
  | nil =>
    cases read
    exact ⟨r', rfl, h⟩
  | cons c cs ih =>
    rw [List.foldlM_cons] at read
    obtain ⟨_, now, later⟩ := bind_eq_ok.1 read
    obtain ⟨_, now', follows⟩ := h.step now
    rw [List.foldlM_cons, now']
    exact ih follows later

/-- The readers complete their documents together. -/
lemma InStep.next_nothing {r r' : Reader} {v} (h : InStep skips r r') (complete : r.next = .nothing v) :
    ∃ v', r'.next = .nothing v' ∧ SameSeen skips v v' := by
  cases h with
  | done same =>
    cases complete
    exact ⟨_, rfl, same⟩
  | reading opened expect =>
    cases complete
    cases expect with
    | same unquoted => exact unquoted.elim

/-- Readers in step come to values of which the same is seen. -/
lemma InStep.finish {r r' : Reader} {v} (h : InStep skips r r') (read : r.finish = .ok v) :
    ∃ v', r'.finish = .ok v' ∧ SameSeen skips v v' := by
  cases h with
  | done same =>
    cases read
    exact ⟨_, rfl, same⟩
  | reading opened expect =>
    simp only [Reader.finish] at read
    split at read
    next => cases expect with | same unquoted => exact unquoted.elim
    next part m =>
      cases expect
      split at read
      next complete =>
        obtain ⟨accepted, number, last⟩ := bind_eq_ok.1 read
        obtain ⟨accepted', number', follows⟩ := opened.acceptNumeral number
        split at last <;> cases last
        next ends =>
          obtain ⟨v', ends', same⟩ := follows.next_nothing ends
          refine ⟨v', (if_pos complete).trans ?_, same⟩
          rw [number', ok_bind, ends']
      next => cases read
    next => cases read

end

end Reader

/-- Where the whole of a text is read, the part of it that somebody looks at is read as well, and in the
same way. -/
lemma readSkipping_of_read {text : String} {v : Json} (skips : String → Bool)
    (h : read text = .ok v) : ∃ v', readSkipping skips text = .ok v' ∧ SameSeen skips v v' := by
  obtain ⟨r, read, finished⟩ := bind_eq_ok.1 h
  have start : Reader.InStep skips {} {} := .reading .start (.same trivial)
  obtain ⟨r', read', follows⟩ := start.run read
  obtain ⟨v', finished', same⟩ := follows.finish finished
  exact ⟨v', bind_eq_ok.2 ⟨r', read', finished'⟩, same⟩

end QueryRecipe.Json
