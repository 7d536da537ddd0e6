import QueryRecipe.Json.Reader
import QueryRecipe.Proofs.Json.Legal
import QueryRecipe.Proofs.Json.Within
import QueryRecipe.Proofs.Results

/-!
# What is read of a text

Lists and objects that a reader looks at nest at most 127 deep, and their numbers are those that a
document can hold (`visible_of_read`). This is kept up by every character: a list or an object is only
opened where there is room, and a member that nobody looks at stays marked to its end.
-/

namespace QueryRecipe.Json

/-- A document keeps to the bounds in all that the reader looks at. -/
def Visible (skips : String → Bool) : Json → Prop
  | .object members => ∀ m ∈ members, skips m.1 = false → m.2.Within Legal 126
  | v => v.Within Legal 127

/-- A value within the limits has visible members within the limits. -/
lemma Within.visible {skips : String → Bool} {v : Json} (h : v.Within Legal 127) : v.Visible skips := by
  cases v with
  | object members => exact fun m mem _ => within_object.1 h m mem
  | _ => exact h

/-- What has been read of a list or an object keeps to the bounds, members aside that nobody looks
at. -/
def Frame.Holds (skips : String → Bool) (n : Nat) : Frame → Prop
  | .list items => ∀ v ∈ items, v.Within Legal n
  | .object members _ => ∀ m ∈ members, skips m.1 = false → m.2.Within Legal n

/-- The current member is one that nobody looks at. -/
def Frame.Skipped (skips : String → Bool) : Frame → Prop
  | .list _ => False
  | .object _ name => skips name = true

namespace Reader

/-- The lists and objects that are open, and whether the reader is inside a member that nobody will look
at. -/
inductive Open (skips : String → Bool) : Bool → List Frame → Prop where
  | start :
    Open skips false []
  | outer {unseen frame} :
    frame.Holds skips 126 →
    (unseen = true → frame.Skipped skips) →
    Open skips unseen [frame]
  | inner {n frame outside stack} :
    Open skips false (outside :: stack) →
    frame.Holds (fun _ => false) n →
    n + (stack.length + 2) = 127 →
    Open skips false (frame :: outside :: stack)
  | hidden {frame outside stack} :
    Open skips true (outside :: stack) →
    Open skips true (frame :: outside :: stack)

/-- A word that is being read stands for a value without numbers, and the document is not complete. -/
def Plain : Expectation → Prop
  | .nothing _ => False
  | .word _ meaning => ∀ n, meaning.Within Legal n
  | _ => True

/-- The invariant of a reader. -/
inductive Sound (skips : String → Bool) : Reader → Prop where
  | reading {stack next unseen} :
    Open skips unseen stack →
    Plain next →
    Sound skips ⟨stack, next, unseen⟩
  | done {v unseen} :
    v.Visible skips →
    Sound skips ⟨[], .nothing v, unseen⟩

section
variable {skips : String → Bool} {stack : List Frame} {next : Expectation} {unseen : Bool}

/-- A value that is accepted leaves the reader sound. -/
lemma Open.accept {v} (h : Open skips unseen stack) (document : stack = [] → v.Visible skips)
    (part : unseen = false → ∀ n, n + stack.length = 127 → v.Within Legal n) :
    Sound skips (Reader.accept ⟨stack, next, unseen⟩ v) := by
  cases h with
  | start => exact .done (document rfl)
  | @outer _ frame holds skipped =>
    cases frame with
    | list items =>
      have seen : unseen = false := Bool.eq_false_iff.2 skipped
      refine .reading (.outer ?_ skipped) trivial
      exact List.forall_mem_cons.2 ⟨part seen 126 rfl, holds⟩
    | object members name =>
      refine .reading (.outer ?_ skipped) trivial
      refine List.forall_mem_cons.2 ⟨fun looked => part ?_ 126 rfl, holds⟩
      exact Bool.eq_false_iff.2 fun hidden => Bool.false_ne_true (looked.symm.trans (skipped hidden))
  | @inner n frame outside stack outer holds room =>
    have fits : v.Within Legal n := part rfl n room
    cases frame with
    | list items => exact .reading (.inner outer (List.forall_mem_cons.2 ⟨fits, holds⟩) room) trivial
    | object members name =>
      exact .reading (.inner outer (List.forall_mem_cons.2 ⟨fun _ => fits, holds⟩) room) trivial
  | @hidden frame _ _ outer => cases frame <;> exact .reading (.hidden outer) trivial

/-- A value without lists, objects and numbers can be read anywhere. -/
lemma Open.accept_scalar {v} (h : Open skips unseen stack) (scalar : ∀ n, v.Within Legal n) :
    Sound skips (Reader.accept ⟨stack, next, unseen⟩ v) :=
  h.accept (fun _ => (scalar 127).visible) fun _ n _ => scalar n

/-- To close a list or an object leaves the reader sound. -/
lemma Open.close (h : Open skips unseen stack) (plain : Plain next) :
    Sound skips (Reader.close ⟨stack, next, unseen⟩) := by
  cases h with
  | start => exact .reading .start plain
  | @outer _ frame holds skipped =>
    cases frame with
    | list items =>
      refine .done (within_list.2 fun v mem => ?_)
      exact holds v (List.mem_reverse.1 mem)
    | object members name =>
      refine .done fun m mem => ?_
      exact holds m (List.mem_reverse.1 mem)
  | @inner n frame outside stack outer holds room =>
    cases frame with
    | list items =>
      refine outer.accept nofun fun _ k levels => ?_
      obtain rfl : k = n + 1 := by
        rw [List.length_cons] at levels
        omega
      exact within_list.2 fun v mem => holds v (List.mem_reverse.1 mem)
    | object members name =>
      refine outer.accept nofun fun _ k levels => ?_
      obtain rfl : k = n + 1 := by
        rw [List.length_cons] at levels
        omega
      exact within_object.2 fun m mem => holds m (List.mem_reverse.1 mem) rfl
  | @hidden frame _ _ outer => cases frame <;> exact outer.accept nofun nofun

/-- To open a list or an object leaves the reader sound. -/
lemma Open.openFrame {frame first r} (h : Open skips unseen stack)
    (opened : Reader.openFrame ⟨stack, next, unseen⟩ frame first = .ok r)
    (fresh : ∀ skips n, frame.Holds skips n) (plain : Plain first) : Sound skips r := by
  rw [Reader.openFrame] at opened
  split at opened
  next => cases opened
  next room =>
    cases opened
    refine .reading ?_ plain
    cases h with
    | start => exact .outer (fresh _ _) nofun
    | @outer unseen outside holds skipped =>
      cases unseen with
      | false => exact .inner (.outer holds skipped) (fresh _ _) rfl
      | true => exact .hidden (.outer holds skipped)
    | @inner n inside outside stack outer holds room' =>
      simp only [Bool.not_false, Bool.true_and, decide_eq_true_eq, List.length_cons] at room
      have levels : 124 - stack.length + ((outside :: stack).length + 2) = 127 := by
        rw [List.length_cons]
        omega
      exact .inner (.inner outer holds room') (fresh _ _) levels
    | hidden outer => exact .hidden (.hidden outer)

/-- A name that was read belongs to the innermost object. -/
lemma Open.acceptText {isName s} (h : Open skips unseen stack) :
    Sound skips (Reader.acceptText skips ⟨stack, next, unseen⟩ isName s) := by
  cases isName with
  | false => exact h.accept_scalar fun _ => within_string
  | true =>
    cases h with
    | start => exact .reading .start trivial
    | @outer _ frame holds skipped =>
      cases frame with
      | list items => exact .reading (.outer holds skipped) trivial
      | object members name => exact .reading (.outer holds id) trivial
    | @inner n frame outside stack outer holds room =>
      cases frame with
      | list items => exact .reading (.inner outer holds room) trivial
      | object members name => exact .reading (.inner outer holds room) trivial
    | @hidden frame _ _ outer => cases frame <;> exact .reading (.hidden outer) trivial

/-- A code unit of a text leaves the reader sound. -/
lemma Open.acceptUnit {isName chars unit lead r} (h : Open skips unseen stack)
    (read : Reader.acceptUnit ⟨stack, next, unseen⟩ isName chars unit lead = .ok r) :
    Sound skips r := by
  cases lead with
  | some high =>
    simp only [Reader.acceptUnit] at read
    split_ifs at read
    cases read
    exact .reading h trivial
  | none =>
    simp only [Reader.acceptUnit] at read
    split_ifs at read <;> cases read <;> exact .reading h trivial

/-- A character of a text leaves the reader sound. -/
lemma Open.inText {isName chars escape c r} (h : Open skips unseen stack)
    (read : Reader.inText skips ⟨stack, next, unseen⟩ isName chars escape c = .ok r) :
    Sound skips r := by
  cases escape with
  | outside =>
    simp only [Reader.inText] at read
    split_ifs at read <;> cases read
    · exact h.acceptText
    · exact .reading h trivial
    · exact .reading h trivial
  | backslash =>
    simp only [Reader.inText] at read
    split at read <;> cases read <;> exact .reading h trivial
  | codeUnit left value lead =>
    simp only [Reader.inText] at read
    split at read
    · cases read
      exact .reading h trivial
    · split at read
      · exact h.acceptUnit read
      · cases read
  | secondBackslash lead =>
    simp only [Reader.inText] at read
    split_ifs at read
    cases read
    exact .reading h trivial
  | secondMark lead =>
    simp only [Reader.inText] at read
    split_ifs at read
    cases read
    exact .reading h trivial

/-- A character between values leaves the reader sound. -/
lemma Sound.between {r r' c} (h : Sound skips r) (read : Reader.between r c = .ok r') :
    Sound skips r' := by
  cases h with
  | done document =>
    simp only [Reader.between] at read
    split_ifs at read
    cases read
    exact .done document
  | reading opened plain =>
    simp only [Reader.between] at read
    split at read
    · cases read
      exact .reading opened plain
    · -- a comma or the end of a list, then of an object
      split at read <;> cases read
      · exact .reading opened trivial
      · exact opened.close plain
      · exact .reading opened trivial
      · exact opened.close plain

/-- A numeral that stands for nothing is passed over where nobody looks. -/
lemma Open.acceptNumeral {m r} (h : Open skips unseen stack)
    (read : Reader.acceptNumeral ⟨stack, next, unseen⟩ m = .ok r) : Sound skips r := by
  rw [Reader.acceptNumeral] at read
  split at read
  next value =>
    cases read
    exact h.accept_scalar fun _ => within_of_value? value
  next =>
    cases read
    exact h.accept_scalar fun _ => within_null
  next => cases read

/-- A character of a numeral leaves the reader sound. -/
lemma Open.inNumeral {part m c r} (h : Open skips unseen stack)
    (read : Reader.inNumeral ⟨stack, next, unseen⟩ part m c = .ok r) : Sound skips r := by
  have ends (read : (do (← Reader.acceptNumeral ⟨stack, next, unseen⟩ m).between c) = .ok r) :
      Sound skips r := by
    obtain ⟨r', accepted, follows⟩ := bind_eq_ok.1 read
    exact (h.acceptNumeral accepted).between follows
  cases digit : digit? c with
  | some d =>
    cases part <;> simp only [Reader.inNumeral, digit] at read <;> cases read <;>
      exact .reading h trivial
  | none =>
    cases part with
    | sign | point | exponentSign =>
      simp only [Reader.inNumeral, digit] at read
      cases read
    | exponent =>
      simp only [Reader.inNumeral, digit] at read
      exact ends read
    | mark =>
      simp only [Reader.inNumeral, digit] at read
      split_ifs at read <;> cases read <;> exact .reading h trivial
    | _ =>
      simp only [Reader.inNumeral, digit] at read
      split_ifs at read
      · cases read
        exact .reading h trivial
      · cases read
        exact .reading h trivial
      · exact ends read

/-- The first character of a value leaves the reader sound. -/
lemma Open.startValue {c r} (h : Open skips unseen stack)
    (read : Reader.start ⟨stack, next, unseen⟩ c = .ok r) : Sound skips r := by
  simp only [Reader.start] at read
  split at read
  next =>
    cases read
    exact .reading h trivial
  next => exact h.openFrame read (by simp [Frame.Holds]) trivial
  next => exact h.openFrame read (by simp [Frame.Holds]) trivial
  iterate 3
    next =>
      cases read
      exact .reading h fun _ => by simp
  iterate 2
    next =>
      cases read
      exact .reading h trivial
  next =>
    split at read <;> cases read
    exact .reading h trivial

/-- Before a name the reader is in no member. -/
lemma Open.beforeName (h : Open skips unseen stack) :
    Open skips (unseen && stack.length ≠ 1) stack := by
  cases h with
  | start => exact .start
  | @outer unseen frame holds skipped =>
    rw [show (unseen && decide ([frame].length ≠ 1)) = false by simp]
    exact .outer holds nofun
  | inner outer holds room => exact .inner outer holds room
  | hidden outer =>
    simpa using .hidden outer

/-- One more character keeps up the invariant. -/
lemma Sound.step {c r r'} (h : Sound skips r) (read : Reader.step skips r c = .ok r') :
    Sound skips r' := by
  cases h with
  | done document => exact (Sound.done document).between read
  | @reading stack next unseen opened plain =>
    cases next with
    | nothing v => exact plain.elim
    | separator => exact (Sound.reading opened plain).between read
    | numeral part m => exact opened.inNumeral read
    | text isName chars escape => exact opened.inText read
    | value closable =>
      simp only [Reader.step] at read
      split_ifs at read
      · cases read
        exact .reading opened plain
      · cases read
        exact opened.close plain
      · exact opened.startValue read
    | name closable =>
      simp only [Reader.step] at read
      split_ifs at read <;> cases read
      · exact .reading opened plain
      · exact opened.close plain
      · exact .reading opened.beforeName trivial
    | colon =>
      simp only [Reader.step] at read
      split_ifs at read <;> cases read
      · exact .reading opened plain
      · exact .reading opened trivial
    | word rest meaning =>
      simp only [Reader.step] at read
      split at read
      · cases read
      · split_ifs at read
        cases read
        exact opened.accept_scalar plain
      · split_ifs at read
        cases read
        exact .reading opened plain

/-- What a sound reader has completed is within the limits as far as it is seen. -/
lemma Sound.next_nothing {r v} (h : Sound skips r) (complete : r.next = .nothing v) :
    v.Visible skips := by
  cases h with
  | done document =>
    cases complete
    exact document
  | reading opened plain =>
    cases complete
    exact plain.elim

/-- What a sound reader comes to is within the limits as far as it is seen. -/
lemma Sound.finish {r v} (h : Sound skips r) (read : Reader.finish r = .ok v) : v.Visible skips := by
  simp only [Reader.finish] at read
  split at read
  next complete =>
    cases read
    exact h.next_nothing complete
  next part m numeral =>
    split_ifs at read
    obtain ⟨r', accepted, last⟩ := bind_eq_ok.1 read
    split at last <;> cases last
    next complete =>
      cases h with
      | done document => cases numeral
      | reading opened plain => exact (opened.acceptNumeral accepted).next_nothing complete
  next => cases read

/-- A reader is sound at the end of a text if it was at the start. -/
lemma Sound.run {cs : List Char} {r r'} (h : Sound skips r) (read : cs.foldlM (Reader.step skips) r = .ok r') :
    Sound skips r' := by
  induction cs generalizing r with
  | nil =>
    cases read
    exact h
  | cons c cs ih =>
    rw [List.foldlM_cons] at read
    obtain ⟨next, now, later⟩ := bind_eq_ok.1 read
    exact ih (h.step now) later

end

end Reader

/-- What is read of a text keeps to the bounds of documents. -/
theorem visible_of_read {skips text v} (h : readSkipping skips text = .ok v) : v.Visible skips := by
  obtain ⟨r, read, finished⟩ := bind_eq_ok.1 h
  have fresh : Reader.Sound skips {} := .reading .start trivial
  exact (fresh.run read).finish finished

end QueryRecipe.Json
