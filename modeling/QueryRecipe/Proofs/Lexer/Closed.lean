import QueryRecipe.Proofs.Lexer

/-!
# Texts that close what they open

A grammar, for each dialect, of the texts in which every string, quoted name and comment that is opened
is closed again. It covers texts without backslashes and without the marks `--` and `/*`, and it is
exact there: such a text leaves the scanner outside runs and comments if and only if it is closed
(`closed_iff`).

A doubled delimiter needs no rule of its own: to close a run and to open one of the same kind at once
comes to the same as staying inside.
-/

namespace QueryRecipe.Lexer

/-- A text without backslashes and without the marks that open a comment with two signs. -/
structure Bare (s : List Char) : Prop where
  backslash : '\\' ∉ s
  dashes : ¬ ['-', '-'] <:+: s
  slashStar : ¬ ['/', '*'] <:+: s

/-- A part of a bare text is bare. -/
lemma Bare.of_infix {s t} (bare : Bare t) (h : s <:+: t) : Bare s :=
  ⟨fun mem => bare.backslash (h.subset mem), fun i => bare.dashes (i.trans h),
    fun i => bare.slashStar (i.trans h)⟩

/-- The tag of a dollar-quoted string: letters, digits and underscores, no digit first. -/
def IsTag (tag : List Char) : Prop :=
  ∀ pre c post, tag = pre ++ c :: post → isTagChar pre c = true

/-- Whether a `$` before the text begins a dollar-quoted string. -/
def StartsTag (s : List Char) : Prop :=
  ∃ tag r, IsTag tag ∧ s = tag ++ '$' :: r

/-- Whether a character begins a run or comment when `r` follows and a word has just been read or not.
A dollar sign that continues a word begins nothing. -/
def Opens (d : Dialect) (inWord : Bool) (c : Char) (r : List Char) : Prop :=
  (quote? d c).isSome ∨ (c = '#' ∧ d = .mysql) ∨
    (c = '$' ∧ d = .postgres ∧ inWord = false ∧ StartsTag r)

/-- Whether a word is being read after a further character. -/
def nextInWord (inWord : Bool) (c : Char) : Bool :=
  isWordStart c || (inWord && (c.isDigit || c = '$'))

/-- The texts that close every run and comment that they open, after a word or not. -/
inductive Closed (d : Dialect) : Bool → List Char → Prop where
  | nil {w} :
    Closed d w []
  | plain {w c r} :
    ¬ Opens d w c r →
    Closed d (nextInWord w c) r →
    Closed d w (c :: r)
  | run {w q body r} :
    quote? d q.opening = some q →
    q.closing ∉ body →
    Closed d false r →
    Closed d w (q.opening :: (body ++ q.closing :: r))
  | line {w body r} :
    d = .mysql →
    '\n' ∉ body →
    Closed d false r →
    Closed d w ('#' :: (body ++ '\n' :: r))
  | dollar {tag body r} :
    d = .postgres →
    IsTag tag →
    ¬ delimiter tag <:+: (body ++ delimiter tag).dropLast →
    Closed d false r →
    Closed d false ('$' :: (tag ++ '$' :: (body ++ delimiter tag ++ r)))

/-- The character that opens a run is its opening delimiter. -/
lemma eq_opening {d c q} (h : quote? d c = some q) : c = q.opening := by
  unfold quote? at h
  split_ifs at h with single double back bracket
  · cases h; exact single
  · cases h; exact double
  · cases h; exact back.1
  · cases h; exact bracket.1

section Runs
variable {d : Dialect}

/-- All up to the closing delimiter is inside a run. -/
lemma scan_inRun {q : Quote} {s : List Char} (bare : '\\' ∉ s) (h : q.closing ∉ s) (rev : List Char) :
    scan d (.run q rev) s = ([], .run q (s.reverse ++ rev)) := by
  refine scan_collect (fun c mem rev => ?_) rev
  have other : c ≠ q.closing := ne_of_mem_of_not_mem mem h
  have plain : c ≠ '\\' := ne_of_mem_of_not_mem mem bare
  simp [step, other, plain]

/-- Without its closing delimiter a run stays open. -/
lemma run_isOpen {q : Quote} {s rev} (bare : '\\' ∉ s) (h : q.closing ∉ s) :
    (scan d (.run q rev) s).2.isOpen = true := by
  rw [scan_inRun bare h]
  rfl

/-- The mode after the closing delimiter of a run. -/
def afterRun (q : Quote) (rev : List Char) : Mode :=
  if q.doubles then .closed q rev else .neutral

/-- A run ends at its first closing delimiter. -/
lemma scan_run {q : Quote} {body r rev} (bare : '\\' ∉ body) (h : q.closing ∉ body) :
    (scan d (.run q rev) (body ++ q.closing :: r)).2 =
      (scan d (afterRun q (body.reverse ++ rev)) r).2 := by
  rw [scan_append, scan_inRun bare h, scan]
  cases e : q.doubles <;> simp [step, afterRun, e, emit]

/-- All up to the end of the line is inside a comment. -/
lemma scan_inLine {s} (h : '\n' ∉ s) : scan d .line s = ([], .line) := by
  refine scan_collect (m := fun _ => .line) (fun c mem _ => ?_) []
  have other : c ≠ '\n' := ne_of_mem_of_not_mem mem h
  simp [step, other]

/-- Without the end of the line a comment stays open. -/
lemma line_isOpen {s} (h : '\n' ∉ s) : (scan d .line s).2.isOpen = true := by
  rw [scan_inLine h]
  rfl

/-- A comment ends at the end of the line. -/
lemma scan_line {body r} (h : '\n' ∉ body) :
    (scan d .line (body ++ '\n' :: r)).2 = (scan d .neutral r).2 := by
  rw [scan_append, scan_inLine h]
  rfl

/-- All up to the first occurrence of the delimiter is inside a dollar-quoted string. -/
lemma scan_inDollar {tag s} (rev : List Char) (h : ¬ delimiter tag <:+: rev.reverse ++ s) :
    scan d (.dollar tag rev) s = ([], .dollar tag (s.reverse ++ rev)) := by
  induction s generalizing rev with
  | nil => rfl
  | cons c s ih =>
    have not : ¬ (delimiter tag).reverse <+: c :: rev := by
      intro pre
      have suf : delimiter tag <:+ rev.reverse ++ [c] := by
        simpa [← List.reverse_prefix] using pre
      exact h (suf.isInfix.trans ⟨[], s, by simp⟩)
    have now : step d (.dollar tag rev) c = ([], .dollar tag (c :: rev)) := by
      simp [step, not]
    rw [scan, now, ih (c :: rev) (by simpa using h)]
    simp

/-- A dollar-quoted string in which the delimiter does not occur stays open. -/
lemma dollar_isOpen {tag s} (h : ¬ delimiter tag <:+: s) :
    (scan d (.dollar tag []) s).2.isOpen = true := by
  rw [scan_inDollar [] h]
  rfl

/-- A dollar-quoted string ends where the delimiter has occurred for the first time. -/
lemma scan_dollar {tag body r} (first : ¬ delimiter tag <:+: (body ++ delimiter tag).dropLast) :
    (scan d (.dollar tag []) (body ++ delimiter tag ++ r)).2 = (scan d .neutral r).2 := by
  obtain ⟨s, c, whole⟩ : ∃ s c, body ++ delimiter tag = s ++ [c] :=
    ⟨_, _, (List.dropLast_append_getLast (by simp [delimiter])).symm⟩
  rw [whole, List.dropLast_concat] at first
  have pre : (delimiter tag).reverse <+: c :: s.reverse := by
    rw [← List.reverse_suffix, List.reverse_reverse, List.reverse_cons, List.reverse_reverse, ← whole]
    exact List.suffix_append _ _
  have now : (step d (.dollar tag s.reverse) c).2 = .neutral := by
    simp [step, pre]
  rw [whole, List.append_assoc, scan_append, scan_inDollar [] first, List.append_nil,
    List.singleton_append, scan, now]
  rfl

/-- Where a text occurs, there is a first occurrence. -/
lemma exists_first {p s : List Char} (ne : p ≠ []) (h : p <:+: s) :
    ∃ body r, s = body ++ p ++ r ∧ ¬ p <:+: (body ++ p).dropLast := by
  induction s using List.reverseRecOn with
  | nil => exact absurd (List.infix_nil.1 h) ne
  | append_singleton s c ih =>
    by_cases earlier : p <:+: s
    · obtain ⟨body, r, rfl, first⟩ := ih earlier
      exact ⟨body, r ++ [c], by simp, first⟩
    · obtain ⟨body, r, e⟩ := h
      have nil : r = [] := by
        by_contra some
        refine earlier ⟨body, r.dropLast, ?_⟩
        have := congrArg List.dropLast e
        rwa [List.dropLast_append_of_ne_nil some, List.dropLast_concat] at this
      subst nil
      refine ⟨body, [], by simpa using e.symm, ?_⟩
      rw [List.append_nil] at e
      rwa [e, List.dropLast_concat]

end Runs

section Tags
variable {d : Dialect}

/-- After a character that a tag admits the characters read so far are a tag. -/
lemma IsTag.snoc {rev c} (tag : IsTag rev.reverse) (h : isTagChar rev c = true) :
    IsTag (c :: rev).reverse := by
  intro pre x post e
  rw [List.reverse_cons] at e
  rcases List.eq_nil_or_concat' post with rfl | ⟨post, y, rfl⟩
  · obtain ⟨rfl, last⟩ := List.append_inj' e rfl
    cases last
    simpa [isTagChar] using h
  · rw [← List.cons_append, ← List.append_assoc] at e
    obtain ⟨front, -⟩ := List.append_inj' e rfl
    exact tag pre x post front

/-- A tag is read up to its second dollar sign. -/
lemma scan_tag {tag r} (rev : List Char) (h : IsTag (rev.reverse ++ tag)) :
    (scan d (.tag rev) (tag ++ '$' :: r)).2 = (scan d (.dollar (rev.reverse ++ tag) []) r).2 := by
  induction tag generalizing rev with
  | nil =>
    have no : isTagChar rev '$' = false := by
      have start : isWordStart '$' = false := by decide
      have digit : Char.isDigit '$' = false := by decide
      simp [isTagChar, start, digit]
    rw [List.nil_append, scan, List.append_nil]
    simp [step, no, emit]
  | cons c tag ih =>
    have yes : isTagChar rev c = true := by
      simpa [isTagChar] using h rev.reverse c tag rfl
    have now : step d (.tag rev) c = ([], .tag (c :: rev)) := by simp [step, yes]
    have later : rev.reverse ++ c :: tag = (c :: rev).reverse ++ tag := by simp
    rw [List.cons_append, scan, now, later]
    exact ih (c :: rev) (later ▸ h)

/-- After a dollar sign a tag and all up to the delimiter are read as one string. -/
lemma scan_dollarString {tag body r} (isTag : IsTag tag)
    (first : ¬ delimiter tag <:+: (body ++ delimiter tag).dropLast) :
    (scan d (.tag []) (tag ++ '$' :: (body ++ delimiter tag ++ r))).2 = (scan d .neutral r).2 := by
  exact (scan_tag [] isTag).trans (scan_dollar first)

/-- The mode in which the characters after a dollar sign are read when they are no tag. -/
def tagAsWord : List Char → Mode
  | [] => .neutral
  | rev => .word rev

/-- A dollar sign that begins no string is read as a sign, and what follows by itself. -/
lemma scan_noTag {s} (rev : List Char) (tag : IsTag rev.reverse)
    (h : ¬ ∃ t r, IsTag (rev.reverse ++ t) ∧ s = t ++ '$' :: r) :
    (scan d (.tag rev) s).2.isOpen = (scan d (tagAsWord rev) s).2.isOpen := by
  induction s generalizing rev with
  | nil => cases rev <;> rfl
  | cons c s ih =>
    cases yes : isTagChar rev c with
    | true =>
      have now : step d (.tag rev) c = ([], .tag (c :: rev)) := by simp [step, yes]
      have word : step d (tagAsWord rev) c = ([], .word (c :: rev)) := by
        cases rev with
        | nil => exact start_word (by simpa [isTagChar] using yes)
        | cons x rev =>
          have more : isWordChar c = true := by
            simp only [isTagChar, Bool.or_eq_true, Bool.and_eq_true] at yes
            rcases yes with yes | ⟨yes, -⟩ <;> simp [isWordChar, yes]
          simp [tagAsWord, step, more]
      rw [scan, now, scan, word]
      -- a tag that goes on after `c` would have been one before it
      refine ih (c :: rev) (tag.snoc yes) ?_
      rintro ⟨t, r, more, e⟩
      exact h ⟨c :: t, r, by simpa using more, by simp [e]⟩
    | false =>
      have ne : c ≠ '$' := by
        rintro rfl
        exact h ⟨[], s, by simpa using tag, rfl⟩
      have now : (step d (.tag rev) c).2 = (start d c).2 := by simp [step, yes, ne, emit]
      have word : (step d (tagAsWord rev) c).2 = (start d c).2 := by
        cases rev with
        | nil => rfl
        | cons x rev =>
          have no : isWordChar c = false := by
            simpa [isTagChar, isWordChar, ne] using yes
          simp [tagAsWord, step, no, emit]
      rw [scan, scan]
      simp only [emit, now, word]

end Tags

section Grammar
variable {d : Dialect}

/-- The modes outside runs and comments in which a closed text is read on, and whether a word is being
read in them. -/
inductive Rests (d : Dialect) : Mode → Bool → Prop where
  | neutral : Rests d .neutral false
  | word {rev} : Rests d (.word rev) true
  | number {rev} : Rests d (.number rev) false
  | dash : Rests d .dash false
  | slash : Rests d .slash false
  | closed {q : Quote} {rev} : quote? d q.opening = some q → q.doubles = true →
    Rests d (.closed q rev) false

/-- The sign before the text that may be the first of a comment mark. -/
def pending : Mode → List Char
  | .dash => ['-']
  | .slash => ['/']
  | _ => []

/-- Nothing is open at rest. -/
lemma Rests.notOpen {m w} (rests : Rests d m w) : m.isOpen = false := by
  cases rests <;> rfl

/-- A character that begins nothing leaves the scanner at rest. -/
lemma start_rests {c} (none : quote? d c = none) (hash : ¬ (c = '#' ∧ d = .mysql))
    (dollar : ¬ (c = '$' ∧ d = .postgres)) :
    Rests d (start d c).2 (isWordStart c) ∧
      (pending (start d c).2 = [] ∨ pending (start d c).2 = [c]) := by
  cases word : isWordStart c with
  | true =>
    rw [start_word word]
    exact ⟨.word, .inl rfl⟩
  | false =>
    simp only [start, none, hash, dollar, word, if_false, Bool.false_eq_true]
    split_ifs with dash slash blank digit
    · exact ⟨.dash, .inr (by simp [pending, dash])⟩
    · exact ⟨.slash, .inr (by simp [pending, slash])⟩
    · exact ⟨.neutral, .inl rfl⟩
    · exact ⟨.number, .inl rfl⟩
    · exact ⟨.neutral, .inl rfl⟩

/-- The ways in which a character may extend what is being read at rest. -/
inductive Extends (d : Dialect) : Mode → Char → Prop where
  | word {rev c} : isWordChar c = true → Extends d (.word rev) c
  | number {rev c} : c.isDigit ∨ c = '.' → Extends d (.number rev) c
  | dash : Extends d .dash '-'
  | slash : Extends d .slash '*'
  | doubled {q : Quote} {rev} : quote? d q.opening = some q → q.doubles = true →
    Extends d (.closed q rev) q.opening

/-- The delimiters of a run in which they can be doubled are equal. -/
lemma closing_eq_opening {q : Quote} (h : q.doubles = true) : q.closing = q.opening := by
  cases q <;> first | rfl | cases h

/-- At rest a character extends what is being read or completes it, a word only if it is none of the
characters of a word. -/
lemma Rests.extends_or_settles {m w} (rests : Rests d m w) (c : Char) :
    Extends d m c ∨ Settles d m c ∧ (w = true → isWordChar c = false) := by
  cases rests with
  | neutral => exact .inr ⟨.neutral, nofun⟩
  | word =>
    cases more : isWordChar c with
    | true => exact .inl (.word more)
    | false => exact .inr ⟨.word more, fun _ => rfl⟩
  | number =>
    by_cases more : c.isDigit ∨ c = '.'
    · exact .inl (.number more)
    · rw [not_or, Bool.not_eq_true] at more
      exact .inr ⟨.number more.1 more.2, nofun⟩
  | dash =>
    by_cases e : c = '-'
    · exact .inl (e ▸ .dash)
    · exact .inr ⟨by simp [Settles, step, e], nofun⟩
  | slash =>
    by_cases e : c = '*'
    · exact .inl (e ▸ .slash)
    · exact .inr ⟨by simp [Settles, step, e], nofun⟩
  | @closed q rev valid doubles =>
    by_cases e : c = q.opening
    · exact .inl (e ▸ .doubled valid doubles)
    · exact .inr ⟨.closed (closing_eq_opening doubles ▸ e), nofun⟩

/-- A completed character leaves the mode that it has by itself. -/
lemma Settles.mode {m c} (h : Settles d m c) : (step d m c).2 = (start d c).2 := by
  rw [h]
  rfl

/-- At rest a character that begins nothing is passed over. -/
lemma Rests.step_plain {m w c r} (rests : Rests d m w) (bare : Bare (pending m ++ c :: r))
    (none : quote? d c = none) (hash : ¬ (c = '#' ∧ d = .mysql))
    (dollar : ¬ (c = '$' ∧ d = .postgres ∧ w = false)) :
    Rests d (step d m c).2 (nextInWord w c) ∧
      (pending (step d m c).2 = [] ∨ pending (step d m c).2 = [c]) := by
  rcases rests.extends_or_settles c with more | ⟨settles, noWord⟩
  · cases more with
    | @word rev _ more =>
      cases rests
      have next : nextInWord true c = true := by
        simpa [nextInWord, isWordChar, Bool.or_assoc] using more
      have now : step d (.word rev) c = ([], .word (c :: rev)) := by simp [step, more]
      rw [next, now]
      exact ⟨.word, .inl rfl⟩
    | @number rev _ more =>
      cases rests
      have next : nextInWord false c = false := by
        rcases more with digit | rfl
        · simp [nextInWord, isWordStart_digit digit]
        · decide
      have now : step d (.number rev) c = ([], .number (c :: rev)) := by simp [step, more]
      rw [next, now]
      exact ⟨.number, .inl rfl⟩
    | dash => exact absurd ⟨[], r, rfl⟩ bare.dashes
    | slash => exact absurd ⟨[], r, rfl⟩ bare.slashStar
    | doubled valid _ => simp [none] at valid
  · have next : nextInWord w c = isWordStart c := by
      cases w with
      | false => simp [nextInWord]
      | true =>
        have no := noWord rfl
        simp only [isWordChar, Bool.or_eq_false_iff] at no
        simp [nextInWord, no]
    rw [next, settles.mode]
    refine start_rests none hash ?_
    rintro ⟨e, pg⟩
    cases w with
    | false => exact dollar ⟨e, pg, rfl⟩
    | true => simp [isWordChar, e] at noWord

/-- At rest an opening delimiter begins its run. -/
lemma Rests.step_quote {m w} {q : Quote} (rests : Rests d m w)
    (valid : quote? d q.opening = some q) : ∃ rev, (step d m q.opening).2 = .run q rev := by
  rcases rests.extends_or_settles q.opening with more | ⟨settles, -⟩
  · generalize e : q.opening = c at more
    cases more with
    | word more => subst e; cases q <;> exact absurd more (by decide)
    | number more => subst e; cases q <;> exact absurd more (by decide)
    | dash => cases q <;> exact absurd e (by decide)
    | slash => cases q <;> exact absurd e (by decide)
    | @doubled q' rev valid' doubles =>
      have eq : q = q' := by
        rw [e, valid'] at valid
        exact (Option.some.inj valid).symm
      subst eq
      exact ⟨q.opening :: rev, by simp [step, closing_eq_opening doubles]⟩
  · exact ⟨[], by rw [settles.mode]; simp [start, valid]⟩

/-- After a run the scanner is at rest. -/
lemma rests_afterRun {q : Quote} (rev) (valid : quote? d q.opening = some q) :
    Rests d (afterRun q rev) false := by
  cases e : q.doubles with
  | true => simpa [afterRun, e] using Rests.closed valid e
  | false => simpa [afterRun, e] using Rests.neutral

/-- At rest a `#`, and a dollar sign that continues no word, is read by itself. -/
lemma Rests.step_sign {m w c} (rests : Rests d m w) (sign : c = '#' ∨ c = '$' ∧ w = false) :
    (step d m c).2 = (start d c).2 := by
  rcases rests.extends_or_settles c with more | ⟨settles, -⟩
  · exfalso
    cases more with
    | word more =>
      cases rests
      rcases sign with rfl | ⟨-, e⟩
      · exact absurd more (by decide)
      · cases e
    | number more => rcases sign with rfl | ⟨rfl, -⟩ <;> exact absurd more (by decide)
    | dash | slash => simp at sign
    | @doubled q => cases q <;> simp [Quote.opening] at sign
  · exact settles.mode

/-- What follows an extended or completed character is bare with the sign before it. -/
lemma Bare.next {m c r} {n : Mode} (bare : Bare (pending m ++ c :: r))
    (h : pending n = [] ∨ pending n = [c]) : Bare (pending n ++ r) := by
  refine bare.of_infix (List.IsInfix.trans ?_ (List.suffix_append _ _).isInfix)
  rcases h with e | e <;> rw [e]
  · exact List.infix_cons List.infix_rfl
  · exact List.infix_rfl

/-- A closed text leaves the scanner outside runs and comments. -/
lemma Closed.notOpen {w s} (closed : Closed d w s) {m} (rests : Rests d m w)
    (bare : Bare (pending m ++ s)) : (scan d m s).2.isOpen = false := by
  induction closed generalizing m with
  | nil => exact rests.notOpen
  | @plain w c r plain closed ih =>
    rw [Opens, not_or, not_or] at plain
    obtain ⟨quote, hash, dollar⟩ := plain
    rw [Bool.not_eq_true, Option.isSome_eq_false_iff, Option.isNone_iff_eq_none] at quote
    by_cases e : c = '$' ∧ d = .postgres ∧ w = false
    · obtain ⟨rfl, rfl, rfl⟩ := e
      have now : (step .postgres m '$').2 = .tag [] := rests.step_sign (.inr ⟨rfl, rfl⟩)
      -- the scanner tries for a tag, so `step_plain` does not apply; without one it ends as at rest
      have noTag : ¬ StartsTag r := fun h => dollar ⟨rfl, rfl, rfl, h⟩
      have same := scan_noTag (d := .postgres) [] (fun _ _ _ e => by simp at e)
        (by simpa [StartsTag] using noTag)
      rw [scan, now]
      exact same.trans (ih .neutral (bare.next (n := .neutral) (.inl rfl)))
    · obtain ⟨rests', sign⟩ := rests.step_plain bare quote hash e
      exact ih rests' (bare.next sign)
  | @run w q body r valid first closed ih =>
    obtain ⟨rev, now⟩ := rests.step_quote valid
    have inner := bare.of_infix (List.suffix_append _ _).isInfix
    have back : '\\' ∉ body := fun mem => inner.backslash (by simp [mem])
    rw [scan, now]
    refine (congrArg Mode.isOpen (scan_run back first)).trans (ih (rests_afterRun _ valid) ?_)
    refine inner.of_infix ?_
    have none : pending (afterRun q (body.reverse ++ rev)) = [] := by
      cases e : q.doubles <;> simp [afterRun, e, pending]
    rw [none]
    exact ⟨q.opening :: (body ++ [q.closing]), [], by simp⟩
  | @line w body r my first closed ih =>
    subst my
    have now : (step .mysql m '#').2 = .line := rests.step_sign (.inl rfl)
    rw [scan, now]
    refine (congrArg Mode.isOpen (scan_line first)).trans (ih .neutral ?_)
    exact bare.of_infix ⟨pending m ++ '#' :: (body ++ ['\n']), [], by simp [pending]⟩
  | @dollar tag body r pg isTag first closed ih =>
    subst pg
    have now : (step .postgres m '$').2 = .tag [] := rests.step_sign (.inr ⟨rfl, rfl⟩)
    rw [scan, now]
    refine (congrArg Mode.isOpen (scan_dollarString isTag first)).trans (ih .neutral ?_)
    exact bare.of_infix ⟨pending m ++ '$' :: (tag ++ '$' :: (body ++ delimiter tag)), [],
      by simp [pending]⟩

/-- A text that leaves the scanner outside runs and comments is closed. The induction is on the length
of the text: past a run it continues after the closing delimiter. -/
lemma Closed.of_notOpen {w m} {s : List Char} (rests : Rests d m w) (bare : Bare (pending m ++ s))
    (h : (scan d m s).2.isOpen = false) : Closed d w s := by
  induction hn : s.length using Nat.strongRecOn generalizing m w s with
  | _ n ih =>
    subst hn
    cases s with
    | nil => exact .nil
    | cons c r =>
      have tail : Bare r := bare.of_infix ⟨pending m ++ [c], [], by simp⟩
      rw [scan] at h
      replace h : (scan d (step d m c).2 r).2.isOpen = false := h
      cases quote : quote? d c with
      | some q =>
        have e := eq_opening quote
        subst e
        obtain ⟨rev, now⟩ := rests.step_quote quote
        rw [now] at h
        by_cases mem : q.closing ∈ r
        · obtain ⟨body, r', rfl, first⟩ := List.eq_append_cons_of_mem mem
          -- a doubled delimiter is two runs for the grammar, so the first one ends this run
          have back : '\\' ∉ body := fun mem => tail.backslash (by simp [mem])
          rw [scan_run back first] at h
          refine .run quote first (ih r'.length (by simp; omega) (rests_afterRun _ quote) ?_ h rfl)
          have none : pending (afterRun q (body.reverse ++ rev)) = [] := by
            cases e : q.doubles <;> simp [afterRun, e, pending]
          rw [none]
          exact tail.of_infix ⟨body ++ [q.closing], [], by simp⟩
        · rw [run_isOpen tail.backslash mem] at h
          cases h
      | none =>
        by_cases hash : c = '#' ∧ d = .mysql
        · obtain ⟨rfl, rfl⟩ := hash
          have now : (step .mysql m '#').2 = .line := rests.step_sign (.inl rfl)
          rw [now] at h
          by_cases mem : '\n' ∈ r
          · obtain ⟨body, r', rfl, first⟩ := List.eq_append_cons_of_mem mem
            rw [scan_line first] at h
            refine .line rfl first (ih r'.length (by simp; omega) .neutral ?_ h rfl)
            exact tail.of_infix ⟨body ++ ['\n'], [], by simp [pending]⟩
          · rw [line_isOpen mem] at h
            cases h
        by_cases dollar : c = '$' ∧ d = .postgres ∧ w = false
        · obtain ⟨rfl, rfl, rfl⟩ := dollar
          have now : (step .postgres m '$').2 = .tag [] := rests.step_sign (.inr ⟨rfl, rfl⟩)
          rw [now] at h
          -- with a tag the string has to be closed by it, without one the sign stands by itself
          by_cases starts : StartsTag r
          · obtain ⟨tag, r', isTag, rfl⟩ := starts
            by_cases mem : delimiter tag <:+: r'
            · obtain ⟨body, r'', rfl, first⟩ := exists_first (by simp [delimiter]) mem
              rw [scan_dollarString isTag first] at h
              refine .dollar rfl isTag first (ih r''.length (by simp; omega) .neutral ?_ h rfl)
              exact tail.of_infix ⟨tag ++ '$' :: (body ++ delimiter tag), [], by simp [pending]⟩
            · rw [scan_tag [] isTag, List.reverse_nil, List.nil_append, dollar_isOpen mem] at h
              cases h
          · rw [scan_noTag [] (fun _ _ _ e => by simp at e) (by simpa [StartsTag] using starts)] at h
            refine .plain (by simp [Opens, quote, starts]) ?_
            exact ih r.length (by simp) .neutral (by simpa [pending] using tail) h rfl
        · obtain ⟨rests', sign⟩ := rests.step_plain bare quote hash dollar
          refine .plain ?_ (ih r.length (by simp) rests' (bare.next sign) h rfl)
          rintro (some | my | ⟨e, pg, no, -⟩)
          · simp [quote] at some
          · exact hash my
          · exact dollar ⟨e, pg, no⟩

/-- A bare text is closed if and only if it leaves the scanner outside runs and comments. -/
theorem closed_iff {w m s} (rests : Rests d m w) (bare : Bare (pending m ++ s)) :
    Closed d w s ↔ (scan d m s).2.isOpen = false :=
  ⟨fun closed => closed.notOpen rests bare, .of_notOpen rests bare⟩

end Grammar

end QueryRecipe.Lexer
