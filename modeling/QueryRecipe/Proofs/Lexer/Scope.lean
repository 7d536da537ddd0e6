import QueryRecipe.Proofs.Lexer

/-!
# Qualifiers and aliases

What the tokens of a clause say about tables: the names that qualify others (`qualifiers`) and the
names that are brought in as aliases (`aliases`). Both are read off the tokens alone, whatever the
tokens were written from.
-/

namespace QueryRecipe.Lexer

/-- The name that a word or a quoted run stands for. -/
def Token.name? : Token → Option String
  | .word s | .quoted _ s => some (.ofList s)
  | _ => none

/-- The dot between the parts of a name. -/
abbrev dot : Token :=
  .symbol '.'

/-- The names that stand before a dot and are not themselves behind one. The flag says whether a dot has
just been read. -/
def qualifiersFrom : Bool → List Token → List String
  | _, [] => []
  | behind, t :: rest =>
    let found := if !behind && rest.head? = some dot then t.name?.toList else []
    found ++ qualifiersFrom (t = dot) rest

/-- The names that qualify others. -/
def qualifiers (toks : List Token) : List String :=
  qualifiersFrom false toks

/-- The word that brings in an alias. -/
abbrev wordAs : Token :=
  .word ['A', 'S']

/-- The names behind the word `AS`. -/
def aliases : List Token → List String
  | [] => []
  | t :: rest =>
    let found := if t = wordAs then (rest.head?.bind Token.name?).toList else []
    found ++ aliases rest

/-- What follows a dot, any number of times. -/
inductive Path : List Token → Prop where
  | nil :
    Path []
  | cons {t rest} :
    t ≠ dot →
    Path rest →
    Path (dot :: t :: rest)

/-- Tokens whose qualifiers are among the names with a property: each dot stands in a path behind such a
name. -/
inductive Scoped (P : String → Prop) : List Token → Prop where
  | nil :
    Scoped P []
  | cons {t rest} :
    t ≠ dot →
    Scoped P rest →
    Scoped P (t :: rest)
  | path {t path rest} :
    (∀ x ∈ t.name?, P x) →
    t ≠ dot →
    Path path →
    Scoped P rest →
    Scoped P (t :: path ++ rest)

section Scoped
variable {P : String → Prop}

/-- Scoped tokens do not begin with a dot. -/
lemma Scoped.head? {toks} (h : Scoped P toks) : toks.head? ≠ some dot := by
  cases h with
  | nil => simp
  | cons ne _ => simpa using ne
  | path _ ne _ _ => simpa using ne

/-- Scoped tokens in a row are scoped. -/
lemma Scoped.append {xs ys} (hx : Scoped P xs) (hy : Scoped P ys) : Scoped P (xs ++ ys) := by
  induction hx with
  | nil => exact hy
  | cons ne _ ih => exact .cons ne ih
  | path name ne path _ ih =>
    rw [List.append_assoc]
    exact .path name ne path ih

/-- Tokens without dots have no qualifiers. -/
lemma Scoped.of_plain {toks} (h : dot ∉ toks) : Scoped P toks := by
  induction toks with
  | nil => exact .nil
  | cons t toks ih =>
    rw [List.mem_cons, not_or] at h
    exact .cons (Ne.symm h.1) (ih h.2)

/-- A path has no qualifiers of its own. -/
lemma qualifiersFrom_path {path rest} (h : Path path) :
    qualifiersFrom false (path ++ rest) = qualifiersFrom false rest := by
  induction h with
  | nil => rfl
  | @cons t path ne _ ih =>
    -- neither the dot nor what follows it qualifies anything
    simp [qualifiersFrom, ne, ih]

/-- The qualifiers of such tokens have the property. -/
lemma Scoped.qualifiers {toks} (h : Scoped P toks) : ∀ x ∈ qualifiers toks, P x := by
  induction h with
  | nil => simp [Lexer.qualifiers, qualifiersFrom]
  | @cons t rest ne later ih =>
    rw [Lexer.qualifiers, qualifiersFrom]
    simpa [ne, later.head?, Lexer.qualifiers] using ih
  | @path t path rest name ne path later ih =>
    rw [Lexer.qualifiers, List.cons_append, qualifiersFrom, decide_eq_false ne,
      qualifiersFrom_path path]
    refine List.forall_mem_append.2 ⟨fun x mem => ?_, ih⟩
    split at mem
    · exact name x (Option.mem_toList.1 mem)
    · cases mem

example : (lex .postgres "t.\"a\", \"j1\".\"b\".\"c\" || 'd.e' || 1.5".toList).map qualifiers =
    some ["t", "j1"] := by decide +kernel

end Scoped

/-- Aliases are read part by part, if no alias is open in between. -/
lemma aliases_append {xs ys} (h : xs.getLast? ≠ some wordAs) :
    aliases (xs ++ ys) = aliases xs ++ aliases ys := by
  induction xs with
  | nil => rfl
  | cons t xs ih =>
    cases xs with
    | nil =>
      have ne : t ≠ wordAs := by simpa using h
      simp [aliases, ne]
    | cons u xs =>
      rw [List.getLast?_cons_cons] at h
      show _ ++ aliases (u :: xs ++ ys) = (_ ++ aliases (u :: xs)) ++ aliases ys
      rw [ih h, List.append_assoc]
      rfl

example : (lex .mysql "FROM `a` AS t LEFT JOIN `b`.`c` AS `j1`".toList).map aliases =
    some ["t", "j1"] := by decide +kernel

/-- Tokens without the word `AS` bring in no alias. -/
lemma aliases_plain {toks} (h : wordAs ∉ toks) : aliases toks = [] := by
  induction toks with
  | nil => rfl
  | cons t toks ih =>
    rw [List.mem_cons, not_or] at h
    simp [aliases, Ne.symm h.1, ih h.2]

end QueryRecipe.Lexer
