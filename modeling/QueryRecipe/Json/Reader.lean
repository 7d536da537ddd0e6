import QueryRecipe.Json.Number

/-!
# Reading JSON texts

A document is read in one pass over its characters. The state holds the lists and objects that are
open, the innermost first, and what may come next. A text that goes wrong at a character is malformed;
one that ends too early is truncated.

Lists and objects nest at most 127 deep, a number must be in the range of binary64, and the two halves
of a surrogate pair must both be there. A member of the outermost object that the caller will not look
at need only follow the grammar: these three rules do not apply inside it.
-/

namespace QueryRecipe.Json

/-- An open list or object with what has been read of it, the latest first. -/
inductive Frame where
  | list (items : List Json)
  /-- The members before the current one, and the name of the current one. -/
  | object (members : List (String × Json)) (name : String)

/-- How far a numeral has been read. -/
inductive NumeralPart where
  | sign
  | zero
  | whole
  | point
  | fraction
  | mark
  | exponentSign
  | exponent
  deriving DecidableEq

/-- Whether a numeral may end here. -/
def NumeralPart.complete : NumeralPart → Bool
  | .zero | .whole | .fraction | .exponent => true
  | .sign | .point | .mark | .exponentSign => false

/-- Where a quoted text stands inside an escape. -/
inductive Escape where
  | outside
  | backslash
  /-- Inside the four hexadecimal digits of a code unit: how many bytes are still to come, the value so
  far unless a digit was wrong, and the first half of the pair if this is the second. -/
  | codeUnit (left : Nat) (value : Option Nat) (lead : Option Nat)
  /-- After the first half of a surrogate pair. -/
  | secondBackslash (lead : Nat)
  | secondMark (lead : Nat)

/-- What the next character may be. -/
inductive Expectation where
  /-- A value; `closable` when the list that was just opened may end instead. -/
  | value (closable : Bool)
  /-- The name of a member; `closable` when the object that was just opened may end instead. -/
  | name (closable : Bool)
  | colon
  /-- A comma or the end of the innermost list or object. -/
  | separator
  /-- Only blanks: the document is complete. -/
  | nothing (document : Json)
  | word (rest : List Char) (meaning : Json)
  /-- The rest of a numeral; its digits are held latest first. -/
  | numeral (part : NumeralPart) (m : Numeral)
  /-- The rest of a quoted text, its characters held latest first. -/
  | text (isName : Bool) (chars : List Char) (escape : Escape)

/-- The state of a reader. -/
structure Reader where
  stack : List Frame := []
  next : Expectation := .value false
  /-- Whether the reader is inside a member that nobody will look at. -/
  unseen : Bool := false

/-- The blanks of JSON. -/
def isSpace (c : Char) : Bool :=
  c = ' ' || c = '\t' || c = '\n' || c = '\r'

/-- The value of a hexadecimal digit. -/
def hexDigit? (c : Char) : Option Nat :=
  if '0' ≤ c ∧ c ≤ '9' then some (c.toNat - '0'.toNat)
  else if 'a' ≤ c ∧ c ≤ 'f' then some (c.toNat - 'a'.toNat + 10)
  else if 'A' ≤ c ∧ c ≤ 'F' then some (c.toNat - 'A'.toNat + 10)
  else none

/-- The value of a decimal digit. -/
def digit? (c : Char) : Option Nat :=
  if '0' ≤ c ∧ c ≤ '9' then some (c.toNat - '0'.toNat) else none

namespace Reader

/-- The state after a complete value. -/
def accept (r : Reader) (v : Json) : Reader :=
  match r.stack with
  | [] => { r with next := .nothing v }
  | .list items :: stack => { r with stack := .list (v :: items) :: stack, next := .separator }
  | .object members name :: stack =>
    { r with stack := .object ((name, v) :: members) name :: stack, next := .separator }

/-- The state after the end of the innermost list or object. -/
def close (r : Reader) : Reader :=
  match r.stack with
  | [] => r
  | .list items :: stack => { r with stack }.accept (.list items.reverse)
  | .object members _ :: stack => { r with stack }.accept (.object members.reverse)

/-- The state after the start of a list or an object. -/
def openFrame (r : Reader) (frame : Frame) (next : Expectation) : Except Fault Reader :=
  if !r.unseen && 127 ≤ r.stack.length then
    .error .malformed
  else
    .ok { r with stack := frame :: r.stack, next }

/-- The first character of a value. -/
def start (r : Reader) (c : Char) : Except Fault Reader :=
  match c with
  | '"' => .ok { r with next := .text false [] .outside }
  | '[' => r.openFrame (.list []) (.value true)
  | '\x7b' => r.openFrame (.object [] "") (.name true)
  | 'n' => .ok { r with next := .word ['u', 'l', 'l'] .null }
  | 't' => .ok { r with next := .word ['r', 'u', 'e'] (.bool true) }
  | 'f' => .ok { r with next := .word ['a', 'l', 's', 'e'] (.bool false) }
  | '-' => .ok { r with next := .numeral .sign { negative := true } }
  | '0' => .ok { r with next := .numeral .zero { whole := [0] } }
  | _ =>
    match digit? c with
    | some d => .ok { r with next := .numeral .whole { whole := [d] } }
    | none => .error .malformed

/-- A character after a complete value. -/
def between (r : Reader) (c : Char) : Except Fault Reader :=
  if isSpace c then
    .ok r
  else
    match r.next, r.stack, c with
    | .separator, .list _ :: _, ',' => .ok { r with next := .value false }
    | .separator, .list _ :: _, ']' => .ok r.close
    | .separator, .object _ _ :: _, ',' => .ok { r with next := .name false }
    | .separator, .object _ _ :: _, '\x7d' => .ok r.close
    | _, _, _ => .error .malformed

/-- The state after a quoted text. A name that the caller skips starts an unseen member. -/
def acceptText (skips : String → Bool) (r : Reader) (isName : Bool) (s : String) : Reader :=
  if isName then
    match r.stack with
    | .object members _ :: stack =>
      { stack := .object members s :: stack
        next := .colon
        unseen := if stack.isEmpty then skips s else r.unseen }
    | _ => { r with next := .colon }
  else
    r.accept (.string s)

/-- The state after the four digits of a code unit. An unpaired half is read as the replacement
character where nobody looks and is malformed elsewhere. -/
def acceptUnit (r : Reader) (isName : Bool) (chars : List Char) (unit : Nat) (lead : Option Nat) :
    Except Fault Reader :=
  let put (c : Char) : Except Fault Reader := .ok { r with next := .text isName (c :: chars) .outside }
  let isLow := 0xDC00 ≤ unit && unit ≤ 0xDFFF
  let isHigh := 0xD800 ≤ unit && unit ≤ 0xDBFF
  match lead with
  | some high =>
    if isLow then put (.ofNat (0x10000 + (high - 0xD800) * 0x400 + (unit - 0xDC00)))
    else .error .malformed
  | none =>
    if r.unseen && (isLow || isHigh) then put '\uFFFD'
    else if isLow then .error .malformed
    else if isHigh then .ok { r with next := .text isName chars (.secondBackslash unit) }
    else put (.ofNat unit)

/-- A character inside a quoted text. -/
def inText (skips : String → Bool) (r : Reader) (isName : Bool) (chars : List Char) (escape : Escape)
    (c : Char) : Except Fault Reader :=
  let put (d : Char) : Except Fault Reader := .ok { r with next := .text isName (d :: chars) .outside }
  let go (e : Escape) : Except Fault Reader := .ok { r with next := .text isName chars e }
  match escape with
  | .outside =>
    if c = '"' then .ok (r.acceptText skips isName (.ofList chars.reverse))
    else if c = '\\' then go .backslash
    else if c.toNat < 0x20 then .error .malformed
    else put c
  | .backslash =>
    match c with
    | '"' => put '"'
    | '\\' => put '\\'
    | '/' => put '/'
    | 'b' => put '\x08'
    | 'f' => put '\x0c'
    | 'n' => put '\n'
    | 'r' => put '\r'
    | 't' => put '\t'
    | 'u' => go (.codeUnit 4 (some 0) none)
    | _ => .error .malformed
  | .codeUnit left value lead =>
    let value := do return (← value) * 16 + (← hexDigit? c)
    if c.utf8Size < left then
      go (.codeUnit (left - c.utf8Size) value lead)
    else
      match value with
      | some unit => r.acceptUnit isName chars unit lead
      | none => .error .malformed
  | .secondBackslash lead => if c = '\\' then go (.secondMark lead) else .error .malformed
  | .secondMark lead => if c = 'u' then go (.codeUnit 4 (some 0) (some lead)) else .error .malformed

/-- The numeral with one more digit in the given part. -/
def addDigit (m : Numeral) (part : NumeralPart) (d : Nat) : Numeral :=
  match part with
  | .fraction => { m with fraction := some (d :: m.fraction.getD []) }
  | .exponent =>
    let (negative, ds) := m.exponent.getD (false, [])
    { m with exponent := some (negative, d :: ds) }
  | _ => { m with whole := d :: m.whole }

/-- The numeral with its digits in the order of the text. -/
def inOrder (m : Numeral) : Numeral :=
  { m with
    whole := m.whole.reverse
    fraction := m.fraction.map List.reverse
    exponent := m.exponent.map fun (negative, ds) => (negative, ds.reverse) }

/-- The state after a complete numeral. -/
def acceptNumeral (r : Reader) (m : Numeral) : Except Fault Reader :=
  match (inOrder m).value?, r.unseen with
  | some v, _ => .ok (r.accept v)
  | none, true => .ok (r.accept .null)
  | none, false => .error .malformed

/-- A character inside a numeral or right after it. -/
def inNumeral (r : Reader) (part : NumeralPart) (m : Numeral) (c : Char) : Except Fault Reader :=
  let go (p : NumeralPart) (m : Numeral) : Except Fault Reader := .ok { r with next := .numeral p m }
  match part, digit? c with
  | .sign, some d => go (if d = 0 then .zero else .whole) (addDigit m .whole d)
  | .whole, some d => go .whole (addDigit m .whole d)
  | .point, some d | .fraction, some d => go .fraction (addDigit m .fraction d)
  | .mark, some d | .exponentSign, some d | .exponent, some d =>
    go .exponent (addDigit m .exponent d)
  | .zero, some _ => .error .malformed
  | .mark, none =>
    if c = '+' then go .exponentSign { m with exponent := some (false, []) }
    else if c = '-' then go .exponentSign { m with exponent := some (true, []) }
    else .error .malformed
  | .sign, none | .point, none | .exponentSign, none => .error .malformed
  | .exponent, none => do (← r.acceptNumeral m).between c
  | part, none =>
    if c = 'e' ∨ c = 'E' then go .mark m
    else if c = '.' ∧ part ≠ .fraction then go .point m
    else do (← r.acceptNumeral m).between c

/-- The state after one more character. -/
def step (skips : String → Bool) (r : Reader) (c : Char) : Except Fault Reader :=
  match r.next with
  | .value closable =>
    if isSpace c then .ok r
    else if closable && c = ']' then .ok r.close
    else r.start c
  | .name closable =>
    if isSpace c then .ok r
    else if closable && c = '\x7d' then .ok r.close
    else if c = '"' then
      .ok { r with next := .text true [] .outside, unseen := r.unseen && r.stack.length ≠ 1 }
    else .error .malformed
  | .colon =>
    if isSpace c then .ok r
    else if c = ':' then .ok { r with next := .value false }
    else .error .malformed
  | .separator | .nothing _ => r.between c
  | .word rest meaning =>
    match rest with
    | [] => .error .malformed
    | [d] => if c = d then .ok (r.accept meaning) else .error .malformed
    | d :: rest => if c = d then .ok { r with next := .word rest meaning } else .error .malformed
  | .numeral part m => r.inNumeral part m c
  | .text isName chars escape => r.inText skips isName chars escape c

/-- The document that was read, at the end of the text. -/
def finish (r : Reader) : Except Fault Json :=
  match r.next with
  | .nothing v => .ok v
  | .numeral part m =>
    if part.complete then do
      match (← r.acceptNumeral m).next with
      | .nothing v => .ok v
      | _ => .error .truncated
    else
      .error (if r.unseen then .malformed else .truncated)
  | _ => .error .truncated

end Reader

/-- Reads a document; the members of the outermost object whose names `skips` holds of are unseen. -/
def readSkipping (skips : String → Bool) (text : String) : Except Fault Json := do
  let r ← text.toList.foldlM (Reader.step skips) {}
  r.finish

/-- Reads a document of which every part counts. -/
def read (text : String) : Except Fault Json :=
  readSkipping (fun _ => false) text

end QueryRecipe.Json
