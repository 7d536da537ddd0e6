import QueryRecipe.Binary64
import QueryRecipe.Text.Digits

/-!
# The scalars of TOML

Keys, strings, integers, numbers with a fraction, dates and times, as they are written in a TOML
document.
-/

namespace QueryRecipe.Toml

open Text (digitsValue)

/-- A reader takes something off the start of a text, or fails. -/
abbrev Scan (α : Type) := StateT (List Char) Option α

/-- The characters from here on for which `p` holds. -/
def takeWhile (p : Char → Bool) : Scan (List Char) := fun s =>
  some (s.takeWhile p, s.dropWhile p)

/-- The text `w`, exactly. -/
def exactly (w : String) : Scan Unit := fun s =>
  if w.toList.isPrefixOf s then some ((), s.drop w.length) else none

/-- One character for which `p` holds. -/
def one (p : Char → Bool) : Scan Char
  | [] => none
  | c :: s => if p c then some (c, s) else none

/-- What `a` reads, if it reads anything. -/
def optionally {α : Type} (a : Scan α) : Scan (Option α) :=
  some <$> a <|> pure none

/-- The blanks inside a line. -/
def isGap (c : Char) : Bool :=
  c = ' ' || c = '\t'

/-- A character that a comment or a quoted text may hold. -/
def isPrintable (c : Char) : Bool :=
  c = '\t' || (0x20 ≤ c.toNat && c.toNat ≠ 0x7F)

/-- A character of a key without quotes. -/
def isKeyChar (c : Char) : Bool :=
  c.isAlphanum || c = '_' || c = '-'

/-- Whether `c` is a hexadecimal digit. -/
def isHex (c : Char) : Bool :=
  c.isDigit || ('a' ≤ c && c ≤ 'f') || ('A' ≤ c && c ≤ 'F')

/-- The character of an escape by its code point. -/
def escaped? (ds : List Char) : Option Char :=
  let n := digitsValue 16 ds
  if ds.all isHex && n.isValidChar then some (.ofNat n) else none

/-- The character that a backslash and `c` stand for. -/
def shortEscape? (c : Char) : Option Char :=
  match c with
  | 'b' => some '\x08'
  | 't' => some '\t'
  | 'n' => some '\n'
  | 'f' => some '\x0c'
  | 'r' => some '\r'
  | '"' => some '"'
  | '\\' => some '\\'
  | _ => none

/-- What follows the opening quote of a string on one line. -/
def basicRest : Scan (List Char)
  | [] => none
  | '"' :: r => some ([], r)
  | '\\' :: 'u' :: a :: b :: c :: d :: r => do
    let e ← escaped? [a, b, c, d]
    let (cs, r) ← basicRest r
    return (e :: cs, r)
  | '\\' :: 'U' :: a :: b :: c :: d :: e :: f :: g :: h :: r => do
    let e ← escaped? [a, b, c, d, e, f, g, h]
    let (cs, r) ← basicRest r
    return (e :: cs, r)
  | '\\' :: c :: r => do
    let e ← shortEscape? c
    let (cs, r) ← basicRest r
    return (e :: cs, r)
  | c :: r => do
    if c = '\\' || !isPrintable c then
      none
    else
      let (cs, r) ← basicRest r
      return (c :: cs, r)

/-- What follows the opening quote of a string on one line in which nothing is escaped. -/
def literalRest : Scan (List Char)
  | [] => none
  | c :: r =>
    if c = '\'' then some ([], r)
    else if isPrintable c then do
      let (cs, r) ← literalRest r
      return (c :: cs, r)
    else
      none

/-- Whether a line ends here. -/
def startsLine (s : List Char) : Bool :=
  match s with
  | '\n' :: _ | '\r' :: '\n' :: _ => true
  | _ => false

/-- The characters of a closing run of quotes that belong to the text: up to two may stand before the
three that close it. -/
def extraQuotes (q : Char) (r : List Char) : List Char × List Char :=
  match r with
  | c :: d :: r' =>
    if c = q then (if d = q then ([q, q], r') else ([q], d :: r')) else ([], r)
  | [c] => if c = q then ([q], []) else ([], r)
  | [] => ([], [])

/-- What follows the three opening quotes of a string over several lines. After a backslash at the end
of a line, blanks and line ends are skipped. -/
def manyBasicRest (skipping : Bool) : Scan (List Char)
  | [] => none
  | '"' :: '"' :: '"' :: r => some (extraQuotes '"' r)
  | '\r' :: '\n' :: r => do
    let (cs, r) ← manyBasicRest skipping r
    return (if skipping then cs else '\n' :: cs, r)
  | '\\' :: 'u' :: a :: b :: c :: d :: r => do
    let e ← escaped? [a, b, c, d]
    let (cs, r) ← manyBasicRest false r
    return (e :: cs, r)
  | '\\' :: 'U' :: a :: b :: c :: d :: e :: f :: g :: h :: r => do
    let e ← escaped? [a, b, c, d, e, f, g, h]
    let (cs, r) ← manyBasicRest false r
    return (e :: cs, r)
  | '\\' :: c :: r =>
    if startsLine ((c :: r).dropWhile isGap) then
      manyBasicRest true (c :: r)
    else do
      let e ← shortEscape? c
      let (cs, r) ← manyBasicRest false r
      return (e :: cs, r)
  | c :: r =>
    if skipping && (isGap c || c = '\n') then
      manyBasicRest true r
    else if c = '\n' || (c ≠ '\\' && isPrintable c) then do
      let (cs, r) ← manyBasicRest false r
      return (c :: cs, r)
    else
      none

/-- What follows the three opening quotes of a string over several lines in which nothing is escaped. -/
def manyLiteralRest : Scan (List Char)
  | [] => none
  | '\'' :: '\'' :: '\'' :: r => some (extraQuotes '\'' r)
  | '\r' :: '\n' :: r => do
    let (cs, r) ← manyLiteralRest r
    return ('\n' :: cs, r)
  | c :: r =>
    if c = '\n' || isPrintable c then do
      let (cs, r) ← manyLiteralRest r
      return (c :: cs, r)
    else
      none

/-- The end of a line inside a document. -/
def lineBreak : Scan Unit :=
  exactly "\n" <|> exactly "\r\n"

/-- A string in any of its four spellings. -/
def stringValue : Scan String := do
  let cs ←
    (do exactly "\"\"\""; discard (optionally lineBreak); manyBasicRest false) <|>
    (do exactly "'''"; discard (optionally lineBreak); manyLiteralRest) <|>
    (do exactly "\""; basicRest) <|>
    (do exactly "'"; literalRest)
  return .ofList cs

/-- A part of a key. -/
def keyPart : Scan String := do
  let cs ←
    (do exactly "\""; basicRest) <|> (do exactly "'"; literalRest) <|>
    (do
      let cs ← takeWhile isKeyChar
      if cs.isEmpty then failure else return cs)
  return .ofList cs

/-- Digits, with single underscores between them, the underscores left out. -/
def digitRun (p : Char → Bool) : Scan (List Char) := do
  let cs ← takeWhile fun c => p c || c = '_'
  let wellPlaced := cs.head?.any p && cs.getLast?.any p
  let single := (cs.zip cs.tail).all fun (a, b) => !(a = '_' && b = '_')
  if wellPlaced && single then return cs.filter (· ≠ '_') else failure

/-- The digits of a whole number in base ten, which start with a zero only if that is all. -/
def wholeDigits : Scan (List Char) := do
  (do exactly "0"; return ['0']) <|> digitRun Char.isDigit

/-- A sign, if there is one, and whether it is a minus. -/
def sign : Scan Bool :=
  (do exactly "-"; return true) <|> (do discard (optionally (exactly "+")); return false)

/-- An integer of 64 bits. -/
def integerValue : Scan Int := do
  let based (mark : String) (base : Nat) (p : Char → Bool) : Scan Int := do
    exactly mark
    return digitsValue base (← digitRun p)
  let n ← based "0x" 16 isHex <|> based "0o" 8 (fun c => '0' ≤ c && c ≤ '7') <|>
    based "0b" 2 (fun c => c = '0' || c = '1') <|> (do
      let negative ← sign
      let n : Int := digitsValue 10 (← wholeDigits)
      return if negative then -n else n)
  if Int64.minValue.toInt ≤ n && n ≤ Int64.maxValue.toInt then return n else failure

/-- Whether the number `0.ds * 10 ^ e` is beyond every finite number. -/
def isBeyondFinite (ds : List Char) (e : Int) : Bool :=
  let ds := ds.dropWhile (· = '0')
  let n := digitsValue 10 ds
  let p := e - ds.length
  if ds.isEmpty then false
  else if 310 < e then true
  else if e < 300 then false
  else if p < 0 then !(Binary64.ofRatio false n (Nat.pow 10 p.natAbs)).isFinite
  else !(Binary64.ofRatio false (n * Nat.pow 10 p.natAbs) 1).isFinite

/-- A number with a fraction or an exponent. It may not be beyond every finite number on the positive
side; on the negative side it then stands for minus infinity. -/
def realValue : Scan Unit := do
  let negative ← sign
  (exactly "inf" <|> exactly "nan") <|> (do
    let whole ← wholeDigits
    let fraction ← optionally (do exactly "."; digitRun Char.isDigit)
    let power ← optionally (do
      exactly "e" <|> exactly "E"
      let down ← sign
      let n : Int := digitsValue 10 (← digitRun Char.isDigit)
      return if down then -n else n)
    if fraction.isNone && power.isNone then
      failure
    else
      let whole := whole.dropWhile (· = '0')
      let shift := if whole.isEmpty then
          -(((fraction.getD []).takeWhile (· = '0')).length : Int)
        else
          whole.length
      if !negative && isBeyondFinite (whole ++ fraction.getD []) (shift + power.getD 0) then
        failure)

/-- A number of exactly `n` digits between two bounds. -/
def fixedDigits (n low high : Nat) : Scan Nat := fun s =>
  let ds := s.take n
  let v := digitsValue 10 ds
  if ds.length = n && ds.all Char.isDigit && low ≤ v && v ≤ high then some (v, s.drop n) else none

/-- The number of days of a month. -/
def daysOf (year month : Nat) : Nat :=
  match month with
  | 2 => if year % 4 = 0 && (year % 100 ≠ 0 || year % 400 = 0) then 29 else 28
  | 4 | 6 | 9 | 11 => 30
  | _ => 31

/-- A date. -/
def date : Scan Unit := do
  let year ← fixedDigits 4 0 9999
  exactly "-"
  let month ← fixedDigits 2 1 12
  exactly "-"
  discard (fixedDigits 2 1 (daysOf year month))

/-- A time of day; a leap second is allowed. -/
def timeOfDay : Scan Unit := do
  discard (fixedDigits 2 0 23)
  exactly ":"
  discard (fixedDigits 2 0 59)
  exactly ":"
  discard (fixedDigits 2 0 60)
  discard (optionally (do
    exactly "."
    let ds ← takeWhile Char.isDigit
    if ds.isEmpty then failure))

/-- The distance of a time from universal time. -/
def offset : Scan Unit :=
  exactly "Z" <|> exactly "z" <|> (do
    discard (one fun c => c = '+' || c = '-')
    discard (fixedDigits 2 0 23)
    exactly ":"
    discard (fixedDigits 2 0 59))

/-- A date, a time of day, or both. -/
def momentValue : Scan Unit :=
  (do
    date
    discard (optionally (do
      discard (one fun c => c = 'T' || c = 't' || c = ' ')
      timeOfDay
      discard (optionally offset)))) <|>
  timeOfDay

end QueryRecipe.Toml
