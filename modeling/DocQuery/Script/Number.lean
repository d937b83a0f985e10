import DocQuery.Decimal.Binary64
import DocQuery.Decimal.Integer
import DocQuery.Decimal.Shortest
import DocQuery.Text.Identifier

/-!
# DocQuery.Script.Number

Number literals of scripts: how far one reaches (`NumberSpan.read`), what it is worth
(`NumberValue.read?`) and how its value is written as a number literal of documents (`numberText?`).

A literal has a base mark (`0x`, `0o`, `0b`) and digits of that base, or is a zero followed by octal
digits, or is decimal with an optional fraction and exponent. Except in the second form single
underscores may separate digits. A trailing `n` makes an integer of any size.
-/

namespace DocQuery.Script

/-- Whether a character is a digit of a base up to sixteen. -/
def isDigitOf (base : Nat) (c : Char) : Bool :=
  match Decimal.anyDigit? c with
  | some d => d < base
  | none => false

/-- Whether a character, or the escape it begins, may start a name. -/
def startsName (c : Char) : Bool := Text.isNameStart c || c == '\\'

/-- How far a number literal reaches. -/
structure NumberSpan where
  /-- How many characters it has, all of them ASCII. -/
  length : Nat
  /-- Whether it is well formed, underscores apart. -/
  legal : Bool
  /-- The place of the first character that may not follow an underscore, if there is one. -/
  stray : Option Nat
deriving Repr, DecidableEq

/-- A number literal that has been read in part. -/
structure NumberReach where
  /-- How many characters have been read. -/
  done : Nat
  /-- What follows them. -/
  rest : List Char
  /-- The place of the first character that may not follow an underscore, if there is one. -/
  stray : Option Nat

namespace NumberReach

/-- The start of a literal. -/
def start (cs : List Char) : NumberReach := { done := 0, rest := cs, stray := none }

/-- Pass over `n` characters. -/
def skip (r : NumberReach) (n : Nat) : NumberReach :=
  { r with done := r.done + n, rest := r.rest.drop n }

/-- Whether the next character satisfies a condition. -/
def nextIs (r : NumberReach) (p : Char → Bool) : Bool := r.rest.head?.any p

/-- Read digits, `done` characters into a literal. -/
def digitsFrom (base : Nat) (separated : Bool) (stray : Option Nat) :
    (done : Nat) → List Char → NumberReach
  | done, [] => ⟨done, [], stray⟩
  | done, c :: cs =>
    if separated && c == '_' then
      let found := if cs.head?.any (isDigitOf base) then none else some (done + 1)
      digitsFrom base separated (stray.or found) (done + 1) cs
    else if isDigitOf base c then digitsFrom base separated stray (done + 1) cs
    else ⟨done, c :: cs, stray⟩

/-- Read digits of a base, which may be separated by underscores. -/
def digits (r : NumberReach) (base : Nat) (separated : Bool) : NumberReach :=
  digitsFrom base separated r.stray r.done r.rest

/-- The end of a literal that lacks something. -/
def illegal (r : NumberReach) : NumberSpan := ⟨r.done, false, r.stray⟩

/-- The end of a literal: a mark for integers of any size, or nothing that could go on. -/
def finish (r : NumberReach) : NumberSpan :=
  if r.nextIs fun c => c == 'n' || c == 'N' then ⟨r.done + 1, true, r.stray⟩
  else ⟨r.done, !r.nextIs fun c => startsName c || c.isDigit, r.stray⟩

/-- The optional exponent of a decimal literal, and its end. -/
def exponent (r : NumberReach) : NumberSpan :=
  if r.nextIs fun c => c == 'e' || c == 'E' then
    let r := r.skip 1
    let r := if r.nextIs fun c => c == '-' || c == '+' then r.skip 1 else r
    if r.nextIs Char.isDigit then (r.digits 10 true).finish else r.illegal
  else r.finish

/-- The optional fraction and exponent of a decimal literal, and its end. -/
def fraction (r : NumberReach) : NumberSpan :=
  if r.nextIs (· == '.') then ((r.skip 1).digits 10 true).exponent else r.exponent

end NumberReach

/-- Read the span of a number literal from a text that starts with a digit, or with a point and a
digit. -/
def NumberSpan.read (cs : List Char) : NumberSpan :=
  let r := NumberReach.start cs
  match cs with
  | '0' :: c :: _ =>
    let marked (base : Nat) : NumberSpan :=
      let r := r.skip 2
      if r.nextIs (isDigitOf base) then (r.digits base true).finish else r.illegal
    if c == 'x' || c == 'X' then marked 16
    else if c == 'o' || c == 'O' then marked 8
    else if c == 'b' || c == 'B' then marked 2
    else if c == '.' || c == 'e' || c == 'E' then (r.skip 1).fraction
    else ((r.skip 1).digits 8 false).finish
  | '.' :: _ => ((r.skip 1).digits 10 true).exponent
  | _ => (r.digits 10 true).fraction

/-- What a number literal is worth. -/
inductive NumberValue where
  /-- A 64-bit integer. -/
  | int (value : Int)
  /-- A double-precision number. -/
  | double (value : Decimal.Binary64)
  /-- An integer of any size. -/
  | big
deriving Repr, DecidableEq

namespace NumberValue

/-- The natural number that a magnitude rounds to, toward zero. -/
def wholePart (m : Decimal.Magnitude) : Nat :=
  if 0 ≤ m.exponent then m.mantissa * Nat.pow 2 m.exponent.toNat
  else m.mantissa / Nat.pow 2 (-m.exponent).toNat

/-- The value of hexadecimal digits, rounded after each of them. -/
def roundedHex? (cs : List Char) : Option Decimal.Binary64 :=
  let step (sum : Option Nat) (d : Nat) : Option Nat :=
    sum.bind fun n => (Decimal.Magnitude.round? (n * 16 + d) 1).map wholePart
  let digits := cs.filterMap fun c => (Decimal.anyDigit? c).filter (· < 16)
  if digits.length < cs.length then none
  else match digits.foldl step (some 0) with
    | some n => some (.ofNat n)
    | none => some (.infinite false)

/-- Whether a character marks a base after a leading zero. -/
def isBaseMark (c : Char) : Bool :=
  c == 'x' || c == 'X' || c == 'o' || c == 'O' || c == 'b' || c == 'B'

/-- Whether a literal is an integer of any size: digits, possibly of a marked base, and an `n`. -/
def isBig (cs : List Char) : Bool :=
  cs.getLast? == some 'n' &&
    match cs.dropLast with
    | [] => false
    | '0' :: mark :: _ => isBaseMark mark
    | body => body.all fun c => c.isDigit || c == '_'

/-- The value of a literal; nothing when it has none. -/
def read? (cs : List Char) : Option NumberValue :=
  match Decimal.readSigned cs with
  | .ok n => some (.int n)
  | .error fault =>
    match Decimal.Exact.read? cs with
    | some x => some (.double (.ofExact x))
    | none =>
      match fault, cs with
      | .overflow, '0' :: mark :: d :: ds =>
        if (mark == 'x' || mark == 'X') && cs.getLast? != some 'n' then
          (roundedHex? (d :: ds)).map .double
        else if isBig cs then some .big else none
      | _, _ => if isBig cs then some .big else none

end NumberValue

/-- How the value of a literal is laid out when the literal itself is no number of documents. -/
def literalLayout : Decimal.Layout := { mark := 'e', keepPoint := false }

/-- The number literal of documents for a literal with a value: the literal itself when it is one,
and otherwise its value. Infinities and integers of any size have none. -/
def numberText? (literal : String) (value : NumberValue) : Option String :=
  if Decimal.isNumber literal then some literal
  else match value with
    | .int n => some (toString n)
    | .double (.finite negative m) => some (literalLayout.write negative m)
    | .double (.infinite _) => none
    | .big => none

end DocQuery.Script
