import DocQuery.Decimal.Literal

/-!
# DocQuery.Decimal.Integer

Integer literals in the bases a source text may use: `0x`, `0o` and `0b` choose sixteen, eight and
two, any other leading zero chooses eight, and underscores may separate digits. A value is held to
64 bits, and a literal that leaves them is told apart from one that is no integer at all: the
former is noticed at the digit that overflows, before the rest of the text is looked at.
-/

namespace DocQuery.Decimal

/-- Why a text is not a 64-bit integer. -/
inductive IntegerFault where
  /-- It is no integer literal. -/
  | malformed
  /-- It is, as far as it was read, but it does not fit. -/
  | overflow
deriving Repr, DecidableEq

/-- The number of unsigned 64-bit integers: two to the power of 64. -/
def unsignedLimit : Nat := 0x10000000000000000

/-- The number of signed 64-bit integers that are not negative: two to the power of 63. -/
def signedLimit : Nat := 0x8000000000000000

/-- The value of a digit in any base up to thirty-six. -/
def anyDigit? (c : Char) : Option Nat :=
  if c.isDigit then some (c.toNat - 48)
  else if 'a' ≤ c && c ≤ 'z' then some (c.toNat - 87)
  else if 'A' ≤ c && c ≤ 'Z' then some (c.toNat - 55)
  else none

/-- Read digits of a base into `n`, skipping underscores. -/
def readDigits (base : Nat) : (n : Nat) → List Char → Except IntegerFault Nat
  | n, [] => .ok n
  | n, '_' :: cs => readDigits base n cs
  | n, c :: cs =>
    match anyDigit? c with
    | none => .error .malformed
    | some d =>
      if base ≤ d then .error .malformed
      else if unsignedLimit ≤ n * base + d then .error .overflow
      else readDigits base (n * base + d) cs

/-- The base a literal announces, and its digits. -/
def splitBase : List Char → Nat × List Char
  | '0' :: mark :: d :: cs =>
    if mark == 'b' || mark == 'B' then (2, d :: cs)
    else if mark == 'o' || mark == 'O' then (8, d :: cs)
    else if mark == 'x' || mark == 'X' then (16, d :: cs)
    else (8, mark :: d :: cs)
  | '0' :: cs => (8, cs)
  | cs => (10, cs)

/-- Whether the underscores of a literal stand between digits, where a base mark counts as one. -/
def underscoresAllowed (cs : List Char) : Bool :=
  let hex := fun (c : Char) => c.isDigit || ('a' ≤ c && c ≤ 'f') || ('A' ≤ c && c ≤ 'F')
  let rec go (isDigit : Char → Bool) : (afterDigit : Bool) → List Char → Bool
    | _, [] => true
    | afterDigit, '_' :: d :: cs => afterDigit && isDigit d && go isDigit true cs
    | _, '_' :: [] => false
    | _, c :: cs => go isDigit (isDigit c) cs
  match (splitSign cs).2 with
  | '0' :: mark :: rest =>
    if mark == 'x' || mark == 'X' then go hex true rest
    else if mark == 'b' || mark == 'B' || mark == 'o' || mark == 'O' then go Char.isDigit true rest
    else go Char.isDigit true (mark :: rest)
  | body => go Char.isDigit false body

/-- Read an unsigned 64-bit integer literal. -/
def readUnsigned (cs : List Char) : Except IntegerFault Nat :=
  if cs.isEmpty then .error .malformed
  else do
    let (base, digits) := splitBase cs
    let n ← readDigits base 0 digits
    if digits.contains '_' && !underscoresAllowed cs then .error .malformed else .ok n

/-- Read a signed 64-bit integer literal. -/
def readSigned (cs : List Char) : Except IntegerFault Int := do
  let (negative, body) := splitSign cs
  let n ← readUnsigned body
  if negative then
    if signedLimit < n then .error .overflow else .ok (-(n : Int))
  else if signedLimit ≤ n then .error .overflow
  else .ok n

/-- Whether an integer lies in the signed 64-bit range. -/
def fitsInt64 (n : Int) : Bool := -(signedLimit : Int) ≤ n && n < (signedLimit : Int)

end DocQuery.Decimal
