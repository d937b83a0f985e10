/-!
# DocQuery.Decimal.Literal

Decimal number literals as text. A document keeps every number as it was written, so the library
works on the text: whether it is a JSON number, whether it has a fraction or an exponent, its
negation, and, where a value is needed, the exact decimal `± coefficient · 10 ^ exponent` it
denotes.
-/

namespace DocQuery.Decimal

/-- The value of a decimal digit. -/
def digitValue (c : Char) : Nat := c.toNat - 48

/-- The value of a run of decimal digits. -/
def natOfDigits (cs : List Char) : Nat :=
  cs.foldl (fun n c => 10 * n + digitValue c) 0

/-! ## The JSON number grammar -/

/-- What follows an optional exponent: the rest of the text, or nothing when the exponent mark has
no digits after it. -/
def skipExponent : List Char → Option (List Char)
  | c :: cs =>
    if c == 'e' || c == 'E' then
      let digits := match cs with
        | s :: ds => if s == '+' || s == '-' then ds else cs
        | [] => []
      match digits with
      | d :: ds => if d.isDigit then some (ds.dropWhile Char.isDigit) else none
      | [] => none
    else some (c :: cs)
  | [] => some []

/-- What follows an optional fraction, or nothing when the point has no digits after it. -/
def skipFraction : List Char → Option (List Char)
  | '.' :: d :: cs => if d.isDigit then some (cs.dropWhile Char.isDigit) else none
  | '.' :: [] => none
  | cs => some cs

/-- What follows a whole part without leading zeros, or nothing when there is none. -/
def skipWhole : List Char → Option (List Char)
  | '0' :: cs => some cs
  | d :: cs => if d.isDigit then some (cs.dropWhile Char.isDigit) else none
  | [] => none

/-- Remove a minus sign. -/
def skipMinus : List Char → List Char
  | '-' :: cs => cs
  | cs => cs

/-- Whether a text is a JSON number: a whole part without leading zeros, and optional sign,
fraction and exponent. -/
def isNumberChars (cs : List Char) : Bool :=
  ((skipWhole (skipMinus cs)).bind skipFraction).bind skipExponent == some []

/-- Whether a text is a JSON number. -/
def isNumber (s : String) : Bool := isNumberChars s.toList

/-- Whether a literal has neither fraction nor exponent. -/
def isInteger (s : String) : Bool :=
  s.toList.all fun c => !(c == '.' || c == 'e' || c == 'E')

/-- The negation of a literal: a minus sign is taken away or put in front. -/
def negateChars : List Char → List Char
  | '-' :: cs => cs
  | cs => '-' :: cs

/-- The negation of a literal, with its magnitude kept as written. -/
def negate (s : String) : String := String.ofList (negateChars s.toList)

/-! ## Exact values -/

/-- A decimal value: `coefficient · 10 ^ exponent`, negated when `negative`. -/
structure Exact where
  /-- Whether the value carries a minus sign (a zero may). -/
  negative : Bool
  /-- The digits without their point. -/
  coefficient : Nat
  /-- The power of ten of the last digit. -/
  exponent : Int
deriving Repr, DecidableEq

/-- Whether every underscore of a text stands between two digits. -/
def underscoresSeparate : (afterDigit : Bool) → List Char → Bool
  | _, [] => true
  | afterDigit, '_' :: d :: cs => afterDigit && d.isDigit && underscoresSeparate true cs
  | _, '_' :: [] => false
  | _, c :: cs => underscoresSeparate c.isDigit cs

/-- Split an optional sign from a text. -/
def splitSign : List Char → Bool × List Char
  | '-' :: cs => (true, cs)
  | '+' :: cs => (false, cs)
  | cs => (false, cs)

/-- The size of an exponent. No finite value has one of ten thousand, so what follows the digit that
reaches it is passed over. -/
def exponentSize (cs : List Char) : Nat :=
  cs.foldl (fun n c => if n < 10000 then 10 * n + digitValue c else n) 0

/-- The exponent a text ends with: zero for none, nothing when the text is no exponent. -/
def readExponent? : List Char → Option Int
  | [] => some 0
  | c :: cs =>
    if c == 'e' || c == 'E' then
      let (negative, digits) := splitSign cs
      if digits.isEmpty || !digits.all Char.isDigit then none
      else some (if negative then -(exponentSize digits : Int) else exponentSize digits)
    else none

/-- Read a decimal number: an optional sign, digits with an optional point among or around them, an
optional exponent, and underscores between digits. -/
def Exact.read? (cs : List Char) : Option Exact :=
  if !underscoresSeparate false cs then none
  else
    let (negative, body) := splitSign (cs.filter (· != '_'))
    let whole := body.takeWhile Char.isDigit
    let rest := body.dropWhile Char.isDigit
    let (fraction, tail) := match rest with
      | '.' :: more => (more.takeWhile Char.isDigit, more.dropWhile Char.isDigit)
      | _ => ([], rest)
    if whole.isEmpty && fraction.isEmpty then none
    else (readExponent? tail).map fun e =>
      { negative, coefficient := natOfDigits (whole ++ fraction),
        exponent := e - fraction.length }

end DocQuery.Decimal
