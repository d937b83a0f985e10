import DocQuery.Decimal.Integer
import DocQuery.Text.Directive
import DocQuery.Text.Position
import DocQuery.Text.Quoted
import DocQuery.Text.Units

/-!
# DocQuery.Script.StringText

The texts between quotes. `spanString` reads up to the closing quote of a string literal,
`spanTemplate` up to the end of a piece of a template, `spanPattern` measures a regular expression;
`unescape` reads the escapes of a string or a template piece into UTF-16 units, and `templateFault?`
says what is wrong with those of a template piece.
-/

namespace DocQuery.Script

/-- The text after the quote that opens a string. -/
structure StringSpan where
  /-- The text up to the closing quote. Without one, the text up to the end of the line, with it. -/
  body : List Char
  /-- Whether there is a closing quote. -/
  closed : Bool

/-- Put characters in front of the text of a string. -/
def StringSpan.after (s : StringSpan) (cs : List Char) : StringSpan :=
  { s with body := cs ++ s.body }

/-- The text up to the quote that closes a string. Raw line ends are refused, escaped ones are
not. -/
def spanString (quote : Char) : List Char → StringSpan
  | [] => ⟨[], false⟩
  | '\\' :: '\r' :: '\n' :: cs => (spanString quote cs).after ['\\', '\r', '\n']
  | '\\' :: c :: cs => (spanString quote cs).after ['\\', c]
  | '\r' :: '\n' :: _ => ⟨['\r', '\n'], false⟩
  | c :: cs =>
    if c == quote then ⟨[], true⟩
    else if c == '\n' || c == '\r' then ⟨[c], false⟩
    else (spanString quote cs).after [c]

/-- A piece of a template. -/
structure TemplatePiece where
  /-- The text of the piece. -/
  body : List Char
  /-- Whether the template ends here; otherwise an expression follows. -/
  closed : Bool

/-- How many characters a piece has, with the mark or the two characters that end it. -/
def TemplatePiece.length (piece : TemplatePiece) : Nat :=
  piece.body.length + if piece.closed then 1 else 2

/-- The mark around templates. -/
def templateMark : Char := Char.ofNat 0x60

/-- The next piece of a template; nothing when the text ends first. -/
def spanTemplate : List Char → Option TemplatePiece
  | [] => none
  | '\\' :: c :: cs =>
    (spanTemplate cs).map fun piece => { piece with body := '\\' :: c :: piece.body }
  | '$' :: '{' :: _ => some ⟨[], false⟩
  | c :: cs =>
    if c == templateMark then some ⟨[], true⟩
    else (spanTemplate cs).map fun piece => { piece with body := c :: piece.body }

/-- The text after the slash that opens a regular expression. -/
structure PatternSpan where
  /-- How many characters belong to the expression, with its closing slash. Where it breaks off at
  the end of a line, these include that line end. -/
  length : Nat
  /-- Whether it may end where it does. -/
  closed : Bool

/-- Put `n` characters in front of the rest of a regular expression. -/
def PatternSpan.after (p : PatternSpan) (n : Nat) : PatternSpan := { p with length := p.length + n }

/-- The rest of a regular expression. Slashes between brackets do not close it, and there neither
the end of a line nor that of the text is an error. -/
def spanPattern : (bracketed : Bool) → List Char → PatternSpan
  | bracketed, [] => ⟨0, bracketed⟩
  | bracketed, '\\' :: '\r' :: '\n' :: cs =>
    if bracketed then (spanPattern bracketed cs).after 3 else ⟨3, false⟩
  | bracketed, '\\' :: c :: cs =>
    if Text.isLineEnd c && !bracketed then ⟨2, false⟩ else (spanPattern bracketed cs).after 2
  | bracketed, '\r' :: '\n' :: _ => ⟨2, bracketed⟩
  | bracketed, c :: cs =>
    if c == '\n' || c == '\r' || (Text.isLineEnd c && !bracketed) then ⟨1, bracketed⟩
    else if bracketed then (spanPattern (c != ']') cs).after 1
    else if c == '/' then ⟨1, true⟩
    else (spanPattern (c == '[') cs).after 1

/-! ## Escapes -/

/-- What is wrong with an escape. Texts are cut after a number of bytes, so that a character may be
torn. -/
inductive EscapeFault where
  /-- Too few bytes for the digits. -/
  | short (letter : Char) (rest : List Char) (size : Nat)
  /-- Something that is no hexadecimal digit. -/
  | badDigit (letter : Char) (digits : List Text.Glyph)
  /-- Braces without digits. -/
  | noDigits
  /-- A number beyond the code points. -/
  | beyond (digits : List Char)
  /-- Braces that do not close. -/
  | unclosed (rest : List Char)
  /-- An octal escape in a template. -/
  | octal
  /-- One of the digits eight and nine in a template. -/
  | eightOrNine
deriving Repr, DecidableEq

/-- The wording of a bad escape, as a template without values. -/
def EscapeFault.wording : EscapeFault → String
  | .short letter rest size =>
    "invalid escape: \\" ++ String.singleton letter ++ ": len(" ++
      Text.quote (String.ofList rest) ++ ") != " ++ toString size
  | .badDigit letter digits =>
    "invalid escape: \\" ++ String.singleton letter ++ ": " ++ Text.quoteGlyphs digits
  | .noDigits => "invalid escape: \\u"
  | .beyond digits => "undefined Unicode code-point: " ++ Text.quote (String.ofList digits)
  | .unclosed rest => "unterminated \\u\x7b: " ++ Text.quote (String.ofList rest)
  | .octal => "Octal escape sequences are not allowed in this context"
  | .eightOrNine => "\\8 and \\9 are not allowed in template strings."

/-- The message about a bad escape. The text it quotes is part of the template. -/
def EscapeFault.message (fault : EscapeFault) : String := Text.expand fault.wording

/-- The value of a hexadecimal digit. -/
def hexDigit? (c : Char) : Option Nat := (Decimal.anyDigit? c).filter (· < 16)

/-- The value of hexadecimal digits. -/
def hexValue? (cs : List Char) : Option Nat :=
  cs.foldl (fun sum c => sum.bind fun n => (hexDigit? c).map (n * 16 + ·)) (some 0)

/-- The greatest code point. -/
def lastCodePoint : Nat := 0x10ffff

/-- The UTF-16 units of a code point, which may be a surrogate. -/
def codePointUnits (n : Nat) : List Nat :=
  if n < 0x10000 then [n] else Text.charUnits (Char.ofNat n)

/-- Read the digits of a braced escape up to the closing brace: the code point and how many
characters it took, the brace included. -/
def readBraced (whole : List Char) : (used value : Nat) → List Char → Except EscapeFault (Nat × Nat)
  | _, _, [] => .error (.unclosed whole)
  | used, value, c :: cs =>
    if c == '}' then
      if used = 0 then .error .noDigits else .ok (value, used + 1)
    else match hexDigit? c with
      | none => .error (.badDigit 'u' (Text.takeBytes (used + 1) whole))
      | some d =>
        if lastCodePoint < value * 16 + d then .error (.beyond (whole.take (used + 1)))
        else readBraced whole (used + 1) (value * 16 + d) cs

/-- Read a fixed number of hexadecimal digits, one byte each. -/
def readFixed (letter : Char) (size : Nat) (cs : List Char) : Except EscapeFault Nat :=
  if Text.byteLength cs < size then .error (.short letter cs size)
  else match hexValue? (cs.take size) with
    | some n => .ok n
    | none => .error (.badDigit letter (Text.takeBytes size cs))

/-- Whether a character is an octal digit. -/
def isOctal (c : Char) : Bool := '0' ≤ c && c ≤ '7'

/-- Read the escape after a backslash: its units, and how many characters it takes. A strict reader
refuses octal escapes. -/
def readEscape (strict : Bool) : List Char → Except EscapeFault (List Nat × Nat)
  | [] => .ok ([], 0)
  | '\r' :: '\n' :: _ => .ok ([], 2)
  | 'x' :: cs => do return ([← readFixed 'x' 2 cs], 3)
  | 'u' :: '{' :: cs => do
    let (value, used) ← readBraced cs 0 0 cs
    return (codePointUnits value, used + 2)
  | 'u' :: cs => do return ([← readFixed 'u' 4 cs], 5)
  | c :: cs =>
    if Text.isLineEnd c then .ok ([], 1)
    else if c == 'b' then .ok ([8], 1)
    else if c == 'f' then .ok ([12], 1)
    else if c == 'n' then .ok ([10], 1)
    else if c == 'r' then .ok ([13], 1)
    else if c == 't' then .ok ([9], 1)
    else if c == 'v' then .ok ([11], 1)
    else if c == '0' && !cs.head?.any isOctal then .ok ([0], 1)
    else if isOctal c then
      if strict then .error .octal
      else
        let digits := c :: (cs.take 2).takeWhile isOctal
        .ok ([digits.foldl (fun n d => n * 8 + (d.toNat - 48)) 0], digits.length)
    else .ok (Text.charUnits c, 1)

/-- Read the escapes of a text, after skipping `skip` characters of it. -/
def unescapeFrom (strict : Bool) : (skip : Nat) → List Char → Except EscapeFault (List Nat)
  | _, [] => .ok []
  | skip + 1, _ :: cs => unescapeFrom strict skip cs
  | 0, c :: cs =>
    if c == '\\' then do
      let (units, used) ← readEscape strict cs
      return units ++ (← unescapeFrom strict used cs)
    else do return Text.charUnits c ++ (← unescapeFrom strict 0 cs)

/-- Read the escapes of a text. -/
def unescape (strict : Bool) (cs : List Char) : Except EscapeFault (List Nat) :=
  unescapeFrom strict 0 cs

/-- The meaning of the text of a string literal; nothing when an escape is bad. -/
def stringMeaning? (body : List Char) : Option String :=
  match unescape false body with
  | .ok units => some (String.ofList (Text.ofUnits units))
  | .error _ => none

/-! ## Templates -/

/-- Whether one of the digits eight and nine stands after a backslash. -/
def hasEightOrNine : List Char → Bool
  | [] => false
  | '\\' :: c :: cs => c == '8' || c == '9' || hasEightOrNine cs
  | _ :: cs => hasEightOrNine cs

/-- A text in which every line ends with a newline. -/
def normalLines : List Char → List Char
  | [] => []
  | '\r' :: '\n' :: cs => '\n' :: normalLines cs
  | c :: cs => (if c == '\r' then '\n' else c) :: normalLines cs

/-- What is wrong with the escapes of a template piece. The digits eight and nine are found before
anything else. -/
def templateFault? (body : List Char) : Option EscapeFault :=
  if hasEightOrNine body then some .eightOrNine
  else match unescape true (normalLines body) with
    | .ok _ => none
    | .error fault => some fault

end DocQuery.Script
