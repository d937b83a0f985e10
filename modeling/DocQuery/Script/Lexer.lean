import DocQuery.Script.Error
import DocQuery.Script.Number
import DocQuery.Script.StringText
import DocQuery.Text.Utf8

/-!
# DocQuery.Script.Lexer

From characters to tokens. `scan` reads one token at a `Cursor`.

Design points:

* a cursor remembers whether the token before it may end a statement; the next line end then stands
  for a semicolon, and the token after it is marked `afterLine`;
* a bad name, number or string is an `illegal` token, which the grammar complains about when it gets
  there; a character that starts no token, a misplaced underscore and a comment without end are
  faults of their own, and the reading goes on after them;
* whether a slash divides or opens a regular expression, and what follows a template mark, is for
  the grammar to say.
-/

namespace DocQuery.Script

/-- A place in a source that is being read. -/
structure Cursor where
  /-- What is still to be read. -/
  rest : List Char
  /-- The byte offset. -/
  offset : Nat
  /-- Whether a line end here stands for a semicolon. -/
  mayEnd : Bool
deriving Repr, DecidableEq

namespace Cursor

/-- The start of a source. -/
def start (src : String) : Cursor := { rest := src.toList, offset := 0, mayEnd := false }

/-- Move past `n` characters. -/
def skip (c : Cursor) (n : Nat) : Cursor :=
  { c with rest := c.rest.drop n, offset := c.offset + Text.byteLength (c.rest.take n) }

end Cursor

/-! ## Blanks and comments -/

/-- Whether a character is a blank of scripts. -/
def isBlank (c : Char) : Bool :=
  let n := c.toNat
  n == 0x20 || n == 0x09 || n == 0x0b || n == 0x0c || n == 0x85 || n == 0xa0 || n == 0x1680 ||
    (0x2000 ≤ n && n ≤ 0x200a) || n == 0x202f || n == 0x205f || n == 0x3000 || n == 0xfeff

/-- Where a gap between tokens is being read. -/
inductive GapMode where
  /-- Outside comments. -/
  | plain
  /-- In a comment that ends with its line. -/
  | line
  /-- In a comment that ends with a star and a slash. -/
  | block
deriving Repr, DecidableEq

/-- What a gap leads to. -/
structure Gap where
  /-- Where the next token is. -/
  cursor : Cursor
  /-- Whether a line end stood for a semicolon. -/
  afterLine : Bool
  /-- Whether the source ended inside a comment. -/
  unclosed : Bool

/-- Skip blanks, line ends and comments. -/
def skipGap : GapMode → (offset : Nat) → (mayEnd afterLine : Bool) → List Char → Gap
  | mode, offset, mayEnd, afterLine, [] => ⟨⟨[], offset, mayEnd⟩, afterLine, mode == .block⟩
  | .block, offset, mayEnd, afterLine, '*' :: '/' :: cs =>
    skipGap .plain (offset + 2) mayEnd afterLine cs
  | .block, offset, mayEnd, afterLine, c :: cs =>
    if Text.isLineEnd c then skipGap .block (offset + c.utf8Size) false true cs
    else skipGap .block (offset + c.utf8Size) mayEnd afterLine cs
  | .plain, offset, mayEnd, afterLine, '/' :: '/' :: cs =>
    skipGap .line (offset + 2) mayEnd afterLine cs
  | .plain, offset, mayEnd, afterLine, '/' :: '*' :: cs =>
    skipGap .block (offset + 2) mayEnd afterLine cs
  | mode, offset, mayEnd, afterLine, c :: cs =>
    if Text.isLineEnd c then
      skipGap .plain (offset + c.utf8Size) false (afterLine || mayEnd) cs
    else if mode == .line || isBlank c then skipGap mode (offset + c.utf8Size) mayEnd afterLine cs
    else if c == '#' && offset == 0 && cs.head? == some '!' then
      skipGap .line (offset + 1) mayEnd afterLine cs
    else ⟨⟨c :: cs, offset, mayEnd⟩, afterLine, false⟩

/-- How many blanks there are up to the next character or line end. Of a line end of two characters
the first counts as a blank. -/
def blanksAhead (cs : List Char) : Nat :=
  let blanks := (cs.takeWhile isBlank).length
  if ['\r', '\n'].isPrefixOf (cs.drop blanks) then blanks + 1 else blanks

/-! ## Names -/

/-- The value of a hexadecimal digit of a name's escape, where only the last eight bits of a
character count. -/
def lowHexDigit? (c : Char) : Option Nat := hexDigit? (Char.ofNat (c.toNat % 256))

/-- The digits of an escape in a name. -/
structure NameDigits where
  /-- Their value, when they are complete. -/
  value : Option Nat
  /-- How many characters after the backslash are passed over: those before the last one of a
  complete escape, and otherwise those before the character that is wrong. -/
  passed : Nat

/-- Read a fixed number of digits, when those before them have the given value. -/
def readNameFixed : (missing passed value : Nat) → List Char → NameDigits
  | 0, passed, value, _ => ⟨some value, passed - 1⟩
  | _ + 1, passed, _, [] => ⟨none, passed⟩
  | missing + 1, passed, value, c :: cs =>
    match lowHexDigit? c with
    | some d => readNameFixed missing (passed + 1) (value * 16 + d) cs
    | none => ⟨none, passed⟩

/-- Read digits up to a closing brace, when those before them have the given value. A digit with
which the value exceeds the code points is wrong. -/
def readNameBraced : (passed : Nat) → (value : Option Nat) → List Char → NameDigits
  | passed, _, [] => ⟨none, passed⟩
  | passed, value, c :: cs =>
    if c == '}' then ⟨value, passed⟩
    else match lowHexDigit? c with
      | none => ⟨none, passed⟩
      | some d =>
        let value := value.getD 0 * 16 + d
        if lastCodePoint < value then ⟨none, passed⟩
        else readNameBraced (passed + 1) (some value) cs

/-- Read the escape of a name after its backslash. -/
def readNameEscape : List Char → NameDigits
  | 'u' :: '{' :: cs => readNameBraced 2 none cs
  | 'u' :: cs => readNameFixed 4 1 0 cs
  | _ => ⟨none, 0⟩

/-- The character that an escape stands for; nothing when it may not stand in a name. -/
def NameDigits.char? (digits : NameDigits) (first : Bool) : Option Char := do
  let n ← digits.value
  if n.isValidChar then
    let c := Char.ofNat n
    if if first then Text.isNameStart c else Text.isNamePart c then some c else none
  else none

/-- A name that has been read. -/
structure NameSpan where
  /-- Its characters once the escapes are read. -/
  meaning : List Char
  /-- Whether it has escapes. -/
  escaped : Bool
  /-- How many characters it is written with, up to a bad escape. -/
  used : Nat
  /-- Whether its escapes are good. -/
  legal : Bool

namespace NameSpan

/-- The name that has nothing in it. -/
def empty : NameSpan := { meaning := [], escaped := false, used := 0, legal := true }

/-- A name that breaks off after `used` characters. -/
def broken (used : Nat) : NameSpan := { meaning := [], escaped := true, used, legal := false }

end NameSpan

/-- Read the characters of a name, after skipping `skip` characters that belong to an escape. An
escape may have digits that are none by their full code: the name is then read to its end, and is
not legal. -/
def readName : (skip : Nat) → (first : Bool) → List Char → NameSpan
  | _, _, [] => .empty
  | skip + 1, first, _ :: cs =>
    let name := readName skip first cs
    { name with used := name.used + 1 }
  | 0, first, c :: cs =>
    if c == '\\' then
      let digits := readNameEscape cs
      match digits.char? first with
      | none => .broken (digits.passed + 1)
      | some d =>
        let length := digits.passed + 1
        let name := readName length false cs
        { meaning := d :: name.meaning
          escaped := true
          used := name.used + 1
          legal := name.legal && (cs.take length).all (·.toNat < 0x80) }
    else if Text.isNamePart c then
      let name := readName 0 false cs
      { name with meaning := c :: name.meaning, used := name.used + 1 }
    else .empty

/-! ## Punctuation -/

/-- The punctuation of more than one character, longer marks before their beginnings. -/
def longMarks : List String :=
  [">>>=", "...", "===", "!==", "**=", "<<=", ">>=", ">>>", "=>", "==", "!=", "++", "--", "+=",
    "-=", "*=", "/=", "%=", "&=", "|=", "^=", "&&", "||", "??", "?.", "<<", ">>", "<=", ">=", "**"]

/-- The punctuation of one character. -/
def shortMarks : List Char :=
  ['\x7b', '\x7d', '(', ')', '[', ']', '.', ';', ',', '<', '>', '+', '-', '*', '/', '%', '&', '|',
    '^', '!', '~', '?', ':', '=', templateMark]

/-- The mark a text starts with. A question mark and a point before a digit are two marks. -/
def mark? (cs : List Char) : Option String :=
  let optional := "?.".toList
  if optional.isPrefixOf cs && (cs.drop 2).head?.any Char.isDigit then some "?"
  else
    match longMarks.find? fun m => m.toList.isPrefixOf cs with
    | some m => some m
    | none => cs.head?.bind fun c =>
        if shortMarks.contains c then some (String.singleton c) else none

/-- Marks that may end a statement. -/
def markMayEnd (m : String) : Bool :=
  m ∈ [")", "]", "\x7d", "++", "--", "/", "/="]

/-! ## Tokens -/

/-- A token and what follows it. -/
structure Scanned where
  /-- The token. -/
  token : Token
  /-- What follows it. -/
  cursor : Cursor
  /-- What is wrong with it by itself. -/
  fault : Option Fault := none

/-- A token in its place. -/
structure Placed extends Scanned where
  /-- Whether a line end before it stands for a semicolon. -/
  afterLine : Bool

/-- The token of the next `length` characters. -/
def takeToken (c : Cursor) (length : Nat) (kind : TokenKind) (meaning : String) (mayEnd : Bool) :
    Scanned :=
  { token := { kind, start := c.offset, written := String.ofList (c.rest.take length), meaning }
    cursor := { c.skip length with mayEnd } }

/-- An illegal token of the next `length` characters. -/
def takeIllegal (c : Cursor) (length : Nat) : Scanned := takeToken c length .illegal "" false

/-- Read the word `async`, with the blanks after it. Before a line end it is a name. -/
def scanAsync (c : Cursor) (used : Nat) (meaning : String) : Scanned :=
  let blanks := blanksAhead (c.rest.drop used)
  let isName := (c.rest.drop (used + blanks)).head?.any Text.isLineEnd
  let scanned := if isName then takeToken c used .identifier meaning true
    else takeToken c used (.word meaning) meaning c.mayEnd
  { scanned with cursor := scanned.cursor.skip blanks }

/-- Read a word: a name or a keyword. Contextual keywords for which `isName` holds are names even
when they are written with escapes. -/
def scanWord (isName : String → Bool) (c : Cursor) : Scanned :=
  let span := readName 0 true c.rest
  let text := String.ofList span.meaning
  let name := takeToken c span.used .identifier text true
  if !span.legal then takeIllegal c span.used
  else match if span.meaning.length ≤ 1 then none else wordKind? text with
    | none => name
    | some kind =>
      if span.escaped then
        if isName text then name else takeToken c span.used .escapedWord text true
      else if kind == .boolean || kind == .null || endsStatement text then
        takeToken c span.used kind text true
      else if text == "async" then scanAsync c span.used text
      else takeToken c span.used kind text c.mayEnd

/-- Read a number literal. -/
def scanNumber (c : Cursor) : Scanned :=
  let span := NumberSpan.read c.rest
  let kind : TokenKind := if span.legal then .number else .illegal
  { takeToken c span.length kind "" true with
    fault := span.stray.map fun stray => ⟨.strayUnderscore, c.offset + stray⟩ }

/-- Read a string literal. -/
def scanString (c : Cursor) (quote : Char) : Scanned :=
  let span := spanString quote (c.rest.drop 1)
  let length := span.body.length + if span.closed then 2 else 1
  match if span.closed then stringMeaning? span.body else none with
  | some meaning => takeToken c length .string meaning true
  | none => takeToken c length .illegal "" true

/-- Read a private name. It counts as written without its number sign. -/
def scanPrivate (c : Cursor) : Scanned :=
  let span := readName 0 true (c.rest.drop 1)
  if span.legal && span.used != 0 then
    let scanned := takeToken c (span.used + 1) .privateName (String.ofList span.meaning) true
    { scanned with
      token := { scanned.token with written := String.ofList ((c.rest.drop 1).take span.used) } }
  else takeIllegal c (span.used + 1)

/-- Read punctuation. Two points are no token, and neither is an arrow on a new line. -/
def scanMark (c : Cursor) (afterLine : Bool) : Scanned :=
  match mark? c.rest with
  | none =>
    { takeIllegal c 1 with fault := some ⟨.unexpectedToken TokenKind.illegal.text, c.offset⟩ }
  | some m =>
    if m == "." && (c.rest.drop 1).head? == some '.' then takeIllegal c 2
    else if m == "=>" && afterLine then takeIllegal c 2
    else takeToken c m.length (.mark m) "" (markMayEnd m)

/-- The end of the source. -/
def scanEnd (c : Cursor) (unclosed : Bool) : Scanned :=
  { token := { kind := .endOfInput, start := c.offset, written := "", meaning := "" }
    cursor := { c with mayEnd := false }
    fault := if unclosed then some ⟨.endOfInput, c.offset⟩ else none }

/-- Read one token. -/
def scan (isName : String → Bool) (here : Cursor) : Placed :=
  let gap := skipGap .plain here.offset here.mayEnd false here.rest
  let c := gap.cursor
  match c.rest with
  | [] => { scanEnd c gap.unclosed with afterLine := gap.afterLine || c.mayEnd }
  | d :: ds =>
    let scanned :=
      if startsName d then scanWord isName c
      else if d.isDigit || (d == '.' && ds.head?.any Char.isDigit) then scanNumber c
      else if d == '"' || d == '\'' then scanString c d
      else if d == '#' then scanPrivate c
      else scanMark c gap.afterLine
    { scanned with afterLine := gap.afterLine }

end DocQuery.Script
