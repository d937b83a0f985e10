import DocQuery.Config.Basic
import DocQuery.Decimal.Literal
import DocQuery.Script.StringText
import DocQuery.Text.Identifier
import DocQuery.Text.Position

/-!
# DocQuery.Config.Reader

Reading configuration files. A file holds fields, a field is a label, a colon and a value, and
values are literals, lists and structs. Labels are names or strings; `a: b: v` is short for
`a: {b: v}`, and a struct in braces among fields adds its own. Commas separate fields and items, and
a line end after a value or a closing bracket counts as one, unless the next thing is a comma or a
colon: so the line ends of JSON texts do no harm. Comments start with two slashes.
-/

namespace DocQuery.Config

/-- A token of a configuration file. -/
inductive Token where
  /-- A bracket, a brace, a colon or a comma. -/
  | mark (c : Char)
  /-- A name. -/
  | name (text : String)
  /-- A number. -/
  | number (text : String)
  /-- A string. -/
  | string (value : String)
deriving Repr, DecidableEq

/-- The brace that opens a struct. -/
def openBrace : Char := '\x7b'

/-- The brace that closes a struct. -/
def closeBrace : Char := '\x7d'

/-- What a letter after a backslash stands for. -/
def escapeMeaning? (c : Char) : Option Char :=
  match c with
  | 'a' => some '\x07'
  | 'b' => some '\x08'
  | 'f' => some '\x0c'
  | 'n' => some '\n'
  | 'r' => some '\r'
  | 't' => some '\t'
  | 'v' => some '\x0b'
  | '\\' => some '\\'
  | '/' => some '/'
  | '"' => some '"'
  | _ => none

/-- The character with a code point; nothing for a surrogate and beyond the last code point. -/
def charOf? (n : Nat) : Option Char := if n.isValidChar then some (Char.ofNat n) else none

/-- Read the escape after a backslash: the character, and how many characters it takes. Two escaped
surrogates that make a pair are one character. -/
def readEscape : List Char → Option (Char × Nat)
  | 'u' :: cs => do
    let high ← Script.hexValue? (cs.take 4)
    if cs.length < 4 then none
    else if Text.isSurrogate high then
      match cs.drop 4 with
      | '\\' :: 'u' :: more => do
        let low ← Script.hexValue? (more.take 4)
        if more.length < 4 || high ≥ 0xdc00 || low < 0xdc00 || low ≥ 0xe000 then none
        else return (Text.ofPair high low, 11)
      | _ => none
    else return (← charOf? high, 5)
  | 'U' :: cs => do
    let n ← Script.hexValue? (cs.take 8)
    if cs.length < 8 then none else return (← charOf? n, 9)
  | c :: _ => (escapeMeaning? c).map (·, 1)
  | [] => none

/-- Read the inside of a string, after skipping `skip` characters of it: its meaning and what
follows the closing quote. -/
def readString : (skip : Nat) → List Char → Option (List Char × List Char)
  | _, [] => none
  | skip + 1, _ :: cs => readString skip cs
  | 0, '"' :: cs => some ([], cs)
  | 0, '\\' :: cs => do
    let (c, used) ← readEscape cs
    let (body, rest) ← readString used cs
    return (c :: body, rest)
  | 0, c :: cs =>
    if c == '\n' || c == '\r' then none
    else (readString 0 cs).map fun (body, rest) => (c :: body, rest)

/-- Whether a character may stand inside a number or right after it, so that it belongs to it. -/
def isNumberPart (c : Char) : Bool := Text.isNamePart c || c == '.' || c == '+' || c == '-'

/-- Read a number with an optional sign. -/
def readNumber (cs : List Char) : Option (Token × List Char) :=
  let text := String.ofList (cs.takeWhile isNumberPart)
  let magnitude := if text.startsWith "+" then (text.drop 1).toString else text
  if Decimal.isNumber magnitude then some (.number text, cs.dropWhile isNumberPart) else none

/-- Whether a character is a blank or a line end. -/
def isBlank (c : Char) : Bool := c == ' ' || c == '\t' || c == '\r' || c == '\n'

/-- Whether a line end before `cs` may count as a comma: not when a comma or a colon comes next. -/
def breaksBefore (cs : List Char) : Bool :=
  (cs.dropWhile isBlank).head? != some ',' && (cs.dropWhile isBlank).head? != some ':'

/-- The tokens of a file of fewer than `rounds` characters. When `mayEnd` holds, the next line end
counts as a comma if it may, and one at the end of a comment always does. -/
def tokens : (rounds : Nat) → (mayEnd : Bool) → List Char → Option (List Token)
  | 0, _, _ => none
  | _ + 1, mayEnd, [] => some (if mayEnd then [.mark ','] else [])
  | rounds + 1, mayEnd, c :: cs =>
    if c == '\n' then
      (tokens rounds false cs).map fun ts =>
        if mayEnd && breaksBefore cs then .mark ',' :: ts else ts
    else if isBlank c then tokens rounds mayEnd cs
    else if c == '/' && cs.head? == some '/' then
      (tokens rounds false (cs.dropWhile (· != '\n'))).map fun ts =>
        if mayEnd then .mark ',' :: ts else ts
    else if c == '"' then do
      let (body, rest) ← readString 0 cs
      let ts ← tokens rounds true rest
      return .string (String.ofList body) :: ts
    else if c == openBrace || c == '[' || c == ':' || c == ',' then
      (tokens rounds false cs).map (.mark c :: ·)
    else if c == closeBrace || c == ']' then (tokens rounds true cs).map (.mark c :: ·)
    else if Text.isNameStart c || c == '#' then do
      let ts ← tokens rounds true (cs.dropWhile Text.isNamePart)
      return .name (String.ofList (c :: cs.takeWhile Text.isNamePart)) :: ts
    else if c.isDigit || c == '-' || c == '+' then do
      let (t, rest) ← readNumber (c :: cs)
      let ts ← tokens rounds true rest
      return t :: ts
    else none

/-- The label that a token is, if it can be one. -/
def label? : Token → Option String
  | .name text => some text
  | .string value => some value
  | _ => none

/-- Read the items of a list up to its closing bracket. -/
def readItems (value : List Token → Option (Config × List Token)) : (rounds : Nat) → List Token →
    Option (List Config × List Token)
  | 0, _ => none
  | _ + 1, .mark ']' :: ts => some ([], ts)
  | rounds + 1, ts => do
    let (item, ts) ← value ts
    match ts with
    | .mark ',' :: ts =>
      let (items, ts) ← readItems value rounds ts
      return (item :: items, ts)
    | .mark ']' :: ts => return ([item], ts)
    | _ => none

/-- Read a field, or a struct whose fields are added. -/
def readField (value : List Token → Option (Config × List Token)) :
    List Token → Option (Config × List Token)
  | label :: .mark ':' :: next :: colon :: ts => do
    let name ← label? label
    let (v, ts) ←
      if (label? next).isSome && colon == .mark ':' then readField value (next :: colon :: ts)
      else value (next :: colon :: ts)
    return (.struct [(name, v)], ts)
  | .mark c :: ts => if c == openBrace then value (.mark c :: ts) else none
  | _ => none

/-- Read the fields of a struct up to its closing brace, and unify them with `sum`. -/
def readFields (value : List Token → Option (Config × List Token)) :
    (rounds : Nat) → (sum : Config) → List Token → Option (Config × List Token)
  | 0, _, _ => none
  | rounds + 1, sum, ts =>
    if ts.head? == some (.mark closeBrace) then some (sum, ts.drop 1)
    else do
      let (field, ts) ← readField value ts
      let sum ← unify sum field
      match ts with
      | .mark ',' :: ts => readFields value rounds sum ts
      | .mark c :: ts => if c == closeBrace then return (sum, ts) else none
      | _ => none

/-- Read a value nested at most `depth` deep. -/
def readValue : (depth : Nat) → List Token → Option (Config × List Token)
  | 0, _ => none
  | _ + 1, [] => none
  | depth + 1, t :: ts =>
    match t with
    | .string value => some (.string value, ts)
    | .number text => some (.number text, ts)
    | .name "true" => some (.bool true, ts)
    | .name "false" => some (.bool false, ts)
    | .name "null" => some (.null, ts)
    | .name _ => none
    | .mark c =>
      if c == '[' then do
        let (items, ts) ← readItems (readValue depth) (ts.length + 1) ts
        return (.list items, ts)
      else if c == openBrace then readFields (readValue depth) (ts.length + 1) (.struct []) ts
      else none

/-- The byte order mark, which may stand first in a file and nowhere else. -/
def byteOrderMark : Char := '\ufeff'

/-- Drop the byte order mark that a file may start with. -/
def dropMark : List Char → List Char
  | [] => []
  | c :: cs => if c == byteOrderMark then cs else c :: cs

/-- Whether no file may hold a character after its start, not even in a string or a comment. -/
def isRefused (c : Char) : Bool := c == '\x00' || c == byteOrderMark

/-- Read a configuration file. -/
def parse? (text : String) : Option Config := do
  let cs := dropMark text.toList
  let ts ← if cs.any isRefused then none else tokens (cs.length + 2) false cs
  let rounds := ts.length + 2
  -- A file is a struct without its braces.
  let (v, rest) ← readFields (readValue rounds) rounds (.struct []) (ts ++ [.mark closeBrace])
  if rest.isEmpty then some v else none

/-- Skip blanks and comments. -/
def skipComments : (inComment : Bool) → List Char → List Char
  | _, [] => []
  | true, c :: cs => skipComments (c != '\n') cs
  | false, '/' :: '/' :: cs => skipComments true cs
  | false, c :: cs =>
    if isBlank c then skipComments false cs else c :: cs

/-- The place of the first field of a file. -/
def firstPlace (text : String) : Text.Place :=
  let cs := text.toList
  Text.position text (Text.byteLength cs - Text.byteLength (skipComments false (dropMark cs)) : Nat)

end DocQuery.Config
