import DocQuery.Json.Basic
import DocQuery.Text.Quoted

/-!
# DocQuery.Json.Reader

Reading JSON text leniently: a number is any run of number characters (or an infinity or a NaN by
name), strings may hold raw control characters, and escapes that are none are kept. A text that
cannot be read is reported with the chain of constructs the reader was in and the text it had not
read yet; a long one is shown by its two ends.

Design points:

* nesting is bounded, and the bound is what the recursion runs on;
* the items of one array or object are read by a loop that takes the reader of a single value as
  an argument, and as many rounds as there are characters left.
-/

namespace DocQuery.Json

/-- The deepest nesting that is read. -/
def maxDepth : Nat := 300

/-- Why a text could not be read. -/
inductive ReadFault where
  /-- There is no value. -/
  | emptyText
  /-- The value is nested too deep. -/
  | tooDeep
  /-- A word that is no value; the whole rest is shown. -/
  | unexpectedValue (rest : List Char)
  /-- A character that starts no value. -/
  | unexpectedChar (c : Char)
  /-- A string without its closing quote. -/
  | unclosedString
  /-- An object that ends after its opening brace. -/
  | missingBrace
  /-- An array that ends after its opening bracket. -/
  | missingBracket
  /-- A key that is no string. -/
  | missingKey
  /-- A key without a colon. -/
  | missingColon
  /-- A member followed by neither comma nor brace. -/
  | missingMemberComma
  /-- An item followed by neither comma nor bracket. -/
  | missingItemComma
  /-- An object that ends after a member. -/
  | endOfObject
  /-- An array that ends after an item. -/
  | endOfArray
  /-- A fault inside an object. -/
  | inObject (fault : ReadFault)
  /-- A fault inside a key. -/
  | inKey (fault : ReadFault)
  /-- A fault inside the value of a member. -/
  | inMember (fault : ReadFault)
  /-- A fault inside an array. -/
  | inArray (fault : ReadFault)
  /-- A fault inside an item. -/
  | inItem (fault : ReadFault)
  /-- A fault inside a string. -/
  | inString (fault : ReadFault)
  /-- A fault inside a number. -/
  | inNumber (fault : ReadFault)
deriving Repr, DecidableEq

/-- The wording of a fault. -/
def ReadFault.message : ReadFault → String
  | .emptyText => "cannot parse empty string"
  | .tooDeep => "too big depth for the nested JSON; it exceeds " ++ toString maxDepth
  | .unexpectedValue rest => "unexpected value found: " ++ String.ofList (Text.quoteChars rest)
  | .unexpectedChar c => "unexpected char: " ++ Text.quoteGlyphs (Text.takeBytes 1 [c])
  | .unclosedString => "missing closing '\"'"
  | .missingBrace => "missing '\x7d'"
  | .missingBracket => "missing ']'"
  | .missingKey => "cannot find opening '\"\" for object key"
  | .missingColon => "missing ':' after object key"
  | .missingMemberComma => "missing ',' after object value"
  | .missingItemComma => "missing ',' after array value"
  | .endOfObject => "unexpected end of object"
  | .endOfArray => "unexpected end of array"
  | .inObject fault => "cannot parse object: " ++ fault.message
  | .inKey fault => "cannot parse object key: " ++ fault.message
  | .inMember fault => "cannot parse object value: " ++ fault.message
  | .inArray fault => "cannot parse array: " ++ fault.message
  | .inItem fault => "cannot parse array value: " ++ fault.message
  | .inString fault => "cannot parse string: " ++ fault.message
  | .inNumber fault => "cannot parse number: " ++ fault.message

/-- A failure of the reader: the fault, and the text that was left where it was found. -/
structure Failure where
  /-- What went wrong. -/
  fault : ReadFault
  /-- What had not been read. -/
  tail : List Char

/-- Put a construct around a failure. -/
def Failure.within (wrap : ReadFault → ReadFault) (f : Failure) : Failure :=
  { f with fault := wrap f.fault }

/-- What a reader of one construct gives: a value and the rest of the text, or a failure. -/
abbrev Outcome (α : Type) := Except Failure (α × List Char)

/-- White space between tokens. -/
def isSpace (c : Char) : Bool := c == ' ' || c == '\n' || c == '\t' || c == '\r'

/-- Skip white space. -/
def skipSpace (cs : List Char) : List Char := cs.dropWhile isSpace

/-- Split a text at the quote that closes a string, as written: a backslash hides the character
after it. -/
def splitString : List Char → Option (List Char × List Char)
  | [] => none
  | '"' :: rest => some ([], rest)
  | '\\' :: c :: rest => (splitString rest).map fun (body, tail) => ('\\' :: c :: body, tail)
  | c :: rest => (splitString rest).map fun (body, tail) => (c :: body, tail)

/-- Read the inside of a string, as written. -/
def readWritten (cs : List Char) : Outcome (List Char) :=
  match splitString cs with
  | some found => .ok found
  | none => .error { fault := .unclosedString, tail := [] }

/-- Whether a character may stand in a number. -/
def isNumberChar (c : Char) : Bool :=
  c.isDigit || c == '.' || c == '-' || c == 'e' || c == 'E' || c == '+'

/-- Whether a text starts with the name of an infinity or a NaN, in any case. -/
def startsWithNonFinite (cs : List Char) : Bool :=
  let word := (cs.take 3).map Char.toLower
  word == ['i', 'n', 'f'] || word == ['n', 'a', 'n']

/-- Read a number: a run of number characters, or the name of a value that is not finite. -/
def readNumber (cs : List Char) : Outcome Json :=
  let run := cs.takeWhile isNumberChar
  let rest := cs.dropWhile isNumberChar
  if !rest.isEmpty && (run.isEmpty || run == ['-'] || run == ['+']) then
    if startsWithNonFinite rest then
      .ok (.number (String.ofList (run ++ rest.take 3)), rest.drop 3)
    else
      .error { fault := .inNumber (.unexpectedChar (cs.headD ' ')), tail := cs }
  else .ok (.number (String.ofList run), rest)

/-- Read the items of an array that is not empty, up to its closing bracket. -/
def readItems (value : List Char → Outcome Json) : (rounds : Nat) → List Char → Outcome (List Json)
  | 0, cs => .error { fault := .endOfArray, tail := cs }
  | rounds + 1, cs =>
    match value (skipSpace cs) with
    | .error f => .error (f.within .inItem)
    | .ok (v, cs) =>
      match skipSpace cs with
      | [] => .error { fault := .endOfArray, tail := [] }
      | ',' :: rest => (readItems value rounds rest).map fun (vs, tail) => (v :: vs, tail)
      | ']' :: rest => .ok ([v], rest)
      | rest => .error { fault := .missingItemComma, tail := rest }

/-- Read the members of an object that is not empty, up to its closing brace. -/
def readMembers (value : List Char → Outcome Json) :
    (rounds : Nat) → List Char → Outcome (List (String × Json))
  | 0, cs => .error { fault := .endOfObject, tail := cs }
  | rounds + 1, cs =>
    match skipSpace cs with
    | '"' :: rest =>
      match readWritten rest with
      | .error f => .error (f.within .inKey)
      | .ok (key, rest) =>
        match skipSpace rest with
        | ':' :: rest =>
          match value (skipSpace rest) with
          | .error f => .error (f.within .inMember)
          | .ok (v, rest) =>
            match skipSpace rest with
            | [] => .error { fault := .endOfObject, tail := [] }
            | c :: rest =>
              if c == ',' then
                (readMembers value rounds rest).map fun (ms, tail) =>
                  ((String.ofList key, v) :: ms, tail)
              else if c.toNat == 0x7d then .ok ([(String.ofList key, v)], rest)
              else .error { fault := .missingMemberComma, tail := c :: rest }
        | rest => .error { fault := .missingColon, tail := rest }
    | rest => .error { fault := .missingKey, tail := rest }

/-- Read a fixed word. -/
def readWord (word : List Char) (v : Json) (cs : List Char) : Outcome Json :=
  if cs.take word.length == word then .ok (v, cs.drop word.length)
  else .error { fault := .unexpectedValue cs, tail := cs }

/-- Read a value nested at most `depth` deep. -/
def readValue : (depth : Nat) → List Char → Outcome Json
  | _, [] => .error { fault := .emptyText, tail := [] }
  | 0, cs => .error { fault := .tooDeep, tail := cs }
  | depth + 1, c :: rest =>
    if c.toNat == 0x7b then
      match skipSpace rest with
      | [] => .error { fault := .inObject .missingBrace, tail := [] }
      | d :: more =>
        if d.toNat == 0x7d then .ok (.object [], more)
        else
          match readMembers (readValue depth) (d :: more).length (d :: more) with
          | .ok (members, tail) => .ok (.object members, tail)
          | .error f => .error (f.within .inObject)
    else if c == '[' then
      match skipSpace rest with
      | [] => .error { fault := .inArray .missingBracket, tail := [] }
      | ']' :: more => .ok (.array [], more)
      | more =>
        match readItems (readValue depth) more.length more with
        | .ok (items, tail) => .ok (.array items, tail)
        | .error f => .error (f.within .inArray)
    else if c == '"' then
      match readWritten rest with
      | .ok (body, tail) => .ok (.string (String.ofList (unescape body)), tail)
      | .error f => .error (f.within .inString)
    else if c == 't' then readWord ['t', 'r', 'u', 'e'] (.bool true) (c :: rest)
    else if c == 'f' then readWord ['f', 'a', 'l', 's', 'e'] (.bool false) (c :: rest)
    else if c == 'n' then
      if (c :: rest).take 4 != ['n', 'u', 'l', 'l'] && startsWithNonFinite (c :: rest) then
        .ok (.number (String.ofList ((c :: rest).take 3)), (c :: rest).drop 3)
      else readWord ['n', 'u', 'l', 'l'] .null (c :: rest)
    else readNumber (c :: rest)

/-- Why a text is no JSON text. -/
inductive ParseError where
  /-- A value could not be read. -/
  | malformed (fault : ReadFault) (tail : List Char)
  /-- Something follows the value. -/
  | unexpectedTail (tail : List Char)

/-- A text as a message shows it: in quotes, and only its two ends when it is long. -/
def showEnds (cs : List Char) : String :=
  let length := Text.byteLength cs
  if length ≤ 80 then String.ofList (Text.quoteChars cs)
  else Text.quoteGlyphs
    (Text.takeBytes 40 cs ++ Text.glyphs ['.', '.', '.'] ++ Text.dropBytes (length - 40) cs)

/-- The wording of a parse error. -/
def ParseError.message : ParseError → String
  | .malformed fault tail =>
    "cannot parse JSON: " ++ fault.message ++ "; unparsed tail: " ++ showEnds tail
  | .unexpectedTail tail => "unexpected tail: " ++ showEnds tail

/-- Read a JSON text. -/
def parse (text : String) : Except ParseError Json :=
  match readValue maxDepth (skipSpace text.toList) with
  | .error f => .error (.malformed f.fault f.tail)
  | .ok (v, rest) =>
    match skipSpace rest with
    | [] => .ok v
    | tail => .error (.unexpectedTail tail)

end DocQuery.Json
