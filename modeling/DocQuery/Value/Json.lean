import DocQuery.Text.Quoted
import DocQuery.Value.Basic

/-!
# DocQuery.Value.Json

Compact JSON text of values. Keys keep their order, numbers their literal text, and strings are
escaped only where JSON requires it, apart from the two line separators U+2028 and U+2029, which
are always escaped.

Design points:

* `writeWith` takes the writer of strings as an argument: canonical text differs in nothing else;
* a value that has no JSON text is refused with the place where it stands (`RenderError`).
-/

namespace DocQuery

/-- Why a value cannot be rendered. -/
inductive RenderError where
  /-- A number whose text is no JSON number. -/
  | invalidNumber (text : String)
  /-- A document that is not there. -/
  | absentDocument
  /-- A value that is not there. -/
  | absentValue
  /-- A number too large for a double. -/
  | outOfRange (text : String)
  /-- A fault in an item of an array. -/
  | atIndex (i : Nat) (fault : RenderError)
  /-- A fault in the value of a key. -/
  | atKey (key : String) (fault : RenderError)
deriving Repr, DecidableEq

/-- The wording of a render error. -/
def RenderError.message : RenderError → String
  | .invalidNumber text => "invalid number literal " ++ Text.quote text
  | .absentDocument => "nil document"
  | .absentValue => "unknown document value type: <nil>"
  | .outOfRange text =>
    "number " ++ text ++ ": strconv.ParseFloat: parsing " ++ Text.quote text ++
      ": value out of range"
  | .atIndex i fault => "array[" ++ toString i ++ "]: " ++ fault.message
  | .atKey key fault => "value for key " ++ Text.quote key ++ ": " ++ fault.message

namespace Json

/-- One character inside a JSON string. -/
def escapeChar (c : Char) : List Char :=
  if c == '"' || c == '\\' then ['\\', c]
  else if c == '\n' then ['\\', 'n']
  else if c == '\r' then ['\\', 'r']
  else if c == '\t' then ['\\', 't']
  else if c.toNat == 0x08 then ['\\', 'b']
  else if c.toNat == 0x0c then ['\\', 'f']
  else if c.toNat < 0x20 || c.toNat == 0x2028 || c.toNat == 0x2029 then
    '\\' :: 'u' :: Text.hexDigits 4 c.toNat
  else [c]

/-- A JSON string. -/
def writeString (cs : List Char) : List Char :=
  '"' :: cs.flatMap escapeChar ++ ['"']

end Json

namespace Value

/-- Put the place of a fault around it. -/
def located (place : RenderError → RenderError) : Except RenderError α → Except RenderError α
  | .ok a => .ok a
  | .error e => .error (place e)

/-- The comma before every item but the first. -/
def separator (i : Nat) : List Char := if i = 0 then [] else [',']

mutual

/-- The compact JSON text of a value, its strings written by `str`. -/
def writeWith (str : List Char → List Char) : Value → Except RenderError (List Char)
  | .null => .ok ['n', 'u', 'l', 'l']
  | .bool true => .ok ['t', 'r', 'u', 'e']
  | .bool false => .ok ['f', 'a', 'l', 's', 'e']
  | .string s => .ok (str s.toList)
  | .number text =>
    if Decimal.isNumber text then .ok text.toList else .error (.invalidNumber text)
  | .array items => do
    let body ← writeItems str 0 items
    .ok ('[' :: body ++ [']'])
  | .document elements => do
    let body ← writeElements str 0 elements
    .ok (Char.ofNat 0x7b :: body ++ [Char.ofNat 0x7d])
  | .absentDocument => .error .absentDocument
  | .absent => .error .absentValue

/-- The items of an array from position `i` on, with commas between them. -/
def writeItems (str : List Char → List Char) : (i : Nat) → List Value →
    Except RenderError (List Char)
  | _, [] => .ok []
  | i, v :: rest => do
    let head ← located (.atIndex i) (writeWith str v)
    let tail ← writeItems str (i + 1) rest
    .ok (separator i ++ head ++ tail)

/-- The elements of a document from position `i` on, with commas between them. -/
def writeElements (str : List Char → List Char) : (i : Nat) → List (String × Value) →
    Except RenderError (List Char)
  | _, [] => .ok []
  | i, (key, v) :: rest => do
    let head ← located (.atKey key) (writeWith str v)
    let tail ← writeElements str (i + 1) rest
    .ok (separator i ++ str key.toList ++ ':' :: head ++ tail)

end

/-- The compact JSON text of a value, as characters. -/
def writeJson (v : Value) : Except RenderError (List Char) :=
  v.writeWith Json.writeString

/-- The compact JSON text of a value. -/
def toJson (v : Value) : Except RenderError String :=
  v.writeJson.map String.ofList

end Value

/-- The text of a document for a reader: its JSON text, or the reason why there is none. -/
def Document.describe (d : Document) : String :=
  match (Value.document d).toJson with
  | .ok text => text
  | .error e => "<invalid document: " ++ e.message ++ ">"

end DocQuery
