import DocQuery.Decimal.Integer
import DocQuery.Decimal.Shortest
import DocQuery.Value.Json

/-!
# DocQuery.Value.Bson

Documents as a database driver holds them: the text of a number is replaced by a 64-bit integer
where the literal is an integer that fits one, and by a double otherwise. `toExtendedJson` writes
the result as relaxed Extended JSON, where an integer is plain and a double always shows a point or
an exponent.
-/

namespace DocQuery

/-- A driver value. -/
inductive Bson where
  /-- The null value. -/
  | null
  /-- A boolean. -/
  | bool (b : Bool)
  /-- A string. -/
  | string (s : String)
  /-- A 64-bit integer. -/
  | int64 (n : Int)
  /-- A finite double. -/
  | double (negative : Bool) (magnitude : Decimal.Magnitude)
  /-- A list of values. -/
  | array (items : List Bson)
  /-- A document: keys and values in order. -/
  | document (elements : List (String × Bson))
deriving Repr

namespace Bson

/-- The double nearest to a literal. -/
def ofLiteral (text : String) : Except RenderError Bson :=
  match Decimal.Exact.read? text.toList with
  | none => .error (.invalidNumber text)
  | some exact =>
    match Decimal.Binary64.ofExact exact with
    | .finite negative magnitude => .ok (.double negative magnitude)
    | .infinite _ => .error (.outOfRange text)

/-- The exact value of an integer literal. -/
def integerValue (text : String) : Int :=
  match text.toList with
  | '-' :: digits => -(Decimal.natOfDigits digits : Int)
  | digits => Decimal.natOfDigits digits

/-- The driver value of a number: an integer when the literal is one and fits, else a double. -/
def ofNumber (text : String) : Except RenderError Bson :=
  if !Decimal.isNumber text then .error (.invalidNumber text)
  else if Decimal.isInteger text && Decimal.fitsInt64 (integerValue text) then
    .ok (.int64 (integerValue text))
  else ofLiteral text

mutual

/-- The driver value of a value. -/
def ofValue : Value → Except RenderError Bson
  | .null => .ok .null
  | .bool b => .ok (.bool b)
  | .string s => .ok (.string s)
  | .number text => ofNumber text
  | .array items => (ofItems 0 items).map .array
  | .document elements => (ofElements elements).map .document
  | .absentDocument => .error .absentDocument
  | .absent => .error .absentValue

/-- The driver values of the items of an array from position `i` on. -/
def ofItems : (i : Nat) → List Value → Except RenderError (List Bson)
  | _, [] => .ok []
  | i, v :: rest => do
    let head ← Value.located (.atIndex i) (ofValue v)
    let tail ← ofItems (i + 1) rest
    .ok (head :: tail)

/-- The driver values of the elements of a document. -/
def ofElements : List (String × Value) → Except RenderError (List (String × Bson))
  | [] => .ok []
  | (key, v) :: rest => do
    let head ← Value.located (.atKey key) (ofValue v)
    let tail ← ofElements rest
    .ok ((key, head) :: tail)

end

/-- Doubles in Extended JSON: a capital exponent mark, and always a point or an exponent. -/
def doubleLayout : Decimal.Layout := { mark := 'E', keepPoint := true }

mutual

/-- Relaxed Extended JSON text. -/
def writeExtended : Bson → List Char
  | .null => ['n', 'u', 'l', 'l']
  | .bool true => ['t', 'r', 'u', 'e']
  | .bool false => ['f', 'a', 'l', 's', 'e']
  | .string s => Json.writeString s.toList
  | .int64 n => (toString n).toList
  | .double negative magnitude => (doubleLayout.write negative magnitude).toList
  | .array items => '[' :: writeExtendedItems 0 items ++ [']']
  | .document elements =>
    Char.ofNat 0x7b :: writeExtendedElements 0 elements ++ [Char.ofNat 0x7d]

/-- The items of an array from position `i` on. -/
def writeExtendedItems : (i : Nat) → List Bson → List Char
  | _, [] => []
  | i, b :: rest => Value.separator i ++ b.writeExtended ++ writeExtendedItems (i + 1) rest

/-- The elements of a document from position `i` on. -/
def writeExtendedElements : (i : Nat) → List (String × Bson) → List Char
  | _, [] => []
  | i, (key, b) :: rest =>
    Value.separator i ++ Json.writeString key.toList ++ ':' :: b.writeExtended ++
      writeExtendedElements (i + 1) rest

end

/-- Relaxed Extended JSON text. -/
def toExtendedJson (b : Bson) : String := String.ofList b.writeExtended

end Bson

end DocQuery
