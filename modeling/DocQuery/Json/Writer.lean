import DocQuery.Json.Basic
import DocQuery.Text.Quoted
import DocQuery.Value.Json

/-!
# DocQuery.Json.Writer

The text of JSON values as tree files are written: compact, members in order. A string without
quotes, backslashes and control characters stands as it is; any other one is written the way
diagnostics quote text, whose escapes for unprintable characters a strict reader of JSON may
refuse.
-/

namespace DocQuery.Json

/-- Whether a string has to be quoted with escapes. -/
def needsEscapes (cs : List Char) : Bool :=
  cs.any fun c => c == '"' || c == '\\' || c.toNat < 0x20

/-- A string as tree files hold it. -/
def writeTreeString (cs : List Char) : List Char :=
  if needsEscapes cs then Text.quoteChars cs else '"' :: cs ++ ['"']

mutual

/-- The compact text of a value. -/
def write : Json → List Char
  | .null => ['n', 'u', 'l', 'l']
  | .bool true => ['t', 'r', 'u', 'e']
  | .bool false => ['f', 'a', 'l', 's', 'e']
  | .number text => text.toList
  | .string s => writeTreeString s.toList
  | .array items => '[' :: writeItems 0 items ++ [']']
  | .object members => Char.ofNat 0x7b :: writeMembers 0 members ++ [Char.ofNat 0x7d]

/-- The items of an array from position `i` on. -/
def writeItems : (i : Nat) → List Json → List Char
  | _, [] => []
  | i, v :: rest => Value.separator i ++ v.write ++ writeItems (i + 1) rest

/-- The members of an object from position `i` on. -/
def writeMembers : (i : Nat) → List (String × Json) → List Char
  | _, [] => []
  | i, (key, v) :: rest =>
    Value.separator i ++ writeTreeString key.toList ++ ':' :: v.write ++ writeMembers (i + 1) rest

end

/-- The compact text of a value. -/
def toText (j : Json) : String := String.ofList j.write

end DocQuery.Json
