import DocQuery.Value.Json
import DocQuery.Yaml.Resolve

/-!
# DocQuery.Yaml.Node

What a YAML document is made of: scalars with a wanted style, sequences and mappings. `ofValue`
gives the node of a document value. A scalar asks for a style, and the emitter falls back to
another one where the text does not allow it.
-/

namespace DocQuery.Yaml

/-- The style a scalar asks for. -/
inductive Style where
  /-- The text as it is. -/
  | plain
  /-- Double quotes. -/
  | doubleQuoted
  /-- A literal block, one line of text a line. -/
  | literal
deriving Repr, DecidableEq

/-- A scalar: its text, the style it asks for, and the tag it has to show, if any. -/
structure Scalar where
  /-- The text. -/
  text : String
  /-- The wanted style. -/
  style : Style
  /-- The tag to be written out. -/
  tag : Option Tag
deriving Repr, DecidableEq

/-- A node of a YAML document. -/
inductive Node where
  /-- A scalar. -/
  | scalar (s : Scalar)
  /-- A sequence. -/
  | sequence (items : List Node)
  /-- A mapping. -/
  | mapping (entries : List (Scalar × Node))
deriving Repr

namespace Scalar

/-- A scalar of a given type. The tag is shown only when the text would be read back as another
type; a string is quoted instead, and split over lines when it has several. -/
def ofTagged (tag : Tag) (text : String) : Scalar :=
  let same := resolve text == tag
  let style :=
    if text.toList.contains '\n' then .literal
    else if !same && tag == .str then .doubleQuoted
    else .plain
  { text, style, tag := if same || tag == .str then none else some tag }

/-- A string. -/
def ofString (text : String) : Scalar := ofTagged .str text

/-- A string, quoted also where other dialects would read a number of base sixty or a boolean. -/
def ofStringGuarded (text : String) : Scalar :=
  let style :=
    if text.toList.contains '\n' then .literal
    else if resolve text == .str && !isSexagesimal text.toList && !isOldBoolean text then .plain
    else .doubleQuoted
  { text, style, tag := none }

end Scalar

namespace Node

mutual

/-- The node of a value. -/
def ofValue : Value → Except RenderError Node
  | .null => .ok (.scalar (.ofTagged .null "null"))
  | .bool b => .ok (.scalar (.ofTagged .bool (if b then "true" else "false")))
  | .string s => .ok (.scalar (.ofString s))
  | .number text =>
    if !Decimal.isNumber text then .error (.invalidNumber text)
    else .ok (.scalar (.ofTagged (if Decimal.isInteger text then .int else .float) text))
  | .array items => (ofItems 0 items).map .sequence
  | .document elements => (ofElements elements).map .mapping
  | .absentDocument => .error .absentDocument
  | .absent => .error .absentValue

/-- The nodes of the items of an array from position `i` on. -/
def ofItems : (i : Nat) → List Value → Except RenderError (List Node)
  | _, [] => .ok []
  | i, v :: rest => do
    let head ← Value.located (.atIndex i) (ofValue v)
    let tail ← ofItems (i + 1) rest
    .ok (head :: tail)

/-- The entries of the elements of a document. -/
def ofElements : List (String × Value) → Except RenderError (List (Scalar × Node))
  | [] => .ok []
  | (key, v) :: rest => do
    let head ← Value.located (.atKey key) (ofValue v)
    let tail ← ofElements rest
    .ok ((.ofString key, head) :: tail)

end

end Node

end DocQuery.Yaml
