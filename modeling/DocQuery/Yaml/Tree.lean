import DocQuery.Json.Basic
import DocQuery.Yaml.Emitter

/-!
# DocQuery.Yaml.Tree

Expression trees as YAML. The YAML text says what the tree's JSON text says when that is read as
YAML, so a character that YAML text may not hold must not stand in it unescaped.
-/

namespace DocQuery.Yaml

mutual

/-- The node of a JSON value. -/
def Node.ofJson : Json → Node
  | .object members => .mapping (entriesOfJson members)
  | .array items => .sequence (itemsOfJson items)
  | .string s => .scalar (.ofString s)
  | .number text => .scalar { text, style := .plain, tag := none }
  | .bool b => .scalar (.ofTagged .bool (if b then "true" else "false"))
  | .null => .scalar (.ofTagged .null "null")

/-- The nodes of the items of an array. -/
def itemsOfJson : List Json → List Node
  | [] => []
  | j :: rest => Node.ofJson j :: itemsOfJson rest

/-- The entries of the members of an object. -/
def entriesOfJson : List (String × Json) → List (Scalar × Node)
  | [] => []
  | (key, j) :: rest => (.ofString key, Node.ofJson j) :: entriesOfJson rest

end

/-- Whether YAML text may hold a character unescaped. -/
def isAllowed (c : Char) : Bool :=
  let n := c.toNat
  n == 0x09 || n == 0x0a || n == 0x0d || (0x20 ≤ n && n ≤ 0x7e) || n == 0x85 ||
    (0xa0 ≤ n && n ≤ 0xd7ff) || (0xe000 ≤ n && n ≤ 0xfffd) || 0x10000 ≤ n

end DocQuery.Yaml
