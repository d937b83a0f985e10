import DocQuery.Expr.Basic
import DocQuery.Json.Reader

/-!
# DocQuery.Expr.Decode

Expression trees from JSON. A node is an object whose `kind` names a node kind and which has the
members of that kind, each of the right type; other members are ignored. A fault is reported with
the path to the place where it was found, starting at `$`.
-/

namespace DocQuery

/-- Why a JSON value is no tree. -/
inductive DecodeError where
  /-- The text is no JSON text. -/
  | unreadable (error : Json.ParseError)
  /-- A value that is no object. -/
  | notANode (path : String)
  /-- A callee that is no member access. -/
  | notAMember (path : String)
  /-- A member that is missing. -/
  | missing (path key : String)
  /-- A member of another type than it should have. -/
  | wrongType (path key expected found : String)
  /-- A token that is no prefix operator. -/
  | unknownUnary (path token : String)
  /-- A name that is no node kind. -/
  | unknownKind (path name : String)

/-- The wording of a decode error. -/
def DecodeError.message : DecodeError → String
  | .unreadable error => "decode tree: " ++ error.message
  | .notANode path => path ++ ": expected a node object"
  | .notAMember path => path ++ ": expected a MemberAccess node"
  | .missing path key => path ++ "." ++ key ++ ": missing"
  | .wrongType path key expected found =>
    path ++ "." ++ key ++ ": value doesn't contain " ++ expected ++ "; it contains " ++ found
  | .unknownUnary path token =>
    path ++ ".operator: unknown unary operator " ++ Text.quote token
  | .unknownKind path name => path ++ ".kind: unknown node kind " ++ Text.quote name

namespace Expr

/-- The text of an object's `kind`; empty when it has none. -/
def kindText (members : List (String × Json)) : String :=
  match Json.look members [] "kind" with
  | some (.string s) => s
  | _ => ""

/-- A string member. -/
def stringMember (members : List (String × Json)) (asked : List String) (key path : String) :
    Except DecodeError String :=
  match Json.look members asked key with
  | none => .error (.missing path key)
  | some (.string s) => .ok s
  | some other => .error (.wrongType path key "string" other.typeName)

/-- A boolean member. -/
def boolMember (members : List (String × Json)) (asked : List String) (key path : String) :
    Except DecodeError Bool :=
  match Json.look members asked key with
  | none => .error (.missing path key)
  | some (.bool b) => .ok b
  | some other => .error (.wrongType path key "bool" other.typeName)

/-! ### Members that hold trees

A decoder for smaller values is an argument here, and the recursion is closed below. -/

/-- The tree at a key. -/
def childWith (members : List (String × Json))
    (dec : (v : Json) → sizeOf v < sizeOf members → String → Except DecodeError Expr)
    (asked : List String) (key path : String) : Except DecodeError Expr :=
  match h : Json.look members asked key with
  | none => .error (.notANode (path ++ "." ++ key))
  | some v => dec v (Json.sizeOf_look_lt h) (path ++ "." ++ key)

/-- The trees of the array at a key. -/
def listWith (members : List (String × Json))
    (dec : (items : List Json) → sizeOf items < sizeOf members → String →
      Except DecodeError (List Expr))
    (asked : List String) (key path : String) : Except DecodeError (List Expr) :=
  match h : Json.look members asked key with
  | none => .error (.missing path key)
  | some (.array items) => dec items (Json.sizeOf_items_lt h) (path ++ "." ++ key)
  | some other => .error (.wrongType path key "array" other.typeName)

/-- The base and the property of a callee. -/
def calleeWith (members : List (String × Json))
    (dec : (callee : List (String × Json)) → sizeOf callee < sizeOf members → String →
      Except DecodeError (Expr × String))
    (path : String) : Except DecodeError (Expr × String) :=
  match h : Json.look members ["kind"] "callee" with
  | some (.object callee) =>
    if Kind.ofName (kindText callee) = .member then
      dec callee (Json.sizeOf_members_lt h) (path ++ ".callee")
    else .error (.notAMember (path ++ ".callee"))
  | _ => .error (.notAMember (path ++ ".callee"))

section Found

variable {members : List (String × Json)} {asked : List String} {key path : String}

theorem childWith_of_look {v : Json}
    {dec : (v : Json) → sizeOf v < sizeOf members → String → Except DecodeError Expr}
    (h : Json.look members asked key = some v) :
    childWith members dec asked key path =
      dec v (Json.sizeOf_look_lt h) (path ++ "." ++ key) := by
  unfold childWith
  split
  · next heq => rw [h] at heq; cases heq
  · next heq => rw [h] at heq; cases heq; rfl

theorem listWith_of_look {items : List Json}
    {dec : (items : List Json) → sizeOf items < sizeOf members → String →
      Except DecodeError (List Expr)}
    (h : Json.look members asked key = some (.array items)) :
    listWith members dec asked key path =
      dec items (Json.sizeOf_items_lt h) (path ++ "." ++ key) := by
  unfold listWith
  split
  · next heq => rw [h] at heq; cases heq
  · next heq => rw [h] at heq; cases heq; rfl
  · next hne heq => rw [h] at heq; cases heq; exact absurd rfl (hne items)

theorem calleeWith_of_look {callee : List (String × Json)}
    {dec : (callee : List (String × Json)) → sizeOf callee < sizeOf members → String →
      Except DecodeError (Expr × String)}
    (h : Json.look members ["kind"] "callee" = some (.object callee))
    (hkind : Kind.ofName (kindText callee) = .member) :
    calleeWith members dec path = dec callee (Json.sizeOf_members_lt h) (path ++ ".callee") := by
  unfold calleeWith
  split
  · next heq =>
    rw [h] at heq
    cases heq
    exact if_pos hkind
  · next hne => exact absurd h (hne callee)

end Found

mutual

/-- The tree of a JSON value found at `path`. -/
def decode (j : Json) (path : String) : Except DecodeError Expr :=
  match j with
  | .object members =>
    let child (asked : List String) (key : String) : Except DecodeError Expr :=
      childWith members (fun v _ place => decode v place) asked key path
    let list (asked : List String) (key : String) : Except DecodeError (List Expr) :=
      listWith members (fun items _ place => decodeItems items place 0) asked key path
    match Kind.ofName (kindText members) with
    | .invalid => .error (.unknownKind path (kindText members))
    | .program => do
      let body ← list ["kind"] "body"
      .ok (.program body)
    | .statement => do
      let e ← child ["kind"] "expression"
      .ok (.statement e)
    | .string => do
      let value ← stringMember members ["kind"] "value" path
      .ok (.string value)
    | .number => do
      let literal ← stringMember members ["kind"] "literal" path
      .ok (.number literal)
    | .boolean => do
      let value ← boolMember members ["kind"] "value" path
      .ok (.bool value)
    | .null => .ok .null
    | .identifier => do
      let name ← stringMember members ["kind"] "name" path
      .ok (.identifier name)
    | .member => do
      let (base, property) ← decodeMember members path
      .ok (.member base property)
    | .binary => do
      let op ← stringMember members ["kind"] "operator" path
      let left ← child ["kind", "operator"] "left"
      let right ← child ["kind", "operator", "left"] "right"
      .ok (.binary op left right)
    | .unary => do
      let token ← stringMember members ["kind"] "operator" path
      match UnaryOp.ofToken? token with
      | none => .error (.unknownUnary path token)
      | some op =>
        let operand ← child ["kind", "operator"] "operand"
        .ok (.unary op operand)
    | .array => do
      let elements ← list ["kind"] "elements"
      .ok (.array elements)
    | .call => do
      let (field, method) ← calleeWith members (fun callee _ place => decodeMember callee place) path
      let args ← list ["kind", "callee"] "arguments"
      .ok (.call field method args)
    | .assign => do
      let op ← stringMember members ["kind"] "operator" path
      let target ← child ["kind", "operator"] "target"
      let value ← child ["kind", "operator", "target"] "value"
      .ok (.assign op target value)
    | .sequence => do
      let left ← child ["kind"] "left"
      let right ← child ["kind", "left"] "right"
      .ok (.sequence left right)
  | _ => .error (.notANode path)
termination_by sizeOf j
decreasing_by all_goals simp only [Json.object.sizeOf_spec]; omega

/-- The base and the property of a member access. -/
def decodeMember (members : List (String × Json)) (path : String) :
    Except DecodeError (Expr × String) := do
  let base ← childWith members (fun v _ place => decode v place) ["kind"] "object" path
  let property ← stringMember members ["kind", "object"] "property" path
  .ok (base, property)
termination_by sizeOf members

/-- The trees of the items of a list from position `i` on. -/
def decodeItems (items : List Json) (path : String) (i : Nat) : Except DecodeError (List Expr) :=
  match items with
  | [] => .ok []
  | v :: rest => do
    let head ← decode v (path ++ "[" ++ toString i ++ "]")
    let tail ← decodeItems rest path (i + 1)
    .ok (head :: tail)
termination_by sizeOf items

end

/-- The tree of a tree file. -/
def ofTreeText (text : String) : Except DecodeError Expr :=
  match Json.parse text with
  | .error e => .error (.unreadable e)
  | .ok j => decode j "$"

end Expr

end DocQuery
