import DocQuery.Expr.Basic
import DocQuery.Json.Writer

/-!
# DocQuery.Expr.Encode

Expression trees as JSON. Every node is an object whose first member, `kind`, names the node's kind;
the other members follow in a fixed order. A tree with a missing node, or a call without a callee,
has no JSON form.
-/

namespace DocQuery

/-- Why a tree has no JSON form. -/
inductive EncodeError where
  /-- A node is missing. -/
  | absentNode
  /-- A call has no callee. -/
  | absentCallee
deriving Repr, DecidableEq

/-- The wording of an encode error. -/
def EncodeError.message : EncodeError → String
  | .absentNode => "encode tree: nil node"
  | .absentCallee => "encode tree: call without callee"

namespace Expr

/-- The object of a node. -/
def nodeObject (kind : Kind) (members : List (String × Json)) : Json :=
  .object (("kind", .string kind.name) :: members)

mutual

/-- The JSON form of a tree. -/
def encode : Expr → Except EncodeError Json
  | .hole => .error .absentNode
  | .program body => do
    let body ← encodeAll body
    .ok (nodeObject .program [("body", .array body)])
  | .statement e => do
    let e ← encode e
    .ok (nodeObject .statement [("expression", e)])
  | .string value => .ok (nodeObject .string [("value", .string value)])
  | .number literal => .ok (nodeObject .number [("literal", .string literal)])
  | .bool value => .ok (nodeObject .boolean [("value", .bool value)])
  | .null => .ok (nodeObject .null [])
  | .identifier name => .ok (nodeObject .identifier [("name", .string name)])
  | .member base property => do
    let base ← encode base
    .ok (nodeObject .member [("object", base), ("property", .string property)])
  | .binary op left right => do
    let left ← encode left
    let right ← encode right
    .ok (nodeObject .binary [("operator", .string op), ("left", left), ("right", right)])
  | .unary op operand => do
    let operand ← encode operand
    .ok (nodeObject .unary [("operator", .string op.token), ("operand", operand)])
  | .array elements => do
    let elements ← encodeAll elements
    .ok (nodeObject .array [("elements", .array elements)])
  | .call field method args => do
    let base ← encode field
    let args ← encodeAll args
    let callee := nodeObject .member [("object", base), ("property", .string method)]
    .ok (nodeObject .call [("callee", callee), ("arguments", .array args)])
  | .detachedCall _ => .error .absentCallee
  | .assign op target value => do
    let target ← encode target
    let value ← encode value
    .ok (nodeObject .assign [("operator", .string op), ("target", target), ("value", value)])
  | .sequence left right => do
    let left ← encode left
    let right ← encode right
    .ok (nodeObject .sequence [("left", left), ("right", right)])

/-- The JSON forms of a list of trees. -/
def encodeAll : List Expr → Except EncodeError (List Json)
  | [] => .ok []
  | e :: rest => do
    let head ← encode e
    let tail ← encodeAll rest
    .ok (head :: tail)

end

/-- The text of a tree file. -/
def toTreeText (e : Expr) : Except EncodeError String := e.encode.map Json.toText

end Expr

end DocQuery
