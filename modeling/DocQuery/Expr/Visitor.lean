import DocQuery.Expr.Basic

/-!
# DocQuery.Expr.Visitor

One walk for all visitors. A `Visitor` has a handler for each kind of node, and `accept` calls the
one that a node is for.

Design points:

* most handlers get the results of the children, which are walked before them and left to right;
* conjunctions and comma expressions are handed over unwalked, with a walk for anything smaller,
  because their handlers look at the shape of what is below before they walk it;
* what the walk itself refuses (a missing node, a call without callee, a prefix operator that there
  is not) goes to `refuse`.
-/

namespace DocQuery

/-- Handlers for the kinds of nodes, which answer an `α` in `m`. -/
structure Visitor (m : Type → Type) (α : Type) where
  /-- A program. -/
  program (body : List α) : m α
  /-- A statement. -/
  statement (inner : α) : m α
  /-- A string literal. -/
  string (value : String) : m α
  /-- A number literal. -/
  number (literal : String) : m α
  /-- A boolean literal. -/
  boolean (value : Bool) : m α
  /-- A null literal. -/
  null : m α
  /-- A bare name. -/
  identifier (name : String) : m α
  /-- A property. -/
  member (property : String) (base : α) : m α
  /-- A binary operator other than conjunction. -/
  binary (op : String) (left right : α) : m α
  /-- A conjunction, unwalked. -/
  and (left right : Expr)
    (walk : (part : Expr) → sizeOf part < sizeOf (Expr.binary Expr.andToken left right) → m α) : m α
  /-- Arithmetic negation. -/
  negate (operand : α) : m α
  /-- Logical negation. -/
  not (operand : α) : m α
  /-- Removal. -/
  delete (operand : α) : m α
  /-- Increment. -/
  increment (operand : α) : m α
  /-- An array literal. -/
  array (elements : List α) : m α
  /-- A method call. -/
  call (method : String) (field : α) (args : List α) : m α
  /-- An assignment. -/
  assign (op : String) (target value : α) : m α
  /-- A comma expression, unwalked. -/
  sequence (left right : Expr)
    (walk : (part : Expr) → sizeOf part < sizeOf (Expr.sequence left right) → m α) : m α
  /-- A node that the walk refuses. -/
  refuse (kind : Kind) : m α

namespace Visitor

variable {m : Type → Type} {α : Type}

/-- The handler of a prefix operator. -/
def unary (v : Visitor m α) : UnaryOp → α → m α
  | .negate, operand => v.negate operand
  | .not, operand => v.not operand
  | .delete, operand => v.delete operand
  | .increment, operand => v.increment operand
  | .other _, _ => v.refuse .unary

end Visitor

namespace Expr

variable {m : Type → Type} [Monad m] {α : Type}

mutual

/-- Walk a tree with a visitor. -/
def accept (v : Visitor m α) (e : Expr) : m α :=
  match e with
  | .hole => v.refuse .invalid
  | .program body => do v.program (← acceptAll v body)
  | .statement inner => do v.statement (← accept v inner)
  | .string value => v.string value
  | .number literal => v.number literal
  | .bool value => v.boolean value
  | .null => v.null
  | .identifier name => v.identifier name
  | .member base property => do v.member property (← accept v base)
  | .binary op left right =>
    if op = andToken then v.and left right fun part _ => accept v part
    else do
      let left ← accept v left
      v.binary op left (← accept v right)
  | .unary op operand => do v.unary op (← accept v operand)
  | .array elements => do v.array (← acceptAll v elements)
  | .call field method args => do
    let field ← accept v field
    v.call method field (← acceptAll v args)
  | .detachedCall _ => v.refuse .call
  | .assign op target value => do
    let target ← accept v target
    v.assign op target (← accept v value)
  | .sequence left right => v.sequence left right fun part _ => accept v part
termination_by sizeOf e

/-- Walk trees one after another. -/
def acceptAll (v : Visitor m α) (es : List Expr) : m (List α) :=
  match es with
  | [] => pure []
  | e :: rest => do
    let a ← accept v e
    return a :: (← acceptAll v rest)
termination_by sizeOf es

end

end Expr

end DocQuery
