import DocQuery.Expr.Basic
import DocQuery.Script.Grammar

/-!
# DocQuery.Script.Convert

From scripts to expression trees. `parse` reads a source and keeps its expression statements; the
first construct that a tree cannot hold, depth first and from left to right, is reported with its
place.
-/

namespace DocQuery.Script

/-- A construct that a tree cannot hold, before its place is worked out. -/
structure Obstacle where
  /-- The nearest kind of node. -/
  kind : Kind
  /-- The name of the construct. -/
  construct : String
  /-- Where it starts, if it has a place. -/
  start : Option Nat
deriving Repr, DecidableEq

/-- The report of an obstacle in a source. -/
def Obstacle.report (src : String) (o : Obstacle) : Unsupported :=
  let offset : Int := match o.start with
    | some start => start
    | none => -1
  { kind := o.kind, construct := o.construct, place := Text.position src offset, offset }

mutual

/-- The expression tree of an expression. -/
def Tree.toExpr : Tree → Except Obstacle Expr
  | .string _ _ value => .ok (.string value)
  | .number start literal value =>
    match numberText? literal value with
    | some text => .ok (.number text)
    | none => .error ⟨.number, "number literal " ++ literal, some start⟩
  | .bool _ value => .ok (.bool value)
  | .null _ => .ok .null
  | .identifier _ name => .ok (.identifier name)
  | .dot base property _ => do return .member (← base.toExpr) property
  | .binary op left right => do
    let left ← left.toExpr
    return .binary op left (← right.toExpr)
  | .unary start op operand =>
    match UnaryOp.ofToken? op with
    | some unaryOp => do return .unary unaryOp (← operand.toExpr)
    | none => .error ⟨.unary, "unary " ++ op, some start⟩
  | .suffixed op operand => .error ⟨.unary, "postfix " ++ op, operand.start⟩
  | .array start _ items => do return .array (← itemsToExprs start items)
  | .call (.dot base method _) args _ => do
    let field ← base.toExpr
    return .call field method (← argsToExprs args)
  | .call callee _ _ => .error ⟨.call, "call of " ++ callee.construct, callee.start⟩
  | .assign op target value => do
    let target ← target.toExpr
    return .assign op target (← value.toExpr)
  | .sequence [] => .error ⟨.sequence, "empty sequence", none⟩
  | .sequence items => do return .chain (← argsToExprs items)
  | t => .error ⟨.invalid, t.construct, t.start⟩

/-- The expression trees of the items of an array literal that starts at `start`. -/
def itemsToExprs (start : Nat) : List Tree → Except Obstacle (List Expr)
  | [] => .ok []
  | .elision :: _ => .error ⟨.array, "array elision", some start⟩
  | t :: rest => do
    let e ← t.toExpr
    return e :: (← itemsToExprs start rest)

/-- The expression trees of arguments or of the members of a comma expression. -/
def argsToExprs : List Tree → Except Obstacle (List Expr)
  | [] => .ok []
  | t :: rest => do
    let e ← t.toExpr
    return e :: (← argsToExprs rest)

end

/-- The statements of a program. Empty ones are dropped. -/
def toProgram : List Statement → Except Obstacle (List Expr)
  | [] => .ok []
  | .empty :: rest => toProgram rest
  | .expression tree :: rest => do
    let e ← tree.toExpr
    return .statement e :: (← toProgram rest)
  | .other construct start :: _ => .error ⟨.statement, construct, start⟩
  | .bad :: _ => .error ⟨.statement, "BadStatement", none⟩

/-- Parse a source into a program. -/
def parse (src : String) : Except ParseError Expr :=
  match read src with
  | .error fault => .error (.syntaxError (fault.report src))
  | .ok body =>
    match toProgram body with
    | .error obstacle => .error (.unsupported (obstacle.report src))
    | .ok statements => .ok (.program statements)

end DocQuery.Script
